import TapTracker.Config.Settings
import TapTracker.Proofs.Pattern.Literal
import TapTracker.Proofs.Success

/-!
# Settings that resolve

`Settings.resolve` succeeds exactly if each of its settings does (`Settings.resolve_eq_ok`).  A
signature that is set nowhere is the one of the alias of the product, so that the adapters of the
product are those whose aliases differ from it by case only (`Settings.owns_iff_of_derived`).
-/

namespace TapTracker

namespace Settings

variable {line : CommandLine} {file : ConfigFile} {s : Settings}

/-- Each of the settings is what the command line, the file and the defaults make it. -/
structure ResolvedFrom (line : CommandLine) (file : ConfigFile) (s : Settings) : Prop where
  adapterClass : resolveClass line file = .ok s.adapterClass
  productAlias : resolveAlias line file = .ok s.productAlias
  signature : resolveSignature line file s.productAlias = .ok s.signature
  installTimeout : resolveTimeout line file = .ok s.installTimeout
  rename : s.rename = resolveRename line file
  verbose : s.verbose = line.verbose

/-- Settings resolve exactly if each of them does. -/
lemma resolve_eq_ok : resolve line file = .ok s ↔ ResolvedFrom line file s := by
  simp only [resolve, bind_eq_ok]
  constructor
  · rintro ⟨cls, hcls, aliasName, halias, signature, hsignature, timeout, htimeout, hs⟩
    obtain rfl := Except.ok.inj hs
    exact ⟨hcls, halias, hsignature, htimeout, rfl, rfl⟩
  · intro h
    refine ⟨_, h.adapterClass, _, h.productAlias, _, h.signature, _, h.installTimeout, ?_⟩
    rw [← h.rename, ← h.verbose]

/-- A signature that is set nowhere is derived from the alias of the product. -/
lemma ofAlias_of_derived (h : resolve line file = .ok s)
    (hderived : line.signature = none ∧ file.signature = none) :
    AliasSignature.ofAlias s.productAlias = .ok s.signature := by
  have hsignature := (resolve_eq_ok.1 h).signature
  rw [resolveSignature, hderived.1, hderived.2] at hsignature
  exact mapError_eq_ok.1 hsignature

/-- Under a derived signature an adapter belongs to the product if its alias is that of the product
up to case. -/
lemma owns_iff_of_derived (h : resolve line file = .ok s)
    (hderived : line.signature = none ∧ file.signature = none) (a : TapAdapter) :
    s.owns a ↔
      a.aliasName.toList.map Text.foldCase = s.productAlias.toList.map Text.foldCase :=
  AliasSignature.includes_of_ofAlias (ofAlias_of_derived h hderived) a.aliasName

end Settings

end TapTracker
