import TapTracker.Proofs.Config.Merge
import TapTracker.Proofs.Text.Blank

/-!
# Settings that are resolved again

Settings keep the texts of their patterns, an alias without blanks around it and a time limit above
zero.  A command line can therefore say all of them at once (`Settings.asLine`).

`Settings.IsValid` is what resolving makes sure of: the texts of the patterns stand for the patterns
again, also where the signature is derived from the alias, and the alias and the time limit pass
their checks unchanged.  Settings that resolve are valid (`Settings.isValid_of_resolve`), and the
command line of valid settings resolves to them, whatever file it stands beside
(`Settings.IsValid.resolve_asLine`).  Only a file that turns the renaming off must be left out,
since no command line can turn it on again.
-/

namespace TapTracker

/-! ### Texts of patterns -/

/-- A pattern keeps the text that it is read from. -/
lemma Pattern.text_of_compile {text : String} {p : Pattern} (h : compile text = .ok p) :
    p.text = text := by
  rw [compile] at h
  split at h
  · cases h
  · split at h
    · cases h
    · split at h
      · cases h
        rfl
      · cases h

/-- The text of a class is a pattern of the same class. -/
lemma AdapterClass.ofPattern_text {text : String} {cls : AdapterClass}
    (h : ofPattern text = .ok cls) : ofPattern cls.text = .ok cls := by
  obtain ⟨p, hp, rfl⟩ := map_eq_ok.1 h
  rw [AdapterClass.text, Pattern.text_of_compile hp]
  exact h

/-- The text of a signature is a pattern of the same signature. -/
lemma AliasSignature.ofPattern_text {text : String} {signature : AliasSignature}
    (h : ofPattern text = .ok signature) : ofPattern signature.text = .ok signature := by
  obtain ⟨p, hp, rfl⟩ := map_eq_ok.1 h
  rw [AliasSignature.text, Pattern.text_of_compile hp]
  exact h

/-! ### Valid settings -/

namespace Settings

/-- The command line of an installation that says all the settings. -/
def asLine (s : Settings) (installer : List String) (config : Option String) (verbose : Bool) :
    CommandLine where
  command := .install (some s.installTimeout) (!s.rename) installer
  adapterClass := some s.adapterClass.text
  productAlias := some s.productAlias
  signature := some s.signature.text
  config
  verbose

/-- What the texts of the settings say is what the settings are. -/
structure IsValid (s : Settings) : Prop where
  adapterClass : AdapterClass.ofPattern s.adapterClass.text = .ok s.adapterClass
  signature : AliasSignature.ofPattern s.signature.text = .ok s.signature
  allowed : IsAllowedAlias s.productAlias
  trimmed : Text.IsTrimmed s.productAlias
  installTimeout : 1 ≤ s.installTimeout

variable {line : CommandLine} {file : ConfigFile} {s : Settings} {installer : List String}
  {config : Option String} {verbose : Bool}

/-- A signature is given as a pattern or derived as one. -/
lemma exists_ofPattern_of_resolveSignature {aliasName : String} {signature : AliasSignature}
    (h : resolveSignature line file aliasName = .ok signature) :
    ∃ text, AliasSignature.ofPattern text = .ok signature := by
  rw [resolveSignature] at h
  split at h
  · exact ⟨_, mapError_eq_ok.1 h⟩
  · exact ⟨_, mapError_eq_ok.1 h⟩

/-- Settings that resolve are valid. -/
lemma isValid_of_resolve (h : resolve line file = .ok s) : s.IsValid := by
  have hresolved := resolve_eq_ok.1 h
  obtain ⟨halias, hallowed⟩ := checkAlias_eq_ok.1 hresolved.productAlias
  obtain ⟨text, hsignature⟩ := exists_ofPattern_of_resolveSignature hresolved.signature
  rw [← halias] at hallowed
  constructor
  · exact AdapterClass.ofPattern_text (mapError_eq_ok.1 hresolved.adapterClass)
  · exact AliasSignature.ofPattern_text hsignature
  · exact hallowed
  · rw [halias]
    exact Text.isTrimmed_trim _
  · have htimeout := hresolved.installTimeout
    rw [resolveTimeout] at htimeout
    split at htimeout
    · cases htimeout
    · next hne =>
      rw [← Except.ok.inj htimeout]
      exact Nat.one_le_iff_ne_zero.2 hne

/-- Valid settings are what their command line resolves to, beside any file that does not turn the
renaming off. -/
lemma IsValid.resolve_asLine (h : s.IsValid) (hrename : file.rename ≠ some false) :
    resolve (s.asLine installer config verbose) file = .ok { s with verbose } := by
  refine resolve_eq_ok.2 ?_
  constructor
  · exact mapError_eq_ok.2 h.adapterClass
  · have halias : resolveAlias (s.asLine installer config verbose) file =
        checkAlias (Text.trim s.productAlias) := rfl
    rw [halias, h.trimmed.trim_eq]
    exact checkAlias_of_allowed h.allowed
  · exact mapError_eq_ok.2 h.signature
  · have htimeout : s.installTimeout ≠ 0 := Nat.one_le_iff_ne_zero.1 h.installTimeout
    exact if_neg htimeout
  · have hkeeps : (s.asLine installer config verbose).keepsAlias = !s.rename := rfl
    have hfile : file.rename.getD Defaults.rename = true := by
      cases hset : file.rename with
      | none => rfl
      | some rename =>
        cases rename with
        | false => exact absurd hset hrename
        | true => rfl
    rw [resolveRename, hkeeps, hfile, Bool.not_not, Bool.and_true]
  · rfl

/-- Settings that resolve have an allowed alias without blanks around it and a time limit of a
second at least.  The command line of an installation with these settings resolves to them again,
without a file or beside any file that does not turn the renaming off. -/
theorem resolve_again {line : CommandLine} {file : Option ConfigFile} {s : Settings}
    (h : resolve line (file.getD .empty) = .ok s) :
    IsAllowedAlias s.productAlias ∧ Text.trim s.productAlias = s.productAlias ∧
      1 ≤ s.installTimeout ∧
      ∀ (installer : List String) (config : Option String) (verbose : Bool)
        (file' : Option ConfigFile), file'.bind (·.rename) ≠ some false →
        resolve (s.asLine installer config verbose) (file'.getD .empty) =
          .ok { s with verbose } := by
  have hvalid := isValid_of_resolve h
  refine ⟨hvalid.allowed, Text.trim_eq_self_iff.2 hvalid.trimmed, hvalid.installTimeout,
    fun installer config verbose file' hrename => hvalid.resolve_asLine ?_⟩
  cases file' with
  | none => exact nofun
  | some file' => exact hrename

/-- An alias between blanks and a file with a time limit and without the renaming: the settings
resolve to themselves beside another file that sets everything else. -/
theorem resolve_again_of_blanks :
    ∃ s, resolve ⟨.list false, none, some "  My VPN (2)\t", none, none, true⟩
        ⟨none, some "Other", none, some 60, some false⟩ = .ok s ∧
      s.productAlias = "My VPN (2)" ∧ s.signature.text = "^My VPN \\(2\\)$" ∧
      s.installTimeout = 60 ∧ s.rename = false ∧
      resolve (s.asLine ["setup.exe"] none s.verbose)
        ⟨some "^Other", some "Other", some "^Other$", some 0, some true⟩ = .ok s := by
  refine ⟨_, rfl, rfl, rfl, rfl, rfl, ?_⟩
  have hresolved : resolve ⟨.list false, none, some "  My VPN (2)\t", none, none, true⟩
      (Option.getD (some ⟨none, some "Other", none, some 60, some false⟩) .empty) = .ok _ := rfl
  exact (resolve_again hresolved).2.2.2 ["setup.exe"] none _
    (some ⟨some "^Other", some "Other", some "^Other$", some 0, some true⟩) (by decide)

end Settings

end TapTracker
