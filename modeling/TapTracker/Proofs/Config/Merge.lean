import TapTracker.Proofs.Config.Resolve

/-!
# Settings from merged values

The settings of a run come from a command line, from a configuration file if there is one, and from
the defaults.  `MergedValues.of` makes one value of these for each setting, and `Validated values`
says what the values come to, without a look at where they are from: the six cases are in the order
in which faults are found, and each of them rules out the cases before it.

`Validated.resolve_eq` shows that settings resolve to what their merged values come to, and
`exists_validated` that all values come to something.  Hence `Settings.resolve_eq_iff_validated`,
and with it all that depends on the merged values alone: a value in the file that the command line
overrides makes no difference, and a value on the command line is used or is the end of it.
-/

namespace TapTracker

/-! ### Merging -/

/-- The value of a setting: that of the command line, else that of the file, else the default. -/
def firstGiven {α : Type} : (onLine inFile : Option α) → (default : α) → α
  | some value, _, _ => value
  | none, some value, _ => value
  | none, none, value => value

/-- One value for each setting. -/
structure MergedValues where
  adapterClass : String
  productAlias : String
  /-- Without a pattern the signature is derived from the alias. -/
  signature : Option String
  installTimeout : Nat
  rename : Bool
  verbose : Bool

namespace MergedValues

/-- The values of a command line, of a file if there is one, and of the defaults. -/
def of (line : CommandLine) (file : Option ConfigFile) : MergedValues where
  adapterClass :=
    firstGiven line.adapterClass (file.bind (·.adapterClass)) Defaults.adapterClass
  productAlias :=
    firstGiven line.productAlias (file.bind (·.productAlias)) Defaults.productAlias
  signature :=
    match line.signature with
    | some text => some text
    | none => file.bind (·.signature)
  installTimeout :=
    firstGiven line.installTimeout (file.bind (·.installTimeout)) Defaults.installTimeout
  rename := decide (line.keepsAlias = false ∧ (file.bind (·.rename)).getD true = true)
  verbose := line.verbose

/-- The alias without blanks around it. -/
def trimmedAlias (v : MergedValues) : String := Text.trim v.productAlias

/-- The signature of the pattern, or of the alias if there is no pattern. -/
def compileSignature (v : MergedValues) : Except PatternError AliasSignature :=
  match v.signature with
  | some text => AliasSignature.ofPattern text
  | none => AliasSignature.ofAlias v.trimmedAlias

/-- What is reported as the pattern of the signature. -/
def signatureText (v : MergedValues) : String := v.signature.getD v.trimmedAlias

end MergedValues

/-! ### What merged values come to -/

/-- A connection can have the alias as its name. -/
structure IsAllowedAlias (aliasName : String) : Prop where
  nonempty : aliasName ≠ ""
  allowed : ∀ c ∈ aliasName.toList, c ∉ Defaults.forbiddenCharacters

/-- The character is the first one in the alias that the name of a connection cannot have. -/
def IsFirstForbidden (aliasName : String) (c : Char) : Prop :=
  ∃ before after, aliasName.toList = before ++ c :: after ∧ c ∈ Defaults.forbiddenCharacters ∧
    ∀ d ∈ before, d ∉ Defaults.forbiddenCharacters

/-- What merged values come to. -/
inductive Validated (v : MergedValues) : Except ConfigError Settings → Prop
  | invalidClass (cause : PatternError)
      (hclass : AdapterClass.ofPattern v.adapterClass = .error cause) :
      Validated v (.error (.invalidPattern .adapterClass v.adapterClass cause))
  | emptyAlias (cls : AdapterClass) (hclass : AdapterClass.ofPattern v.adapterClass = .ok cls)
      (halias : v.trimmedAlias = "") :
      Validated v (.error .emptyAlias)
  | invalidAlias (cls : AdapterClass) (hclass : AdapterClass.ofPattern v.adapterClass = .ok cls)
      (c : Char) (halias : IsFirstForbidden v.trimmedAlias c) :
      Validated v (.error (.invalidAlias v.trimmedAlias c))
  | invalidSignature (cls : AdapterClass)
      (hclass : AdapterClass.ofPattern v.adapterClass = .ok cls)
      (halias : IsAllowedAlias v.trimmedAlias) (cause : PatternError)
      (hsignature : v.compileSignature = .error cause) :
      Validated v (.error (.invalidPattern .signature v.signatureText cause))
  | noTime (cls : AdapterClass) (hclass : AdapterClass.ofPattern v.adapterClass = .ok cls)
      (halias : IsAllowedAlias v.trimmedAlias) (signature : AliasSignature)
      (hsignature : v.compileSignature = .ok signature) (htimeout : v.installTimeout = 0) :
      Validated v (.error .noTime)
  | valid (cls : AdapterClass) (hclass : AdapterClass.ofPattern v.adapterClass = .ok cls)
      (halias : IsAllowedAlias v.trimmedAlias) (signature : AliasSignature)
      (hsignature : v.compileSignature = .ok signature) (htimeout : v.installTimeout ≠ 0) :
      Validated v (.ok ⟨cls, signature, v.trimmedAlias, v.installTimeout, v.rename, v.verbose⟩)

/-! ### Aliases -/

section Aliases

variable {aliasName : String} {c : Char}

/-- A text that is not empty either holds no forbidden character or has a first one. -/
lemma allowed_or_exists_isFirstForbidden (hne : aliasName ≠ "") :
    IsAllowedAlias aliasName ∨ ∃ c, IsFirstForbidden aliasName c := by
  cases hfound : aliasName.toList.find? fun c => decide (c ∈ Defaults.forbiddenCharacters) with
  | none =>
    refine Or.inl ⟨hne, fun c hc => ?_⟩
    have hallowed := List.find?_eq_none.1 hfound c hc
    rwa [decide_eq_true_iff] at hallowed
  | some c =>
    obtain ⟨hc, before, after, hsplit, hbefore⟩ := List.find?_eq_some_iff_append.1 hfound
    refine Or.inr ⟨c, before, after, hsplit, of_decide_eq_true hc, fun d hd => ?_⟩
    have hallowed := hbefore d hd
    rwa [Bool.not_eq_true', decide_eq_false_iff_not] at hallowed

namespace Settings

/-- An empty alias is refused. -/
lemma checkAlias_of_empty (h : aliasName = "") : checkAlias aliasName = .error .emptyAlias := by
  subst h
  rfl

/-- An alias other than the empty text is not empty. -/
lemma isEmpty_eq_false (hne : aliasName ≠ "") : aliasName.isEmpty = false := by
  rw [← Bool.not_eq_true, String.isEmpty_iff]
  exact hne

/-- An alias is refused for the first of its forbidden characters. -/
lemma checkAlias_of_isFirstForbidden (h : IsFirstForbidden aliasName c) :
    checkAlias aliasName = .error (.invalidAlias aliasName c) := by
  obtain ⟨before, after, hsplit, hc, hbefore⟩ := h
  have hne : aliasName ≠ "" := by
    rintro rfl
    simp at hsplit
  have hfound : aliasName.toList.find? (fun c => decide (c ∈ Defaults.forbiddenCharacters)) =
      some c := by
    rw [List.find?_eq_some_iff_append]
    refine ⟨decide_eq_true hc, before, after, hsplit, fun d hd => ?_⟩
    rw [Bool.not_eq_true', decide_eq_false_iff_not]
    exact hbefore d hd
  unfold checkAlias
  rw [isEmpty_eq_false hne, hfound]
  rfl

/-- An alias that a connection can have is accepted as it stands. -/
lemma checkAlias_of_allowed (h : IsAllowedAlias aliasName) :
    checkAlias aliasName = .ok aliasName := by
  have hfound : aliasName.toList.find? (fun c => decide (c ∈ Defaults.forbiddenCharacters)) =
      none := by
    rw [List.find?_eq_none]
    intro c hc
    rw [decide_eq_true_iff]
    exact h.allowed c hc
  unfold checkAlias
  rw [isEmpty_eq_false h.nonempty, hfound]
  rfl

/-- An alias that is checked stays as it is, and only allowed ones pass. -/
lemma checkAlias_eq_ok {text : String} :
    checkAlias text = .ok aliasName ↔ aliasName = text ∧ IsAllowedAlias text := by
  constructor
  · intro h
    by_cases hempty : text = ""
    · rw [checkAlias_of_empty hempty] at h
      cases h
    · rcases allowed_or_exists_isFirstForbidden hempty with hallowed | ⟨c, hfirst⟩
      · rw [checkAlias_of_allowed hallowed] at h
        exact ⟨(Except.ok.inj h).symm, hallowed⟩
      · rw [checkAlias_of_isFirstForbidden hfirst] at h
        cases h
  · rintro ⟨rfl, hallowed⟩
    exact checkAlias_of_allowed hallowed

end Settings

end Aliases

/-! ### Settings by their merged values -/

section Resolvers

/-- A value that is set in neither place is the default. -/
lemma firstGiven_eq_getD {α : Type} (onLine inFile : Option α) (default : α) :
    firstGiven onLine inFile default = (onLine.or inFile).getD default := by
  cases onLine <;> cases inFile <;> rfl

namespace Settings

variable (line : CommandLine) (file : Option ConfigFile)

/-- The class is read from the merged pattern. -/
lemma resolveClass_getD :
    resolveClass line (file.getD .empty) =
      (AdapterClass.ofPattern (MergedValues.of line file).adapterClass).mapError
        (.invalidPattern .adapterClass (MergedValues.of line file).adapterClass) := by
  have hfile : (file.getD .empty).adapterClass = file.bind (·.adapterClass) := by
    cases file <;> rfl
  unfold resolveClass
  rw [hfile, ← firstGiven_eq_getD]
  rfl

/-- The alias is checked as it is merged, without blanks around it. -/
lemma resolveAlias_getD :
    resolveAlias line (file.getD .empty) = checkAlias (MergedValues.of line file).trimmedAlias := by
  have hfile : (file.getD .empty).productAlias = file.bind (·.productAlias) := by
    cases file <;> rfl
  unfold resolveAlias
  rw [hfile, ← firstGiven_eq_getD]
  rfl

/-- The signature is that of the merged pattern, or of the merged alias. -/
lemma resolveSignature_getD :
    resolveSignature line (file.getD .empty) (MergedValues.of line file).trimmedAlias =
      (MergedValues.of line file).compileSignature.mapError
        (.invalidPattern .signature (MergedValues.of line file).signatureText) := by
  have hmerged : (MergedValues.of line file).signature =
      line.signature.or (file.getD .empty).signature := by
    cases file <;> cases hline : line.signature <;> simp [MergedValues.of, hline, ConfigFile.empty]
  unfold resolveSignature MergedValues.compileSignature MergedValues.signatureText
  rw [hmerged]
  cases line.signature.or (file.getD .empty).signature <;> rfl

/-- The time limit is the merged one unless that is zero. -/
lemma resolveTimeout_getD :
    resolveTimeout line (file.getD .empty) =
      if (MergedValues.of line file).installTimeout = 0 then .error .noTime
      else .ok (MergedValues.of line file).installTimeout := by
  have hfile : (file.getD .empty).installTimeout = file.bind (·.installTimeout) := by
    cases file <;> rfl
  unfold resolveTimeout
  rw [hfile, ← firstGiven_eq_getD]
  rfl

/-- Whether there is a renaming is a matter of the merged values. -/
lemma resolveRename_getD :
    resolveRename line (file.getD .empty) = (MergedValues.of line file).rename := by
  have hfile : (file.getD .empty).rename = file.bind (·.rename) := by
    cases file <;> rfl
  unfold resolveRename MergedValues.of
  rw [hfile, Bool.eq_iff_iff]
  simp [Defaults.rename]

end Settings

end Resolvers

section Resolution

variable {line line' : CommandLine} {file file' : Option ConfigFile}

/-- A fault of the class is reported before any other. -/
lemma Settings.resolve_of_class_error {file : ConfigFile} {cause : ConfigError}
    (hclass : resolveClass line file = .error cause) : resolve line file = .error cause := by
  rw [resolve, hclass]
  rfl

/-- A fault of the alias is reported unless there is one of the class. -/
lemma Settings.resolve_of_alias_error {file : ConfigFile} {cls : AdapterClass}
    {cause : ConfigError} (hclass : resolveClass line file = .ok cls)
    (halias : resolveAlias line file = .error cause) : resolve line file = .error cause := by
  rw [resolve, hclass, halias]
  rfl

/-- With a class and an alias, the signature and the time limit are left to be resolved. -/
lemma Settings.resolve_of_class_of_alias {file : ConfigFile} {cls : AdapterClass}
    {aliasName : String} (hclass : resolveClass line file = .ok cls)
    (halias : resolveAlias line file = .ok aliasName) :
    resolve line file = (do
      let signature ← resolveSignature line file aliasName
      let timeout ← resolveTimeout line file
      .ok ⟨cls, signature, aliasName, timeout, resolveRename line file, line.verbose⟩) := by
  unfold resolve
  rw [hclass, halias]
  rfl

/-- Settings resolve to what their merged values come to. -/
lemma Validated.resolve_eq {result : Except ConfigError Settings}
    (h : Validated (MergedValues.of line file) result) :
    Settings.resolve line (file.getD .empty) = result := by
  have hclass := Settings.resolveClass_getD line file
  have halias := Settings.resolveAlias_getD line file
  have hsignature := Settings.resolveSignature_getD line file
  have htimeout := Settings.resolveTimeout_getD line file
  -- The checks are made in the order of the cases, and each case gets past those before its own.
  cases h with
  | invalidClass cause hinvalid =>
    rw [hinvalid] at hclass
    exact Settings.resolve_of_class_error hclass
  | emptyAlias cls hcls hempty =>
    rw [hcls] at hclass
    rw [Settings.checkAlias_of_empty hempty] at halias
    exact Settings.resolve_of_alias_error hclass halias
  | invalidAlias cls hcls c hforbidden =>
    rw [hcls] at hclass
    rw [Settings.checkAlias_of_isFirstForbidden hforbidden] at halias
    exact Settings.resolve_of_alias_error hclass halias
  | invalidSignature cls hcls hallowed cause hinvalid =>
    rw [hcls] at hclass
    rw [Settings.checkAlias_of_allowed hallowed] at halias
    rw [hinvalid] at hsignature
    rw [Settings.resolve_of_class_of_alias hclass halias, hsignature]
    rfl
  | noTime cls hcls hallowed signature hcompiled hzero =>
    rw [hcls] at hclass
    rw [Settings.checkAlias_of_allowed hallowed] at halias
    rw [hcompiled] at hsignature
    rw [if_pos hzero] at htimeout
    rw [Settings.resolve_of_class_of_alias hclass halias, hsignature, htimeout]
    rfl
  | valid cls hcls hallowed signature hcompiled hpositive =>
    rw [hcls] at hclass
    rw [Settings.checkAlias_of_allowed hallowed] at halias
    rw [hcompiled] at hsignature
    rw [if_neg hpositive] at htimeout
    rw [Settings.resolve_of_class_of_alias hclass halias, hsignature, htimeout,
      Settings.resolveRename_getD]
    rfl

/-- All merged values come to something. -/
lemma exists_validated (v : MergedValues) : ∃ result, Validated v result := by
  cases hclass : AdapterClass.ofPattern v.adapterClass with
  | error cause => exact ⟨_, .invalidClass cause hclass⟩
  | ok cls =>
    by_cases hempty : v.trimmedAlias = ""
    · exact ⟨_, .emptyAlias cls hclass hempty⟩
    · rcases allowed_or_exists_isFirstForbidden hempty with hallowed | ⟨c, hforbidden⟩
      · cases hsignature : v.compileSignature with
        | error cause => exact ⟨_, .invalidSignature cls hclass hallowed cause hsignature⟩
        | ok signature =>
          by_cases htimeout : v.installTimeout = 0
          · exact ⟨_, .noTime cls hclass hallowed signature hsignature htimeout⟩
          · exact ⟨_, .valid cls hclass hallowed signature hsignature htimeout⟩
      · exact ⟨_, .invalidAlias cls hclass c hforbidden⟩

/-- Settings resolve to a result exactly if it is what their merged values come to. -/
lemma Settings.resolve_eq_iff_validated {result : Except ConfigError Settings} :
    resolve line (file.getD .empty) = result ↔ Validated (MergedValues.of line file) result := by
  constructor
  · rintro rfl
    obtain ⟨result, hresult⟩ := exists_validated (MergedValues.of line file)
    rw [hresult.resolve_eq]
    exact hresult
  · exact Validated.resolve_eq

/-- Settings with the same merged values resolve to the same. -/
lemma Settings.resolve_congr (h : MergedValues.of line file = MergedValues.of line' file') :
    resolve line (file.getD .empty) = resolve line' (file'.getD .empty) := by
  rw [Settings.resolve_eq_iff_validated, h]
  exact Settings.resolve_eq_iff_validated.1 rfl

/-- Two files set the same, but for what the command line overrides. -/
structure AgreeUnlessOverridden (line : CommandLine) (file file' : Option ConfigFile) : Prop where
  adapterClass : line.adapterClass = none →
    file.bind (·.adapterClass) = file'.bind (·.adapterClass)
  productAlias : line.productAlias = none →
    file.bind (·.productAlias) = file'.bind (·.productAlias)
  signature : line.signature = none → file.bind (·.signature) = file'.bind (·.signature)
  installTimeout : line.installTimeout = none →
    file.bind (·.installTimeout) = file'.bind (·.installTimeout)
  rename : line.keepsAlias = false → file.bind (·.rename) = file'.bind (·.rename)

/-- A value that the command line gives hides the value in the file. -/
lemma firstGiven_congr {α : Type} {onLine inFile inFile' : Option α} {default : α}
    (h : onLine = none → inFile = inFile') :
    firstGiven onLine inFile default = firstGiven onLine inFile' default := by
  cases onLine with
  | none => rw [h rfl]
  | some value => rfl

/-- What the command line overrides makes no difference to the merged values. -/
lemma AgreeUnlessOverridden.merged_eq (h : AgreeUnlessOverridden line file file') :
    MergedValues.of line file = MergedValues.of line file' := by
  have hsignature : (MergedValues.of line file).signature =
      (MergedValues.of line file').signature := by
    have hagree := h.signature
    unfold MergedValues.of
    cases hline : line.signature with
    | none => exact hagree hline
    | some text => rfl
  have hrename : (MergedValues.of line file).rename = (MergedValues.of line file').rename := by
    unfold MergedValues.of
    cases hkeeps : line.keepsAlias with
    | false => rw [h.rename hkeeps]
    | true => rfl
  rw [MergedValues.mk.injEq]
  exact ⟨firstGiven_congr h.adapterClass, firstGiven_congr h.productAlias, hsignature,
    firstGiven_congr h.installTimeout, hrename, rfl⟩

end Resolution

/-- The settings of a command line and of a file, or of none, are what the merged values come to.
They depend on the two sources through these values only, so that nothing in the file matters that
the command line overrides.  Where they resolve, each value that the command line gives is valid and
is the one that is used. -/
theorem Settings.resolve_merged (line : CommandLine) (file : Option ConfigFile) :
    (∀ result, resolve line (file.getD .empty) = result ↔
      Validated (MergedValues.of line file) result) ∧
    (∀ line' file', MergedValues.of line' file' = MergedValues.of line file →
      resolve line' (file'.getD .empty) = resolve line (file.getD .empty)) ∧
    (∀ file', AgreeUnlessOverridden line file file' →
      resolve line (file'.getD .empty) = resolve line (file.getD .empty)) ∧
    ∀ s, resolve line (file.getD .empty) = .ok s →
      (∀ text, line.adapterClass = some text → AdapterClass.ofPattern text = .ok s.adapterClass) ∧
      (∀ text, line.productAlias = some text →
        IsAllowedAlias (Text.trim text) ∧ s.productAlias = Text.trim text) ∧
      (∀ text, line.signature = some text → AliasSignature.ofPattern text = .ok s.signature) ∧
      ∀ seconds, line.installTimeout = some seconds →
        seconds ≠ 0 ∧ s.installTimeout = seconds := by
  refine ⟨fun result => resolve_eq_iff_validated, fun line' file' h => resolve_congr h,
    fun file' h => (resolve_congr h.merged_eq).symm, fun s hs => ?_⟩
  have hvalidated := resolve_eq_iff_validated.1 hs
  cases hvalidated with
  | valid cls hclass halias signature hsignature htimeout =>
    refine ⟨fun text htext => ?_, fun text htext => ?_, fun text htext => ?_,
      fun seconds hseconds => ?_⟩
    · rwa [MergedValues.of, htext] at hclass
    · rw [MergedValues.trimmedAlias, MergedValues.of, htext] at halias
      exact ⟨halias, by rw [MergedValues.trimmedAlias, MergedValues.of, htext]; rfl⟩
    · rwa [MergedValues.compileSignature, MergedValues.of, htext] at hsignature
    · rw [MergedValues.of, hseconds] at htimeout
      exact ⟨htimeout, by rw [MergedValues.of, hseconds]; rfl⟩

end TapTracker
