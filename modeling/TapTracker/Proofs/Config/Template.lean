import TapTracker.Proofs.Config.FileShape
import TapTracker.Proofs.Config.Merge
import TapTracker.Proofs.Toml.Lines
import TapTracker.Storage.Basic

/-!
# The configuration file for a start

`FileSetting.default` is the value that a setting has where it is set nowhere; the default of the
signature is the pattern that is derived from the default alias.  A file that sets settings to their
defaults only (`SetsDefaults`) makes no difference to the settings of a command line, but for one
case: a file with a signature beside a command line with another alias and without a signature
(`SetsDefaults.resolve_eq`).

`Defaults.templateWith chosen` is the configuration file for a start with some of the settings
uncommented that it holds in comments.  Each of its lines is read for its effect
(`Defaults.isLine_templateLines`), so that it is read as a file that sets the alias and the chosen
settings to their defaults.
-/

namespace TapTracker

/-! ### Defaults -/

/-- The value of a setting that is set nowhere. -/
def FileSetting.default : FileSetting → Toml.Value
  | adapterClass => .string Defaults.adapterClass
  | productAlias => .string Defaults.productAlias
  | signature => .string (AliasSignature.wholeAlias Defaults.productAlias)
  | installTimeout => .integer (Int.ofNat Defaults.installTimeout)
  | rename => .boolean Defaults.rename

/-- The default of a setting as a configuration file has it. -/
def FileSetting.defaultText : FileSetting → String
  | adapterClass => "\"" ++ Defaults.adapterClass ++ "\""
  | productAlias => "\"" ++ Defaults.productAlias ++ "\""
  | signature => "\"" ++ AliasSignature.wholeAlias Defaults.productAlias ++ "\""
  | installTimeout => toString Defaults.installTimeout
  | rename => toString Defaults.rename

/-- The file sets settings to their defaults only. -/
def ConfigFile.SetsDefaults (file : ConfigFile) : Prop :=
  ∀ f v, file.value? f = some v → v = f.default

/-- The command line leaves the alias to the defaults, or says the signature as well. -/
def CommandLine.KeepsSignature (line : CommandLine) : Prop :=
  line.signature ≠ none ∨ line.productAlias = none

section SetsDefaults

variable {line : CommandLine} {file : ConfigFile} {aliasName : String}

namespace ConfigFile.SetsDefaults

/-- A setting that the file sets to its default comes to what it comes to without the file. -/
lemma or_getD_eq {α : Type} {inFile : Option α} {toValue : α → Toml.Value} {default : α}
    {f : FileSetting} (h : file.SetsDefaults) (hinjective : Function.Injective toValue)
    (hfile : file.value? f = inFile.map toValue) (hdefault : f.default = toValue default)
    (onLine : Option α) :
    (onLine.or inFile).getD default = (onLine.or none).getD default := by
  cases onLine with
  | some a => rfl
  | none =>
    cases inFile with
    | none => rfl
    | some a => exact hinjective ((h f _ hfile).trans hdefault)

/-- A file of defaults makes no difference to the class. -/
lemma resolveClass_eq (h : file.SetsDefaults) :
    Settings.resolveClass line file = Settings.resolveClass line .empty := by
  rw [Settings.resolveClass,
    h.or_getD_eq (f := .adapterClass) (fun _ _ => Toml.Value.string.inj) rfl rfl]
  rfl

/-- A file of defaults makes no difference to the alias. -/
lemma resolveAlias_eq (h : file.SetsDefaults) :
    Settings.resolveAlias line file = Settings.resolveAlias line .empty := by
  rw [Settings.resolveAlias,
    h.or_getD_eq (f := .productAlias) (fun _ _ => Toml.Value.string.inj) rfl rfl]
  rfl

/-- A file of defaults makes no difference to the time limit. -/
lemma resolveTimeout_eq (h : file.SetsDefaults) :
    Settings.resolveTimeout line file = Settings.resolveTimeout line .empty := by
  rw [Settings.resolveTimeout,
    h.or_getD_eq (f := .installTimeout) injective_integer_ofNat rfl rfl]
  rfl

/-- A file of defaults makes no difference to whether there is a renaming. -/
lemma resolveRename_eq (h : file.SetsDefaults) :
    Settings.resolveRename line file = Settings.resolveRename line .empty := by
  have hrename : file.rename.getD Defaults.rename = Defaults.rename :=
    h.or_getD_eq (f := .rename) (fun _ _ => Toml.Value.boolean.inj) rfl rfl none
  rw [Settings.resolveRename, hrename]
  rfl

/-- The default of the signature is the one that is derived from the default alias.  Beside a
command line that leaves the alias to the defaults, or says the signature, it makes no
difference. -/
lemma resolveSignature_eq (h : file.SetsDefaults)
    (hkeeps : file.signature = none ∨ line.KeepsSignature)
    (halias : Settings.resolveAlias line .empty = .ok aliasName) :
    Settings.resolveSignature line file aliasName =
      Settings.resolveSignature line .empty aliasName := by
  rw [Settings.resolveSignature, Settings.resolveSignature]
  cases hline : line.signature with
  | some text => rfl
  | none =>
    cases hfile : file.signature with
    | none => rfl
    | some text =>
      obtain rfl : text = AliasSignature.wholeAlias Defaults.productAlias :=
        Toml.Value.string.inj (h .signature _ (congrArg (·.map Toml.Value.string) hfile))
      -- Only now does the alias matter: the signature in the file is that of the default alias.
      have hdefault : line.productAlias = none := by
        rcases hkeeps with hnone | hsome | hnone
        · exact absurd (hfile.symm.trans hnone) (Option.some_ne_none _)
        · exact absurd hline hsome
        · exact hnone
      rw [Settings.resolveAlias, hdefault] at halias
      obtain rfl : Defaults.productAlias = aliasName := Except.ok.inj halias
      obtain ⟨signature, hsignature⟩ :
          ∃ signature, AliasSignature.ofAlias Defaults.productAlias = .ok signature := ⟨_, rfl⟩
      change (AliasSignature.ofAlias Defaults.productAlias).mapError _ =
        (AliasSignature.ofAlias Defaults.productAlias).mapError _
      rw [hsignature]
      rfl

/-- A file that sets settings to their defaults makes no difference to what a command line comes to,
be it settings or an error. -/
lemma resolve_eq (h : file.SetsDefaults) (hkeeps : file.signature = none ∨ line.KeepsSignature) :
    Settings.resolve line file = Settings.resolve line .empty := by
  cases hclass : Settings.resolveClass line .empty with
  | error cause =>
    rw [Settings.resolve_of_class_error hclass,
      Settings.resolve_of_class_error (h.resolveClass_eq.trans hclass)]
  | ok cls =>
    cases halias : Settings.resolveAlias line .empty with
    | error cause =>
      rw [Settings.resolve_of_alias_error hclass halias,
        Settings.resolve_of_alias_error (h.resolveClass_eq.trans hclass)
          (h.resolveAlias_eq.trans halias)]
    | ok aliasName =>
      rw [Settings.resolve_of_class_of_alias (h.resolveClass_eq.trans hclass)
          (h.resolveAlias_eq.trans halias),
        Settings.resolve_of_class_of_alias hclass halias, h.resolveSignature_eq hkeeps halias,
        h.resolveTimeout_eq, h.resolveRename_eq]

end ConfigFile.SetsDefaults

end SetsDefaults

/-! ### The file -/

namespace Defaults

/-- The setting that a line holds in a comment, if it does: the key of the setting and an equals
sign follow the comment sign. -/
def commented? (line : List Char) : Option FileSetting :=
  (declaredSections.flatMap Prod.snd).find? fun f =>
    ("# " ++ f.key ++ " = ").toList.isPrefixOf line

/-- The line without its comment sign if it holds one of the chosen settings in a comment. -/
def uncomment (chosen : FileSetting → Bool) (line : String) : String :=
  if (commented? line.toList).any chosen then String.ofList (line.toList.drop 2) else line

/-- The configuration file for a start with the chosen ones of its commented settings. -/
def templateWith (chosen : FileSetting → Bool) : String :=
  "\n".intercalate (templateLines.map (uncomment chosen))

/-- What the line of a commented setting does. -/
def settingEffect (chosen : FileSetting → Bool) (f : FileSetting) : Toml.LineEffect :=
  if chosen f then .sets f.key f.default else .nothing

/-- What the lines of the configuration file for a start do. -/
def templateEffects (chosen : FileSetting → Bool) : List Toml.LineEffect :=
  [.nothing,
   .nothing,
   .opens "adapter",
   .nothing,
   .nothing,
   settingEffect chosen .adapterClass,
   .nothing,
   .opens "product",
   .nothing,
   .sets "alias" (.string productAlias),
   .nothing,
   .nothing,
   .nothing,
   settingEffect chosen .signature,
   .nothing,
   .opens "install",
   .nothing,
   settingEffect chosen .installTimeout,
   .nothing,
   .nothing,
   settingEffect chosen .rename,
   .nothing]

section Template

variable {chosen : FileSetting → Bool} {f : FileSetting} {line : String} {text : List Char}

/-- A line without a setting in a comment stays as it is. -/
lemma uncomment_of_none (h : commented? line.toList = none) : uncomment chosen line = line := by
  rw [uncomment, h]
  rfl

/-- A line that holds no setting in a comment stays as it is. -/
lemma isLine_comment (htext : text.all Toml.isPlain = true) (h : commented? ('#' :: text) = none) :
    Toml.IsLine (uncomment chosen (String.ofList ('#' :: text))) .nothing := by
  rw [uncomment_of_none (by rwa [String.toList_ofList])]
  exact .comment htext

/-- The text of a default is a way to write its value. -/
lemma isWritten_default (f : FileSetting) : Toml.IsWritten f.defaultText f.default := by
  cases f with
  | adapterClass | productAlias | signature => exact .quoted (by decide)
  | installTimeout | rename => exact .word ⟨by decide, by decide⟩ rfl

/-- A setting with its default is a line. -/
lemma isLine_default (f : FileSetting) :
    Toml.IsLine (f.key ++ " = " ++ f.defaultText) (.sets f.key f.default) := by
  refine .setting ?_ (isWritten_default f)
  cases f <;> exact ⟨by decide, by decide⟩

/-- A line that holds a setting with its default in a comment has no effect, or sets the default if
the setting is chosen. -/
lemma isLine_setting (htext : text.all Toml.isPlain = true)
    (h : commented? ('#' :: ' ' :: text) = some f)
    (hdefault : String.ofList text = f.key ++ " = " ++ f.defaultText) :
    Toml.IsLine (uncomment chosen (String.ofList ('#' :: ' ' :: text)))
      (settingEffect chosen f) := by
  have hplain : (' ' :: text).all Toml.isPlain = true := htext
  rw [uncomment, settingEffect, String.toList_ofList, h, Option.any_some]
  split
  next =>
    have hline := isLine_default f
    rwa [← hdefault] at hline
  next => exact .comment hplain

/-- Each line of the configuration file for a start is written for its effect. -/
lemma isLine_templateLines (chosen : FileSetting → Bool) :
    List.Forall₂ Toml.IsLine (templateLines.map (uncomment chosen)) (templateEffects chosen) := by
  have hblank : Toml.IsLine (uncomment chosen "") .nothing := by
    rw [uncomment_of_none rfl]
    exact .blank
  have hheader (name : String) (hname : Toml.IsBare name)
      (hnone : commented? ("[" ++ name ++ "]").toList = none) :
      Toml.IsLine (uncomment chosen ("[" ++ name ++ "]")) (.opens name) := by
    rw [uncomment_of_none hnone]
    exact .header hname
  have halias : Toml.IsLine (uncomment chosen "alias = \"Mullvad\"")
      (.sets "alias" (.string productAlias)) := by
    rw [uncomment_of_none (by decide)]
    exact isLine_default .productAlias
  -- One step for each line, in the order of the file.
  refine .cons (isLine_comment (by decide) (by decide)) ?_
  refine .cons hblank ?_
  refine .cons (hheader "adapter" ⟨by decide, by decide⟩ (by decide)) ?_
  refine .cons (isLine_comment (by decide) (by decide)) ?_
  refine .cons (isLine_comment (by decide) (by decide)) ?_
  refine .cons (isLine_setting (by decide) (by decide) rfl) ?_
  refine .cons hblank ?_
  refine .cons (hheader "product" ⟨by decide, by decide⟩ (by decide)) ?_
  refine .cons (isLine_comment (by decide) (by decide)) ?_
  refine .cons halias ?_
  refine .cons hblank ?_
  refine .cons (isLine_comment (by decide) (by decide)) ?_
  refine .cons (isLine_comment (by decide) (by decide)) ?_
  refine .cons (isLine_setting (by decide) (by decide) rfl) ?_
  refine .cons hblank ?_
  refine .cons (hheader "install" ⟨by decide, by decide⟩ (by decide)) ?_
  refine .cons (isLine_comment (by decide) (by decide)) ?_
  refine .cons (isLine_setting (by decide) (by decide) rfl) ?_
  refine .cons hblank ?_
  refine .cons (isLine_comment (by decide) (by decide)) ?_
  refine .cons (isLine_setting (by decide) (by decide) rfl) ?_
  exact .cons hblank .nil

end Template

/-- The settings in the configuration file for a start with the chosen ones of its commented
settings. -/
def templateFile (chosen : FileSetting → Bool) : ConfigFile where
  adapterClass := if chosen .adapterClass then some adapterClass else none
  productAlias := some productAlias
  signature := if chosen .signature then some (AliasSignature.wholeAlias productAlias) else none
  installTimeout := if chosen .installTimeout then some installTimeout else none
  rename := if chosen .rename then some rename else none

section TemplateFile

variable (chosen : FileSetting → Bool)

/-- The configuration file for a start is accepted, with the settings that have been chosen. -/
lemma ofText_templateWith :
    ConfigFile.ofText (templateWith chosen) = .ok (templateFile chosen) := by
  rw [ConfigFile.ofText, templateWith, Toml.read_intercalate (isLine_templateLines chosen),
    templateEffects, templateFile]
  simp only [settingEffect]
  -- The document has no other entries than those of the chosen settings.
  cases chosen .adapterClass <;> cases chosen .signature <;> cases chosen .installTimeout <;>
    cases chosen .rename <;> rfl

/-- The file for a start has the default of the alias and of each chosen setting. -/
lemma value?_templateFile (f : FileSetting) :
    (templateFile chosen).value? f =
      if f = .productAlias ∨ chosen f = true then some f.default else none := by
  cases f with
  | productAlias => rfl
  | adapterClass | signature | installTimeout | rename =>
    simp only [ConfigFile.value?, templateFile, reduceCtorEq, false_or]
    split <;> rfl

/-- The file for a start sets nothing but defaults. -/
lemma setsDefaults_templateFile : (templateFile chosen).SetsDefaults := by
  intro f v hvalue
  rw [value?_templateFile] at hvalue
  split at hvalue
  · exact (Option.some.inj hvalue).symm
  · cases hvalue

/-- With nothing uncommented the configuration file for a start is as it is written. -/
lemma templateWith_none : templateWith (fun _ => false) = template := by
  have hsame (line : String) : uncomment (fun _ => false) line = line := by
    rw [uncomment, Option.any_false]
    rfl
  rw [templateWith, List.map_congr_left fun line _ => hsame line, List.map_id']
  rfl

/-- The comments tell the defaults that hold.  They put that of the signature into words. -/
lemma exists_documented {f : FileSetting} (hf : f ≠ .signature) :
    ∃ front, front ++ "default: " ++ f.defaultText ++ ")" ∈ templateLines := by
  cases f with
  | adapterClass => exact ⟨"# (case-insensitive, ", List.mem_of_getElem? (i := 4) rfl⟩
  | productAlias =>
    exact ⟨"# Alias given to the product's adapter after installation (",
      List.mem_of_getElem? (i := 8) rfl⟩
  | signature => exact absurd rfl hf
  | installTimeout =>
    exact ⟨"# Seconds to wait for the driver installer (", List.mem_of_getElem? (i := 16) rfl⟩
  | rename =>
    exact ⟨"# Rename the new adapter to the product alias (", List.mem_of_getElem? (i := 19) rfl⟩

end TemplateFile

end Defaults

/-! ### Settings with the file -/

section Settings

variable {chosen : FileSetting → Bool} {line : CommandLine}

/-- Settings are the same with the file for a start as without a file, if the default of the
signature is left in its comment or makes no difference. -/
lemma Settings.resolve_templateFile (hkeeps : chosen .signature = false ∨ line.KeepsSignature) :
    resolve line (Defaults.templateFile chosen) = resolve line .empty := by
  refine (Defaults.setsDefaults_templateFile chosen).resolve_eq (hkeeps.imp_left fun hchosen => ?_)
  rw [Defaults.templateFile, hchosen]
  rfl

/-- A command line that names a file with this text loads what it loads without a file. -/
lemma Settings.load_template {m : Type → Type} [Monad m] [LawfulMonad m] {storage : Storage m}
    {path : String} (hread : storage.readText path = pure (.ok (Defaults.templateWith chosen)))
    (hkeeps : chosen .signature = false ∨ line.KeepsSignature) :
    load storage { line with config := some path } =
      load storage { line with config := none } := by
  have hload : ConfigFile.load storage path = pure (.ok (Defaults.templateFile chosen)) := by
    rw [ConfigFile.load, hread, pure_bind]
    dsimp only
    rw [Defaults.ofText_templateWith]
    rfl
  change (do
    let file ← ConfigFile.load storage path
    return file.bind (resolve { line with config := some path })) = pure (resolve line .empty)
  rw [hload, pure_bind]
  exact congrArg pure (resolve_templateFile hkeeps)

end Settings

/-- The configuration file for a start tells the defaults in its comments.  It is read, whichever of
its commented settings are uncommented, as a file that sets the alias and these settings to their
defaults.  Every command line comes to the same with it as without a file, be it settings or an
error, unless the signature is uncommented and the command line gives another alias without a
signature. -/
theorem Settings.resolve_template :
    Defaults.templateWith (fun _ => false) = Defaults.template ∧
    (∀ f : FileSetting, f ≠ .signature →
      ∃ front, front ++ "default: " ++ f.defaultText ++ ")" ∈ Defaults.templateLines) ∧
    ∀ chosen : FileSetting → Bool, ∃ file,
      ConfigFile.ofText (Defaults.templateWith chosen) = .ok file ∧
      (∀ f, file.value? f =
        if f = .productAlias ∨ chosen f = true then some f.default else none) ∧
      ∀ line : CommandLine, chosen .signature = false ∨ line.KeepsSignature →
        resolve line file = resolve line .empty := by
  refine ⟨Defaults.templateWith_none, fun f => Defaults.exists_documented, fun chosen =>
    ⟨_, Defaults.ofText_templateWith chosen, Defaults.value?_templateFile chosen,
      fun line => resolve_templateFile⟩⟩

/-- An uncommented signature stays when the command line gives another alias. -/
example :
    [Defaults.templateFile (· == .signature), .empty].map (fun file =>
      (Settings.resolve ⟨.list false, none, some "Other", none, none, false⟩ file).toOption.map
        (·.signature.text)) = [some "^Mullvad$", some "^Other$"] := by
  rfl

end TapTracker
