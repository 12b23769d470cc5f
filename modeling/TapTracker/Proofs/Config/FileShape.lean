import TapTracker.Config.Error
import TapTracker.Config.File
import TapTracker.Proofs.Toml.DistinctKeys

/-!
# The shape of configuration files

A `FileSetting` is a setting that a configuration file can have.  `declaredSections` says which
settings each section has, in which order, and `FileSetting.Admits` which values each of them can
have.  `HasFileShape entries` is the condition on a document to be a configuration file, and
`FileSetting.written entries` what it says about a setting.

A field of a section that is read `Sets` one of the settings: it takes just the values that the
setting admits, and leaves the other settings alone.  From this follows what a table, an array, a
section and a whole document come to (`values_of_setTable`, `values_of_setArray`,
`values_of_setSection`, `values_of_setSections`), and that those of the right shape are accepted
(`exists_setTable` and its siblings).  A table has no key twice, so that the order of its entries
makes no difference.
-/

namespace TapTracker

/-! ### Settings in files -/

/-- A setting of a configuration file. -/
inductive FileSetting
  | adapterClass
  | productAlias
  | signature
  | installTimeout
  | rename
deriving DecidableEq, Repr

/-- The sections, each with its settings in the order in which an array has them. -/
def declaredSections : List (String × List FileSetting) :=
  [("adapter", [.adapterClass]), ("product", [.productAlias, .signature]),
    ("install", [.installTimeout, .rename])]

namespace FileSetting

/-- The name of the section that the setting stands in. -/
def sectionName : FileSetting → String
  | adapterClass => "adapter"
  | productAlias | signature => "product"
  | installTimeout | rename => "install"

/-- The name of the setting in its section. -/
def key : FileSetting → String
  | adapterClass => "class"
  | productAlias => "alias"
  | signature => "signature"
  | installTimeout => "timeout"
  | rename => "rename"

/-- The place of the setting in a section that is an array. -/
def position : FileSetting → Nat
  | adapterClass | productAlias | installTimeout => 0
  | signature | rename => 1

/-- The setting can have the value: texts, a number of seconds below the 64-bit limit, and a truth
value. -/
def Admits : FileSetting → Toml.Value → Prop
  | adapterClass, v | productAlias, v | signature, v => ∃ s, v = .string s
  | installTimeout, v => ∃ n : Int, (0 ≤ n ∧ n < UInt64.size) ∧ v = .integer n
  | rename, v => ∃ b, v = .boolean b

/-- What a section says about the setting. -/
def writtenIn (f : FileSetting) : Toml.Value → Option Toml.Value
  | .table entries => (entries.find? (·.1 == f.key)).map (·.2)
  | .array items => items[f.position]?
  | _ => none

/-- What a document says about the setting. -/
def written (entries : List (String × Toml.Value)) (f : FileSetting) : Option Toml.Value :=
  (entries.find? (·.1 == f.sectionName)).bind fun entry => f.writtenIn entry.2

end FileSetting

/-- The value of a setting in a configuration file. -/
def ConfigFile.value? (file : ConfigFile) : FileSetting → Option Toml.Value
  | .adapterClass => file.adapterClass.map .string
  | .productAlias => file.productAlias.map .string
  | .signature => file.signature.map .string
  | .installTimeout => file.installTimeout.map fun n => .integer (Int.ofNat n)
  | .rename => file.rename.map .boolean

/-! ### Shapes -/

/-- A section is a table with no other keys than its settings, or an array that begins with all of
its settings. -/
inductive HasSectionShape (settings : List FileSetting) : Toml.Value → Prop
  | table {entries : List (String × Toml.Value)}
      (hentries : ∀ entry ∈ entries, ∃ f ∈ settings, f.key = entry.1 ∧ f.Admits entry.2) :
      HasSectionShape settings (.table entries)
  | array {items : List Toml.Value} (hitems : List.Forall₂ FileSetting.Admits settings items)
      (extra : List Toml.Value) : HasSectionShape settings (.array (items ++ extra))

/-- A document has no other keys than the sections, and these have their shapes. -/
def HasFileShape (entries : List (String × Toml.Value)) : Prop :=
  ∀ entry ∈ entries, ∃ settings, (entry.1, settings) ∈ declaredSections ∧
    HasSectionShape settings entry.2

/-- Two ways to write a section: the keys of a table in another order, or other elements of an array
after those that are its settings. -/
inductive SameSection (settings : List FileSetting) : Toml.Value → Toml.Value → Prop
  | refl (v : Toml.Value) : SameSection settings v v
  | reordered {entries entries' : List (String × Toml.Value)} (hperm : entries.Perm entries') :
      SameSection settings (.table entries) (.table entries')
  | extended {items : List Toml.Value} (hlength : settings.length ≤ items.length)
      (extra extra' : List Toml.Value) :
      SameSection settings (.array (items ++ extra)) (.array (items ++ extra'))

/-- Two ways to write a document: the sections in another order, and each of them in another way. -/
def SameDocument (entries entries' : List (String × Toml.Value)) : Prop :=
  ∃ middle, entries.Perm middle ∧
    List.Forall₂ (fun entry entry' => entry.1 = entry'.1 ∧
      ∀ settings, (entry.1, settings) ∈ declaredSections →
        SameSection settings entry.2 entry'.2) middle entries'

/-! ### Fields -/

namespace ConfigFile

section Fields

variable {field : Field} {fields : List Field} {f f' : FileSetting} {settings : List FileSetting}
  {file file' : ConfigFile} {v : Toml.Value} {name : String}
  {entries : List (String × Toml.Value)} {items : List Toml.Value}

/-- Different numbers are different integers of a document. -/
lemma injective_integer_ofNat : Function.Injective fun n => Toml.Value.integer (Int.ofNat n) :=
  fun _ _ h => Int.ofNat.inj (Toml.Value.integer.inj h)

/-- Files with the same values are the same. -/
lemma ext_value? (h : ∀ f, file.value? f = file'.value? f) : file = file' := by
  have hstring : Function.Injective Toml.Value.string := fun _ _ h => Toml.Value.string.inj h
  have hboolean : Function.Injective Toml.Value.boolean := fun _ _ h => Toml.Value.boolean.inj h
  rw [ConfigFile.mk.injEq]
  exact ⟨Option.map_injective hstring (h .adapterClass),
    Option.map_injective hstring (h .productAlias), Option.map_injective hstring (h .signature),
    Option.map_injective injective_integer_ofNat (h .installTimeout),
    Option.map_injective hboolean (h .rename)⟩

/-- The field sets one setting, to the values that it admits. -/
structure Sets (field : Field) (f : FileSetting) : Prop where
  name : field.name = f.key
  values : ∀ {v : Toml.Value} {file file' : ConfigFile}, field.set v file = .ok file' →
    f.Admits v ∧ ∀ f', file'.value? f' = if f' = f then some v else file.value? f'
  accepts : ∀ {v : Toml.Value}, f.Admits v → ∀ file, ∃ file', field.set v file = .ok file'

/-- A field for a text sets its setting, to any string. -/
lemma sets_text {set : String → ConfigFile → ConfigFile} (hname : f.key = name)
    (hadmits : ∀ v, f.Admits v ↔ ∃ s, v = .string s)
    (hset : ∀ s file f', (set s file).value? f' =
      if f' = f then some (.string s) else file.value? f') : Sets (.text name set) f where
  name := hname.symm
  values {v file file'} h := by
    cases v with
    | string s =>
      cases h
      exact ⟨(hadmits _).2 ⟨s, rfl⟩, hset s file⟩
    | integer | float | boolean | datetime | array | table => cases h
  accepts {v} h file := by
    obtain ⟨s, rfl⟩ := (hadmits v).1 h
    exact ⟨set s file, rfl⟩

/-- A field for a truth value sets its setting, to any boolean. -/
lemma sets_truth {set : Bool → ConfigFile → ConfigFile} (hname : f.key = name)
    (hadmits : ∀ v, f.Admits v ↔ ∃ b, v = .boolean b)
    (hset : ∀ b file f', (set b file).value? f' =
      if f' = f then some (.boolean b) else file.value? f') : Sets (.truth name set) f where
  name := hname.symm
  values {v file file'} h := by
    cases v with
    | boolean b =>
      cases h
      exact ⟨(hadmits _).2 ⟨b, rfl⟩, hset b file⟩
    | string | integer | float | datetime | array | table => cases h
  accepts {v} h file := by
    obtain ⟨b, rfl⟩ := (hadmits v).1 h
    exact ⟨set b file, rfl⟩

/-- A field for a number sets its setting, to any integer that is a word of 64 bits. -/
lemma sets_number {set : Nat → ConfigFile → ConfigFile} (hname : f.key = name)
    (hadmits : ∀ v, f.Admits v ↔ ∃ n : Int, (0 ≤ n ∧ n < UInt64.size) ∧ v = .integer n)
    (hset : ∀ n file f', (set n file).value? f' =
      if f' = f then some (.integer (Int.ofNat n)) else file.value? f') :
    Sets (.number name set) f where
  name := hname.symm
  values {v file file'} h := by
    cases v with
    | integer n =>
      change (if 0 ≤ n ∧ n < UInt64.size then Except.ok (set n.toNat file) else _) = _ at h
      split at h
      next hrange =>
        cases h
        refine ⟨(hadmits _).2 ⟨n, hrange, rfl⟩, fun f' => ?_⟩
        rw [hset, Int.ofNat_eq_natCast, Int.toNat_of_nonneg hrange.1]
      next => cases h
    | string | boolean | float | datetime | array | table => cases h
  accepts {v} h file := by
    obtain ⟨n, hrange, rfl⟩ := (hadmits v).1 h
    exact ⟨set n.toNat file, if_pos hrange⟩

/-- The sections that are read are the declared ones, and their fields set the settings. -/
lemma sections_declared : List.Forall₂ (fun sec declared =>
    sec.1 = declared.1 ∧ List.Forall₂ Sets sec.2 declared.2) sections declaredSections := by
  refine .cons ⟨rfl, ?_⟩ (.cons ⟨rfl, ?_⟩ (.cons ⟨rfl, ?_⟩ .nil))
  · refine .cons ?_ .nil
    exact sets_text rfl (fun _ => Iff.rfl) fun s file f' => by cases f' <;> rfl
  · refine .cons ?_ (.cons ?_ .nil)
    · exact sets_text rfl (fun _ => Iff.rfl) fun s file f' => by cases f' <;> rfl
    · exact sets_text rfl (fun _ => Iff.rfl) fun s file f' => by cases f' <;> rfl
  · refine .cons ?_ (.cons ?_ .nil)
    · exact sets_number rfl (fun _ => Iff.rfl) fun n file f' => by cases f' <;> rfl
    · exact sets_truth rfl (fun _ => Iff.rfl) fun b file f' => by cases f' <;> rfl

/-- What is found under the name of a field sets a setting of that name. -/
lemma exists_setting_of_find? {key : String} (hfields : List.Forall₂ Sets fields settings)
    (h : fields.find? (·.name == key) = some field) :
    ∃ f ∈ settings, f.key = key ∧ Sets field f := by
  obtain ⟨f, hfind, hsets⟩ := exists_find?_right hfields
    (fun hsets => congrArg (· == key) hsets.name) h
  have hkey := List.find?_some hfind
  exact ⟨f, List.mem_of_find?_eq_some hfind, beq_iff_eq.1 hkey, hsets⟩

/-- Under the name of a setting there is a field that sets it. -/
lemma exists_field_of_mem (hfields : List.Forall₂ Sets fields settings)
    (hkeys : (settings.map FileSetting.key).Nodup) (hf : f ∈ settings) :
    ∃ field, fields.find? (·.name == f.key) = some field ∧ Sets field f :=
  exists_find?_left hfields (fun hsets => congrArg (· == f.key) hsets.name)
    ((find?_key_eq_some_iff hkeys).2 ⟨hf, rfl⟩)

end Fields

/-! ### Sections -/

section Sections

variable {fields : List Field} {f : FileSetting} {settings : List FileSetting}
  {told : FileSetting → Option Toml.Value} {file file' : ConfigFile} {v : Toml.Value}
  {name name' : String} {entries : List (String × Toml.Value)} {items : List Toml.Value}

/-- One file has what a section says about its settings, and else what another file has. -/
structure IsUpdate (settings : List FileSetting) (told : FileSetting → Option Toml.Value)
    (file file' : ConfigFile) : Prop where
  inside : ∀ f ∈ settings, file'.value? f = (told f).or (file.value? f)
  outside : ∀ f ∉ settings, file'.value? f = file.value? f

/-- A table that is accepted has no other keys than the settings, with values that these admit, and
it sets just them. -/
lemma values_of_setTable (hfields : List.Forall₂ Sets fields settings)
    (hkeys : (settings.map FileSetting.key).Nodup) (hdistinct : (entries.map Prod.fst).Nodup)
    (h : setTable fields entries file = .ok file') :
    (∀ entry ∈ entries, ∃ f ∈ settings, f.key = entry.1 ∧ f.Admits entry.2) ∧
      IsUpdate settings (·.writtenIn (.table entries)) file file' := by
  induction entries generalizing file with
  | nil =>
    cases h
    exact ⟨nofun, fun f _ => rfl, fun f _ => rfl⟩
  | cons entry rest ih =>
    obtain ⟨key, v⟩ := entry
    rw [List.map_cons, List.nodup_cons] at hdistinct
    rw [setTable] at h
    split at h
    next => cases h
    next field hfind =>
      obtain ⟨middle, hset, hrest⟩ := bind_eq_ok.1 h
      obtain ⟨g, hg, rfl, hsets⟩ := exists_setting_of_find? hfields hfind
      obtain ⟨hadmits, hvalues⟩ := hsets.values hset
      obtain ⟨hshape, hupdate⟩ := ih hdistinct.2 hrest
      refine ⟨List.forall_mem_cons.2 ⟨⟨g, hg, rfl, hadmits⟩, hshape⟩, fun f hf => ?_,
        fun f hf => ?_⟩
      · rw [hupdate.inside f hf, hvalues f]
        -- No later entry has the key of this one, so that its value stays.
        by_cases hfg : f = g
        · have hnone : rest.find? (·.1 == g.key) = none :=
            find?_key_eq_none_iff.2 fun entry hentry hkey =>
              hdistinct.1 (List.mem_map.2 ⟨entry, hentry, hkey⟩)
          rw [if_pos hfg, hfg]
          simp [FileSetting.writtenIn, hnone]
        · have hkey : ¬ g.key = f.key := fun hkey =>
            hfg (List.inj_on_of_nodup_map hkeys hf hg hkey.symm)
          rw [if_neg hfg]
          simp [FileSetting.writtenIn, hkey]
      · have hfg : ¬ f = g := fun hfg => hf (hfg ▸ hg)
        rw [hupdate.outside f hf, hvalues f, if_neg hfg]

/-- An array that is accepted begins with values that the settings admit, and sets just them. -/
lemma values_of_setArray (hfields : List.Forall₂ Sets fields settings) (hnodup : settings.Nodup)
    (h : setArray fields items file = .ok file') :
    (∃ leading extra, items = leading ++ extra ∧
      List.Forall₂ FileSetting.Admits settings leading) ∧
    (∀ (i : Nat) (f : FileSetting), settings[i]? = some f → file'.value? f = items[i]?) ∧
    ∀ f ∉ settings, file'.value? f = file.value? f := by
  -- Settings and elements are used up together, and what has been set is outside of what remains.
  induction hfields generalizing items file with
  | nil =>
    cases h
    exact ⟨⟨[], items, rfl, .nil⟩, fun i f hf => by simp at hf, fun f _ => rfl⟩
  | @cons field g fields settings hsets _ ih =>
    rw [List.nodup_cons] at hnodup
    cases items with
    | nil => cases h
    | cons v items =>
      obtain ⟨middle, hset, hrest⟩ := bind_eq_ok.1 h
      obtain ⟨hadmits, hvalues⟩ := hsets.values hset
      obtain ⟨⟨leading, extra, rfl, hleading⟩, hinside, houtside⟩ := ih hnodup.2 hrest
      refine ⟨⟨v :: leading, extra, rfl, .cons hadmits hleading⟩, fun i f hf => ?_,
        fun f hf => ?_⟩
      · cases i with
        | zero =>
          obtain rfl : g = f := Option.some.inj hf
          rw [houtside g hnodup.1, hvalues g, if_pos rfl]
          rfl
        | succ i => exact hinside i f hf
      · rw [List.mem_cons, not_or] at hf
        rw [houtside f hf.2, hvalues f, if_neg hf.1]

/-- A table whose keys are settings with values that these admit is accepted. -/
lemma exists_setTable (hfields : List.Forall₂ Sets fields settings)
    (hentries : ∀ entry ∈ entries, ∃ f ∈ settings, f.key = entry.1 ∧ f.Admits entry.2)
    (hkeys : (settings.map FileSetting.key).Nodup) (file : ConfigFile) :
    ∃ file', setTable fields entries file = .ok file' := by
  induction entries generalizing file with
  | nil => exact ⟨file, rfl⟩
  | cons entry rest ih =>
    obtain ⟨key, v⟩ := entry
    obtain ⟨⟨f, hf, rfl, hadmits⟩, hothers⟩ := List.forall_mem_cons.1 hentries
    obtain ⟨field, hfind, hsets⟩ := exists_field_of_mem hfields hkeys hf
    obtain ⟨middle, hset⟩ := hsets.accepts hadmits file
    obtain ⟨file', hrest⟩ := ih hothers middle
    refine ⟨file', ?_⟩
    rw [setTable, hfind]
    exact bind_eq_ok.2 ⟨middle, hset, hrest⟩

/-- An array that begins with values that the settings admit is accepted. -/
lemma exists_setArray (hfields : List.Forall₂ Sets fields settings)
    (hitems : List.Forall₂ FileSetting.Admits settings items) (extra : List Toml.Value)
    (file : ConfigFile) : ∃ file', setArray fields (items ++ extra) file = .ok file' := by
  induction hfields generalizing items file with
  | nil => exact ⟨file, rfl⟩
  | cons hsets _ ih =>
    cases hitems with
    | cons hadmits hitems =>
      obtain ⟨middle, hset⟩ := hsets.accepts hadmits file
      obtain ⟨file', hrest⟩ := ih hitems middle
      exact ⟨file', bind_eq_ok.2 ⟨middle, hset, hrest⟩⟩

/-- In a declared section, no setting and no name stands twice, and every setting knows its section
and its place. -/
structure IsDeclared (name : String) (settings : List FileSetting) : Prop where
  keys : (settings.map FileSetting.key).Nodup
  mem_iff : ∀ f, f ∈ settings ↔ f.sectionName = name
  position : ∀ f ∈ settings, settings[f.position]? = some f

/-- The declared sections know their settings by name and by place. -/
lemma isDeclared_of_mem (h : (name, settings) ∈ declaredSections) : IsDeclared name settings := by
  have hall : ∀ entry ∈ declaredSections, IsDeclared entry.1 entry.2 := by
    simp only [declaredSections, List.forall_mem_cons]
    refine ⟨⟨by decide, ?_, by decide⟩, ⟨by decide, ?_, by decide⟩, ⟨by decide, ?_, by decide⟩,
      nofun⟩
    all_goals
      intro f
      cases f <;> decide
  exact hall _ h

/-- What is found under the name of a section is declared. -/
lemma exists_declared_of_find? (h : sections.find? (·.1 == name) = some (name', fields)) :
    ∃ settings, (name, settings) ∈ declaredSections ∧ List.Forall₂ Sets fields settings := by
  obtain ⟨⟨declared, settings⟩, hfind, hsec⟩ := exists_find?_right sections_declared
    (fun hsec => congrArg (· == name) hsec.1) h
  have hname := List.find?_some hfind
  obtain rfl : declared = name := beq_iff_eq.1 hname
  exact ⟨settings, List.mem_of_find?_eq_some hfind, hsec.2⟩

/-- Under a declared name there is a section. -/
lemma exists_fields_of_mem (h : (name, settings) ∈ declaredSections) :
    ∃ name' fields, sections.find? (·.1 == name) = some (name', fields) ∧
      List.Forall₂ Sets fields settings := by
  have hdistinct : (declaredSections.map Prod.fst).Nodup := by decide
  obtain ⟨⟨name', fields⟩, hfind, hsec⟩ := exists_find?_left sections_declared
    (fun hsec => congrArg (· == name) hsec.1) ((find?_key_eq_some_iff hdistinct).2 ⟨h, rfl⟩)
  exact ⟨name', fields, hfind, hsec.2⟩

/-- A section that is accepted is declared and has its shape, and it sets what it says. -/
lemma values_of_setSection (hdistinct : v.HasDistinctKeys)
    (h : setSection name v file = .ok file') :
    ∃ settings, (name, settings) ∈ declaredSections ∧ HasSectionShape settings v ∧
      IsUpdate settings (·.writtenIn v) file file' := by
  unfold setSection at h
  split at h
  next => cases h
  next hfind =>
    obtain ⟨settings, hdeclared, hfields⟩ := exists_declared_of_find? hfind
    cases hdistinct with
    | table hkeys _ =>
      have hvalues := values_of_setTable hfields (isDeclared_of_mem hdeclared).keys hkeys h
      exact ⟨settings, hdeclared, .table hvalues.1, hvalues.2⟩
  next hfind =>
    obtain ⟨settings, hdeclared, hfields⟩ := exists_declared_of_find? hfind
    have hdeclares := isDeclared_of_mem hdeclared
    obtain ⟨⟨leading, extra, rfl, hleading⟩, hinside, houtside⟩ :=
      values_of_setArray hfields hdeclares.keys.of_map h
    refine ⟨settings, hdeclared, .array hleading extra, fun f hf => ?_, houtside⟩
    have hplace := hdeclares.position f hf
    obtain ⟨hlt, -⟩ := List.getElem?_eq_some_iff.1 hplace
    have hlength : f.position < (leading ++ extra).length := by
      rw [List.length_append, ← hleading.length_eq]
      omega
    rw [hinside _ f hplace, FileSetting.writtenIn, List.getElem?_eq_getElem hlength]
    rfl
  next => cases h

/-- A declared section of the right shape is accepted. -/
lemma exists_setSection (hdeclared : (name, settings) ∈ declaredSections)
    (hshape : HasSectionShape settings v) (file : ConfigFile) :
    ∃ file', setSection name v file = .ok file' := by
  obtain ⟨name', fields, hfind, hfields⟩ := exists_fields_of_mem hdeclared
  unfold setSection
  rw [hfind]
  cases hshape with
  | table hentries =>
    exact exists_setTable hfields hentries (isDeclared_of_mem hdeclared).keys file
  | array hitems extra => exact exists_setArray hfields hitems extra file

end Sections

/-! ### Documents -/

section Documents

variable {entries entries' : List (String × Toml.Value)} {file file' : ConfigFile}
  {f : FileSetting} {name : String} {v : Toml.Value}

/-- A setting of the first section is written there. -/
lemma written_cons_of_eq (h : f.sectionName = name) :
    f.written ((name, v) :: entries) = f.writtenIn v := by
  simp [FileSetting.written, h]

/-- A setting of another section than the first is written in the rest. -/
lemma written_cons_of_ne (h : f.sectionName ≠ name) :
    f.written ((name, v) :: entries) = f.written entries := by
  simp [FileSetting.written, h.symm]

/-- Nothing is said about a setting without its section. -/
lemma written_eq_none (h : f.sectionName ∉ entries.map Prod.fst) : f.written entries = none := by
  have hnone : entries.find? (·.1 == f.sectionName) = none :=
    find?_key_eq_none_iff.2 fun entry hentry hname =>
      h (List.mem_map.2 ⟨entry, hentry, hname⟩)
  rw [FileSetting.written, hnone]
  rfl

/-- A document that is accepted has its shape, and it sets what it says. -/
lemma values_of_setSections (hdistinct : (Toml.Value.table entries).HasDistinctKeys)
    (h : setSections entries file = .ok file') :
    HasFileShape entries ∧ ∀ f, file'.value? f = (f.written entries).or (file.value? f) := by
  induction entries generalizing file with
  | nil =>
    cases h
    exact ⟨nofun, fun f => rfl⟩
  | cons entry rest ih =>
    obtain ⟨name, v⟩ := entry
    obtain ⟨middle, hset, hrest⟩ := bind_eq_ok.1 h
    cases hdistinct with
    | table hkeys hvalues =>
      obtain ⟨hv, hothers⟩ := List.forall_mem_cons.1 hvalues
      rw [List.map_cons, List.nodup_cons] at hkeys
      obtain ⟨settings, hdeclared, hshape, hupdate⟩ := values_of_setSection hv hset
      obtain ⟨hshapes, hwritten⟩ := ih (.table hkeys.2 hothers) hrest
      refine ⟨List.forall_mem_cons.2 ⟨⟨settings, hdeclared, hshape⟩, hshapes⟩, fun f => ?_⟩
      rw [hwritten f]
      by_cases hf : f.sectionName = name
      · have hnone : f.written rest = none := written_eq_none (hf ▸ hkeys.1)
        rw [hnone, written_cons_of_eq hf,
          hupdate.inside f (((isDeclared_of_mem hdeclared).mem_iff f).2 hf)]
        rfl
      · rw [written_cons_of_ne hf,
          hupdate.outside f fun hmem => hf (((isDeclared_of_mem hdeclared).mem_iff f).1 hmem)]

/-- A document of the right shape is accepted. -/
lemma exists_setSections (hshape : HasFileShape entries) (file : ConfigFile) :
    ∃ file', setSections entries file = .ok file' := by
  induction entries generalizing file with
  | nil => exact ⟨file, rfl⟩
  | cons entry rest ih =>
    obtain ⟨⟨settings, hdeclared, hsection⟩, hothers⟩ := List.forall_mem_cons.1 hshape
    obtain ⟨middle, hset⟩ := exists_setSection hdeclared hsection file
    obtain ⟨file', hrest⟩ := ih hothers middle
    exact ⟨file', bind_eq_ok.2 ⟨middle, hset, hrest⟩⟩

/-- A document is accepted exactly if it has its shape, and then its file has what it says. -/
lemma ofEntries_eq_ok_iff (hdistinct : (Toml.Value.table entries).HasDistinctKeys) :
    ofEntries entries = .ok file ↔
      HasFileShape entries ∧ ∀ f, file.value? f = f.written entries := by
  have hempty (f : FileSetting) : (f.written entries).or (empty.value? f) = f.written entries := by
    cases f <;> exact Option.or_none ..
  constructor
  · intro h
    obtain ⟨hshape, hvalues⟩ := values_of_setSections hdistinct h
    exact ⟨hshape, fun f => (hvalues f).trans (hempty f)⟩
  · rintro ⟨hshape, hfile⟩
    obtain ⟨file', hset⟩ := exists_setSections hshape empty
    have hvalues := (values_of_setSections hdistinct hset).2
    have heq : file' = file := ext_value? fun f => by rw [hvalues f, hempty f, hfile f]
    rw [ofEntries, hset, heq]

end Documents

end ConfigFile

/-! ### Other ways to write a document -/

section Same

variable {entries entries' : List (String × Toml.Value)} {file : ConfigFile} {f : FileSetting}
  {settings : List FileSetting} {v v' : Toml.Value}

/-- An array has the shape of a section if its elements have that are in the places of settings. -/
lemma hasSectionShape_array_iff {items : List Toml.Value} :
    HasSectionShape settings (.array items) ↔
      List.Forall₂ FileSetting.Admits settings (items.take settings.length) := by
  constructor
  · intro h
    cases h with
    | array hitems extra => rwa [hitems.length_eq, List.take_left]
  · intro h
    have harray := HasSectionShape.array h (items.drop settings.length)
    rwa [List.take_append_drop] at harray

/-- Being two ways to write a section does not depend on which comes first. -/
lemma SameSection.symm (h : SameSection settings v v') : SameSection settings v' v := by
  cases h with
  | refl => exact .refl v
  | reordered hperm => exact .reordered hperm.symm
  | extended hlength extra extra' => exact .extended hlength extra' extra

/-- The shape of a section does not depend on the way it is written. -/
lemma SameSection.shape (h : SameSection settings v v') (hshape : HasSectionShape settings v) :
    HasSectionShape settings v' := by
  cases h with
  | refl => exact hshape
  | reordered hperm =>
    cases hshape with
    | table hentries => exact .table fun entry hentry => hentries entry (hperm.mem_iff.2 hentry)
  | extended hlength extra extra' =>
    rw [hasSectionShape_array_iff, List.take_append_of_le_length hlength] at hshape ⊢
    exact hshape

/-- What a section says about its settings does not depend on the way it is written. -/
lemma SameSection.writtenIn_eq (h : SameSection settings v v') (hdistinct : v.HasDistinctKeys)
    (hplace : settings[f.position]? = some f) : f.writtenIn v = f.writtenIn v' := by
  cases h with
  | refl => rfl
  | reordered hperm =>
    cases hdistinct with
    | table hkeys _ =>
      rw [FileSetting.writtenIn, FileSetting.writtenIn, find?_key_eq_of_perm hperm hkeys]
  | extended hlength extra extra' =>
    obtain ⟨hlt, -⟩ := List.getElem?_eq_some_iff.1 hplace
    have hinside := Nat.lt_of_lt_of_le hlt hlength
    rw [FileSetting.writtenIn, FileSetting.writtenIn, List.getElem?_append_left hinside,
      List.getElem?_append_left hinside]

/-- Every setting has a place in a declared section. -/
lemma exists_declared (f : FileSetting) :
    ∃ settings, (f.sectionName, settings) ∈ declaredSections ∧
      settings[f.position]? = some f := by
  cases f with
  | adapterClass => exact ⟨_, .head _, rfl⟩
  | productAlias | signature => exact ⟨_, .tail _ (.head _), rfl⟩
  | installTimeout | rename => exact ⟨_, .tail _ (.tail _ (.head _)), rfl⟩

/-- The shape of a document does not depend on the way it is written. -/
lemma SameDocument.hasFileShape_iff (h : SameDocument entries entries') :
    HasFileShape entries ↔ HasFileShape entries' := by
  obtain ⟨middle, hperm, hsections⟩ := h
  have hmiddle : HasFileShape entries ↔ HasFileShape middle :=
    forall_congr' fun entry => by rw [hperm.mem_iff]
  rw [hmiddle]
  clear hmiddle hperm
  induction hsections with
  | nil => rfl
  | @cons entry entry' middle entries' hentry _ ih =>
    obtain ⟨hname, hsame⟩ := hentry
    refine List.forall_mem_cons.trans (Iff.trans (and_congr ?_ ih) List.forall_mem_cons.symm)
    rw [← hname]
    constructor
    · rintro ⟨settings, hdeclared, hshape⟩
      exact ⟨settings, hdeclared, (hsame settings hdeclared).shape hshape⟩
    · rintro ⟨settings, hdeclared, hshape⟩
      exact ⟨settings, hdeclared, (hsame settings hdeclared).symm.shape hshape⟩

/-- What a document says does not depend on the way it is written. -/
lemma SameDocument.written_eq (h : SameDocument entries entries')
    (hdistinct : (Toml.Value.table entries).HasDistinctKeys) :
    f.written entries = f.written entries' := by
  obtain ⟨middle, hperm, hsections⟩ := h
  cases hdistinct with
  | table hkeys hvalues =>
    rw [FileSetting.written, find?_key_eq_of_perm hperm hkeys, FileSetting.written]
    cases hfound : middle.find? (·.1 == f.sectionName) with
    | none =>
      have hnone : entries'.find? (·.1 == f.sectionName) = none := by
        refine Option.eq_none_iff_forall_ne_some.2 fun entry' hfound' => ?_
        obtain ⟨entry, hentry, -⟩ := exists_find?_left hsections
          (fun hentry => congrArg (· == f.sectionName) hentry.1) hfound'
        rw [hfound] at hentry
        cases hentry
      rw [hnone]
    | some entry =>
      obtain ⟨entry', hfound', -, hsame⟩ := exists_find?_right hsections
        (fun hentry => congrArg (· == f.sectionName) hentry.1) hfound
      have hname := List.find?_some hfound
      rw [beq_iff_eq] at hname
      obtain ⟨settings, hdeclared, hplace⟩ := exists_declared f
      have hv := hvalues entry (hperm.mem_iff.2 (List.mem_of_find?_eq_some hfound))
      rw [hfound', Option.bind_some, Option.bind_some]
      exact (hsame settings (hname ▸ hdeclared)).writtenIn_eq hv hplace

end Same

/-- A document that cannot be read is refused, and one that can be read has no key twice.  Of the
documents without a key twice those of the right shape are accepted, with a file that has exactly
what they say, and all others are refused.  The order of sections and of their keys makes no
difference, and neither do further elements of arrays. -/
theorem ConfigFile.ofText_shape :
    (∀ text cause, Toml.read text = .error cause →
      (ofText text).mapError ConfigError.toml = .error (.toml cause)) ∧
    (∀ text entries, Toml.read text = .ok entries →
      ofText text = ofEntries entries ∧ (Toml.Value.table entries).HasDistinctKeys) ∧
    ∀ entries, (Toml.Value.table entries).HasDistinctKeys →
      ((∃ file, ofEntries entries = .ok file) ↔ HasFileShape entries) ∧
      (∀ file, ofEntries entries = .ok file → ∀ f, file.value? f = f.written entries) ∧
      (¬ HasFileShape entries →
        ∃ cause, (ofEntries entries).mapError ConfigError.toml = .error (.toml cause)) ∧
      ∀ entries', (Toml.Value.table entries').HasDistinctKeys → SameDocument entries entries' →
        ∀ file, ofEntries entries' = .ok file ↔ ofEntries entries = .ok file := by
  refine ⟨fun text cause hread => ?_, fun text entries hread => ?_, fun entries hdistinct => ?_⟩
  · rw [ofText, hread]
    rfl
  · refine ⟨?_, Toml.hasDistinctKeys_of_read hread⟩
    rw [ofText, hread]
    rfl
  · refine ⟨⟨?_, fun hshape => exists_setSections hshape empty⟩, fun file h => ?_, fun hshape => ?_,
      fun entries' hdistinct' hsame file => ?_⟩
    · rintro ⟨file, h⟩
      exact ((ofEntries_eq_ok_iff hdistinct).1 h).1
    · exact ((ofEntries_eq_ok_iff hdistinct).1 h).2
    · cases h : ofEntries entries with
      | error cause => exact ⟨cause, rfl⟩
      | ok file => exact absurd ((ofEntries_eq_ok_iff hdistinct).1 h).1 hshape
    · rw [ofEntries_eq_ok_iff hdistinct, ofEntries_eq_ok_iff hdistinct', hsame.hasFileShape_iff]
      refine and_congr_right fun _ => forall_congr' fun f => ?_
      rw [hsame.written_eq hdistinct]

/-- An array may go on after the settings of its section, and a misspelt key is refused. -/
example :
    ConfigFile.ofEntries [("install", .array [.integer 60, .boolean false, .string "more"])] =
        .ok ⟨none, none, none, some 60, some false⟩ ∧
      ConfigFile.ofEntries [("install", .table [("timout", .integer 60)])] =
        .error (.unknownField "timout") :=
  ⟨rfl, rfl⟩

end TapTracker
