import TapTracker.Proofs.Config.FileShape
import TapTracker.Proofs.Toml.Lines
import TapTracker.Proofs.Toml.Replacement

/-!
# Settings in their places

`SettingFrame` is a configuration file around the value of a setting, which stands in a line of its
own below the header of its section: whatever stands before this header, between the header and the
setting, and after the setting.  If the file is accepted with one value of the setting, it is
accepted with just those that the setting admits, and nothing else in it changes
(`SettingFrame.exists_ofText`, `SettingFrame.exists_error_of_ofText`).

This rests on what a document says about the settings when one value in it is replaced
(`written_of_isReplaced`, `hasFileShape_of_isReplaced`), and on two facts about texts in whatever
layout: one that is read as a document of the right shape says what the document says
(`ConfigFile.exists_ofText_of_shape`), and one that says something about a setting which the setting
does not admit is refused (`ConfigFile.exists_error_of_written`).
-/

namespace TapTracker

/-- The parts of a configuration file around the value of a setting: those before the header of the
section, those between the header and the setting, and those after it. -/
structure SettingFrame where
  before : List Toml.Part
  inside : List Toml.Part
  after : List Toml.Part
  inside_stays : ∀ part ∈ inside, part.change.staysInTable = true

/-- The file with a text for the value of the setting. -/
def SettingFrame.text (frame : SettingFrame) (f : FileSetting) (value : String) : String :=
  "\n".intercalate
    (frame.before.map Toml.Part.text ++ ("[" ++ f.sectionName ++ "]") ::
      (frame.inside.map Toml.Part.text ++ (f.key ++ " = " ++ value) ::
        frame.after.map Toml.Part.text))

/-- The names of sections need no quotes. -/
lemma FileSetting.isBare_sectionName (f : FileSetting) : Toml.IsBare f.sectionName := by
  cases f <;> exact ⟨by decide, by decide⟩

/-- The keys of settings need no quotes. -/
lemma FileSetting.isBare_key (f : FileSetting) : Toml.IsBare f.key := by
  cases f <;> exact ⟨by decide, by decide⟩

/-- The header of the section of a setting. -/
def FileSetting.headerPart (f : FileSetting) : Toml.Part :=
  ⟨_, _, f.isBare_sectionName.isPart_header⟩

/-- The line of a setting with its value. -/
def FileSetting.valuePart (f : FileSetting) {value : String} {v : Toml.Value}
    (hv : Toml.IsValueText value v) : Toml.Part :=
  ⟨_, _, hv.isPart f.isBare_key⟩

section Documents

variable {f g : FileSetting} {v v' : Toml.Value} {entries entries' : Toml.Entries}
  {values : List (String × Toml.Value)} {text : String}

/-- A setting is known by its section and its key. -/
lemma FileSetting.eq_of_key_eq (hsection : f.sectionName = g.sectionName) (hkey : f.key = g.key) :
    f = g := by
  obtain ⟨settings, hdeclared, hplace⟩ := exists_declared g
  have hdeclares := ConfigFile.isDeclared_of_mem hdeclared
  exact List.inj_on_of_nodup_map hdeclares.keys ((hdeclares.mem_iff f).2 hsection)
    ((hdeclares.mem_iff g).2 rfl) hkey

/-- What a document says about a setting is said by the node of its section. -/
lemma FileSetting.written_entryValues (f : FileSetting) (entries : Toml.Entries) :
    f.written (Toml.Node.entryValues entries) =
      (entries.find? f.sectionName).bind fun node => f.writtenIn node.toValue := by
  rw [FileSetting.written, Toml.Entries.find?_entryValues, Option.bind_map]
  rfl

/-- What a section says about a setting is the value of the node with its key. -/
lemma FileSetting.writtenIn_table (f : FileSetting) (origin : Toml.Origin)
    (entries : Toml.Entries) :
    f.writtenIn (Toml.Node.table origin entries).toValue =
      (entries.find? f.key).map Toml.Node.toValue := by
  rw [Toml.Node.toValue, FileSetting.writtenIn, Toml.Entries.find?_entryValues, Option.map_map]
  rfl

/-- A replaced value is what is said about its setting, and what is said about the others stays. -/
lemma written_of_isReplaced (h : entries.IsReplaced v v' [f.sectionName, f.key] entries') :
    f.written (Toml.Node.entryValues entries) = some v ∧
      ∀ g : FileSetting, g.written (Toml.Node.entryValues entries') =
        if g = f then some v' else g.written (Toml.Node.entryValues entries) := by
  obtain ⟨origin, inner, hfind, hvalue, rfl⟩ := h.exists_table
  constructor
  · rw [FileSetting.written_entryValues, hfind, Option.bind_some, FileSetting.writtenIn_table,
      hvalue]
    rfl
  · intro g
    rw [FileSetting.written_entryValues, FileSetting.written_entryValues]
    by_cases hsection : g.sectionName = f.sectionName
    · rw [hsection, Toml.Entries.find?_replace_self hfind, hfind, Option.bind_some,
        Option.bind_some, FileSetting.writtenIn_table, FileSetting.writtenIn_table]
      by_cases hkey : g.key = f.key
      · rw [if_pos (FileSetting.eq_of_key_eq hsection hkey), hkey,
          Toml.Entries.find?_replace_self hvalue]
        rfl
      · rw [if_neg (mt (congrArg FileSetting.key) hkey), Toml.Entries.find?_replace_of_ne hkey]
    · rw [if_neg (mt (congrArg FileSetting.sectionName) hsection),
        Toml.Entries.find?_replace_of_ne hsection]

/-- Another value that the setting admits keeps the shape of a document. -/
lemma hasFileShape_of_isReplaced (h : entries.IsReplaced v v' [f.sectionName, f.key] entries')
    (hadmits : f.Admits v') (hshape : HasFileShape (Toml.Node.entryValues entries)) :
    HasFileShape (Toml.Node.entryValues entries') := by
  obtain ⟨origin, inner, hfind, -, rfl⟩ := h.exists_table
  intro entry hentry
  rcases Toml.Entries.mem_entryValues_replace hentry with hold | rfl
  · exact hshape entry hold
  · have hmem : (f.sectionName, (Toml.Node.table origin inner).toValue) ∈
        Toml.Node.entryValues entries := by
      refine List.mem_of_find?_eq_some (p := (·.1 == f.sectionName)) ?_
      rw [Toml.Entries.find?_entryValues, hfind]
      rfl
    obtain ⟨settings, hdeclared, hsection⟩ := hshape _ hmem
    refine ⟨settings, hdeclared, ?_⟩
    rw [Toml.Node.toValue] at hsection ⊢
    cases hsection with
    | table hentries =>
      refine .table fun entry hentry => ?_
      rcases Toml.Entries.mem_entryValues_replace hentry with hold | rfl
      · exact hentries entry hold
      · exact ⟨f, ((ConfigFile.isDeclared_of_mem hdeclared).mem_iff f).2 rfl, rfl, hadmits⟩

/-- What a document of the right shape says about a setting is a value that the setting admits. -/
lemma admits_of_written (hshape : HasFileShape values) (h : f.written values = some v) :
    f.Admits v := by
  obtain ⟨⟨name, w⟩, hfind, hin⟩ := Option.bind_eq_some_iff.1 h
  have hname := List.find?_some hfind
  obtain rfl : name = f.sectionName := beq_iff_eq.1 hname
  obtain ⟨settings, hdeclared, hsection⟩ := hshape _ (List.mem_of_find?_eq_some hfind)
  have hdeclares := ConfigFile.isDeclared_of_mem hdeclared
  have hf : f ∈ settings := (hdeclares.mem_iff f).2 rfl
  cases hsection with
  | @table entries hentries =>
    rw [FileSetting.writtenIn] at hin
    obtain ⟨entry, hentry, rfl⟩ := Option.map_eq_some_iff.1 hin
    have hkey := List.find?_some hentry
    obtain ⟨g, hg, hgkey, hadmits⟩ := hentries entry (List.mem_of_find?_eq_some hentry)
    have hsame : g.key = f.key := hgkey.trans (beq_iff_eq.1 hkey)
    rwa [List.inj_on_of_nodup_map hdeclares.keys hg hf hsame] at hadmits
  | @array items hitems extra =>
    have hplace := hdeclares.position f hf
    obtain ⟨hlt, hget⟩ := List.getElem?_eq_some_iff.1 hplace
    have hinside : f.position < items.length := hitems.length_eq ▸ hlt
    rw [FileSetting.writtenIn, List.getElem?_append_left hinside,
      List.getElem?_eq_getElem hinside] at hin
    obtain rfl := Option.some.inj hin
    have hadmits := hitems.get hlt hinside
    rwa [List.get_eq_getElem, List.get_eq_getElem, hget] at hadmits

/-- A text that is read as a document of the right shape is accepted. -/
lemma ConfigFile.exists_ofText_of_shape (hread : Toml.read text = .ok values)
    (hshape : HasFileShape values) :
    ∃ file, ofText text = .ok file ∧ ∀ f, file.value? f = f.written values := by
  obtain ⟨file, hok⟩ := exists_setSections hshape .empty
  have hvalues := ((ofEntries_eq_ok_iff (Toml.hasDistinctKeys_of_read hread)).1 hok).2
  exact ⟨file, bind_eq_ok.2 ⟨values, hread, hok⟩, hvalues⟩

/-- A text that says something about a setting which the setting does not admit is refused. -/
lemma ConfigFile.exists_error_of_written (hread : Toml.read text = .ok values)
    (hwritten : f.written values = some v) (hadmits : ¬ f.Admits v) :
    ∃ cause, ofText text = .error cause := by
  cases hok : ofText text with
  | error cause => exact ⟨cause, rfl⟩
  | ok file =>
    rw [ofText, hread] at hok
    have hshape := ((ofEntries_eq_ok_iff (Toml.hasDistinctKeys_of_read hread)).1 hok).1
    exact absurd (admits_of_written hshape hwritten) hadmits

end Documents

namespace SettingFrame

section Files

variable {frame : SettingFrame} {f : FileSetting} {value value' : String} {v v' : Toml.Value}
  {file : ConfigFile}

/-- The file is read as what is done around the value. -/
lemma read_text (hv : Toml.IsValueText value v) :
    Toml.read (frame.text f value) =
      ((Toml.changesAround (frame.before.map Toml.Part.change)
        (frame.inside.map Toml.Part.change) (frame.after.map Toml.Part.change) f.sectionName f.key
        v).foldlM Toml.Change.apply .start).map fun d => Toml.Node.entryValues d.root := by
  have hparts := Toml.read_map_text
    (frame.before ++ f.headerPart :: (frame.inside ++ f.valuePart hv :: frame.after))
  simp only [List.map_append, List.map_cons] at hparts
  exact hparts

/-- With another value, an accepted file is read as the same document but for this value. -/
lemma exists_replaced (hv : Toml.IsValueText value v) (hv' : Toml.IsValueText value' v')
    (h : ConfigFile.ofText (frame.text f value) = .ok file) :
    ∃ entries entries' : Toml.Entries,
      entries.IsReplaced v v' [f.sectionName, f.key] entries' ∧
      HasFileShape (Toml.Node.entryValues entries) ∧
      (∀ g, file.value? g = g.written (Toml.Node.entryValues entries)) ∧
      Toml.read (frame.text f value') = .ok (Toml.Node.entryValues entries') := by
  obtain ⟨values, hread, hok⟩ := bind_eq_ok.1 h
  have hfile := (ConfigFile.ofEntries_eq_ok_iff (Toml.hasDistinctKeys_of_read hread)).1 hok
  rw [read_text hv] at hread
  obtain ⟨d, hfold, rfl⟩ := map_eq_ok.1 hread
  obtain ⟨d', hfold', hreplaced⟩ := Toml.exists_foldlM_changesAround
    (List.forall_mem_map.2 frame.inside_stays) hfold v'
  refine ⟨d.root, d'.root, hreplaced.root, hfile.1, hfile.2, ?_⟩
  rw [read_text hv', hfold']
  rfl

/-- An accepted file is accepted with another value that the setting admits, and says the same about
the other settings. -/
lemma exists_ofText (hv : Toml.IsValueText value v) (hv' : Toml.IsValueText value' v')
    (h : ConfigFile.ofText (frame.text f value) = .ok file) (hadmits : f.Admits v') :
    ∃ file', ConfigFile.ofText (frame.text f value') = .ok file' ∧
      ∀ g, file'.value? g = if g = f then some v' else file.value? g := by
  obtain ⟨entries, entries', hreplaced, hshape, hfile, hread'⟩ := exists_replaced hv hv' h
  have hwritten := (written_of_isReplaced hreplaced).2
  obtain ⟨file', hok, hfile'⟩ := ConfigFile.exists_ofText_of_shape hread'
    (hasFileShape_of_isReplaced hreplaced hadmits hshape)
  refine ⟨file', hok, fun g => ?_⟩
  rw [hfile' g, hwritten g, hfile g]

/-- An accepted file is refused with a value that the setting does not admit. -/
lemma exists_error_of_ofText (hv : Toml.IsValueText value v) (hv' : Toml.IsValueText value' v')
    (h : ConfigFile.ofText (frame.text f value) = .ok file) (hadmits : ¬ f.Admits v') :
    ∃ cause, ConfigFile.ofText (frame.text f value') = .error cause := by
  obtain ⟨entries, entries', hreplaced, -, -, hread'⟩ := exists_replaced hv hv' h
  have hwritten := (written_of_isReplaced hreplaced).2 f
  rw [if_pos rfl] at hwritten
  exact ConfigFile.exists_error_of_written hread' hwritten hadmits

end Files

end SettingFrame

end TapTracker
