import Mathlib.Data.List.Basic
import TapTracker.Proofs.Toml.Parts

/-!
# Another value in the same place

Two documents may differ by one value: `IsReplaced v v' path` says that one has `v'` at a path of
keys where the other has `v`, and that all else is the same.  Whether a key can be added and a table
opened does not depend on values, so that what is done to the one document can be done to the other,
and leaves them in this relation.  This is said of a change to the entries of a table by `Respects`,
lifted from the end of a path to the whole document (`respects_modify`), and then said of all
changes of a document (`exists_apply_of_isReplaced`, `exists_foldlM_of_isReplaced`).

The relation begins where a key of an open table is set (`Document.HasOpen.exists_setKey`).  Hence
all that is done around one value can be done around another (`exists_foldlM_changesAround`).
-/

namespace TapTracker.Toml

/-! ### Look-ups after changes -/

namespace Entries

section Lookups

variable {entries : Entries} {key key' : String} {node node' : Node}

/-- A key is found at the first entry, or is sought in the others. -/
lemma find?_cons : Entries.find? ((key', node) :: entries) key =
    if key' = key then some node else entries.find? key := by
  rw [Entries.find?, List.find?_cons]
  by_cases h : key' = key
  · rw [if_pos h, beq_iff_eq.2 h]
    rfl
  · rw [if_neg h, beq_eq_false_iff_ne.2 h]
    rfl

/-- The first entry is replaced if it has the key, and the others are after it. -/
lemma replace_cons : Entries.replace ((key', node) :: entries) key node' =
    (key', if key' = key then node' else node) :: entries.replace key node' := by
  simp only [Entries.replace, List.map_cons, beq_iff_eq]
  split_ifs <;> rfl

/-- A key that is replaced is found with its new node. -/
lemma find?_replace_self (h : entries.find? key = some node) :
    (entries.replace key node').find? key = some node' := by
  induction entries with
  | nil => cases h
  | cons entry rest ih =>
    obtain ⟨k, old⟩ := entry
    rw [find?_cons] at h
    rw [replace_cons, find?_cons]
    split_ifs at h ⊢ with hk
    · rfl
    · exact ih h

/-- Another key is found as it was before a replacement. -/
lemma find?_replace_of_ne (h : key' ≠ key) :
    (entries.replace key node).find? key' = entries.find? key' := by
  induction entries with
  | nil => rfl
  | cons entry rest ih =>
    obtain ⟨k, old⟩ := entry
    rw [replace_cons, find?_cons, find?_cons, ih]
    by_cases hk : k = key'
    · rw [if_pos hk, if_pos hk, if_neg (hk ▸ h)]
    · rw [if_neg hk, if_neg hk]

/-- Of two replacements at one key the last one counts. -/
lemma replace_replace :
    (entries.replace key node).replace key node' = entries.replace key node' := by
  induction entries with
  | nil => rfl
  | cons entry rest ih =>
    obtain ⟨k, old⟩ := entry
    rw [replace_cons, replace_cons, replace_cons, ih]
    by_cases hk : k = key
    · rw [if_pos hk, if_pos hk]
    · rw [if_neg hk, if_neg hk, if_neg hk]

/-- Replacements at two keys can be made in either order. -/
lemma replace_comm (h : key' ≠ key) :
    (entries.replace key node).replace key' node' =
      (entries.replace key' node').replace key node := by
  induction entries with
  | nil => rfl
  | cons entry rest ih =>
    obtain ⟨k, old⟩ := entry
    rw [replace_cons, replace_cons, replace_cons, replace_cons, ih]
    by_cases hk : k = key
    · rw [if_pos hk, if_pos hk, if_neg (hk ▸ h.symm)]
    · rw [if_neg hk, if_neg hk]

/-- A key that is found is found as before after an addition. -/
lemma find?_add_of_some (h : entries.find? key = some node) :
    (entries.add key' node').find? key = some node := by
  rw [Entries.find?, Option.map_eq_some_iff] at h ⊢
  obtain ⟨entry, hentry, rfl⟩ := h
  refine ⟨entry, ?_, rfl⟩
  rw [Entries.add, List.find?_append, hentry, Option.some_or]

/-- A missing key that is added is found with its node. -/
lemma find?_add_self (h : entries.find? key = none) :
    (entries.add key node).find? key = some node := by
  rw [Entries.find?, Option.map_eq_none_iff] at h
  rw [Entries.find?, Entries.add, List.find?_append, h, Option.none_or, List.find?_singleton,
    if_pos (beq_self_eq_true key)]
  rfl

/-- An addition and a replacement at another key can be made in either order. -/
lemma replace_add_of_ne (h : key' ≠ key) :
    (entries.add key' node').replace key node = (entries.replace key node).add key' node' := by
  simp [Entries.add, Entries.replace, h]

/-- A missing key that is added and replaced is added with the new node. -/
lemma replace_add_self (h : entries.find? key = none) :
    (entries.add key node).replace key node' = entries.add key node' := by
  induction entries with
  | nil =>
    show Entries.replace [(key, node)] key node' = [(key, node')]
    rw [replace_cons, if_pos rfl]
    rfl
  | cons entry rest ih =>
    obtain ⟨k, old⟩ := entry
    rw [find?_cons] at h
    split_ifs at h with hk
    show Entries.replace ((k, old) :: Entries.add rest key node) key node' =
      (k, old) :: Entries.add rest key node'
    rw [replace_cons, if_neg hk, ih h]

end Lookups

/-! ### Changes along a path -/

section Paths

variable {byKey : Bool} {change : Origin → Entries → Except Error Entries} {key : String}
  {keys : List String} {origin o : Origin} {entries inner : Entries} {older : List Entries}

/-- A change along a path adds a table for a key that is missing. -/
lemma modify_of_none (h : entries.find? key = none) :
    modify byKey change (key :: keys) origin entries =
      (modify byKey change keys (if byKey then .dotted else .above) []).bind fun inner =>
        .ok (entries.add key (.table (if byKey then .dotted else .above) inner)) := by
  rw [modify, h]
  rfl

/-- A change along a path goes into the table that a key stands for. -/
lemma modify_of_table (h : entries.find? key = some (.table o inner))
    (hallowed : ¬(byKey = true ∧ o = .header)) :
    modify byKey change (key :: keys) origin entries =
      (modify byKey change keys o inner).bind fun inner =>
        .ok (entries.replace key (.table o inner)) := by
  rw [modify, h]
  exact if_neg hallowed

/-- A change along a path goes into the newest table that a key stands for. -/
lemma modify_of_tables (h : entries.find? key = some (.tables (inner :: older)))
    (hallowed : ¬byKey = true) :
    modify byKey change (key :: keys) origin entries =
      (modify byKey change keys .header inner).bind fun inner =>
        .ok (entries.replace key (.tables (inner :: older))) := by
  rw [modify, h]
  exact if_neg hallowed

end Paths

end Entries

/-! ### Another value -/

/-- One node is another with `v'` in place of `v` at the end of a path of keys. -/
inductive Node.IsReplaced (v v' : Value) : List String → Node → Node → Prop
  | here : IsReplaced v v' [] (.value v) (.value v')
  | under {origin : Origin} {entries : Entries} {key : String} {path : List String}
      {node node' : Node} (hfind : entries.find? key = some node)
      (hnode : IsReplaced v v' path node node') :
      IsReplaced v v' (key :: path) (.table origin entries)
        (.table origin (entries.replace key node'))

namespace Entries

/-- Entries are others with `v'` in place of `v` at the end of a path of keys. -/
def IsReplaced (v v' : Value) (path : List String) (entries entries' : Entries) : Prop :=
  Node.IsReplaced v v' path (.table .header entries) (.table .header entries')

/-- What can be done to entries can be done with another value in them, and comes to the same but
for this value. -/
def Respects (v v' : Value) (change : Entries → Except Error Entries) : Prop :=
  ∀ ⦃path : List String⦄ ⦃entries entries' out : Entries⦄,
    IsReplaced v v' path entries entries' → change entries = .ok out →
      ∃ out', change entries' = .ok out' ∧ IsReplaced v v' path out out'

section Replaced

variable {v v' w : Value} {path : List String} {entries entries' out : Entries} {key : String}
  {node : Node} {origin : Origin}

/-- Another value in a table is another value among its entries. -/
lemma isReplaced_of_table {node' : Node}
    (h : Node.IsReplaced v v' path (.table origin entries) node') :
    ∃ entries', node' = .table origin entries' ∧ IsReplaced v v' path entries entries' := by
  cases h with
  | under hfind hnode => exact ⟨_, rfl, .under hfind hnode⟩

/-- Another value among entries is another value in their table. -/
lemma IsReplaced.table (h : IsReplaced v v' path entries entries') (origin : Origin) :
    Node.IsReplaced v v' path (.table origin entries) (.table origin entries') := by
  cases h with
  | under hfind hnode => exact .under hfind hnode

/-- A key that is missing is missing with the other value too, and can be added to both. -/
lemma IsReplaced.add (h : IsReplaced v v' path entries entries')
    (hnone : entries.find? key = none) :
    entries'.find? key = none ∧
      ∀ node, IsReplaced v v' path (entries.add key node) (entries'.add key node) := by
  cases h with
  | @under _ _ k path old node' hfind hnode =>
    have hne : key ≠ k := by
      rintro rfl
      rw [hnone] at hfind
      cases hfind
    refine ⟨by rw [find?_replace_of_ne hne, hnone], fun node => ?_⟩
    rw [← replace_add_of_ne hne]
    exact .under (find?_add_of_some hfind) hnode

/-- A key that is there stands for the same with the other value, or the path begins with it.  In
both cases what it stands for can be replaced. -/
lemma IsReplaced.replace (h : IsReplaced v v' path entries entries')
    (hsome : entries.find? key = some node) :
    (entries'.find? key = some node ∧
      ∀ new, IsReplaced v v' path (entries.replace key new) (entries'.replace key new)) ∨
    ∃ inside node', Node.IsReplaced v v' inside node node' ∧ entries'.find? key = some node' ∧
      ∀ new new', Node.IsReplaced v v' inside new new' →
        IsReplaced v v' path (entries.replace key new) (entries'.replace key new') := by
  cases h with
  | @under _ _ k path old node' hfind hnode =>
    by_cases hk : key = k
    · subst hk
      obtain rfl : old = node := Option.some.inj (hfind.symm.trans hsome)
      refine .inr ⟨path, node', hnode, find?_replace_self hfind, fun new new' hnew => ?_⟩
      have hreplace : (entries.replace key node').replace key new' =
          (entries.replace key new).replace key new' := by
        rw [replace_replace, replace_replace]
      rw [hreplace]
      exact .under (find?_replace_self hfind) hnew
    · refine .inl ⟨by rw [find?_replace_of_ne hk, hsome], fun new => ?_⟩
      rw [replace_comm hk]
      exact .under (by rw [find?_replace_of_ne (Ne.symm hk), hfind]) hnode

/-- Adding a value does not depend on other values. -/
lemma respects_addValue (key : String) (w : Value) : Respects v v' (addValue key w) := by
  intro path entries entries' out h hout
  rw [addValue] at hout
  split at hout
  next hnone =>
    cases hout
    obtain ⟨hnone', hadd⟩ := h.add hnone
    exact ⟨_, by rw [addValue, hnone'], hadd _⟩
  next => cases hout

/-- Opening a table does not depend on values. -/
lemma respects_openTable (key : String) : Respects v v' (openTable key) := by
  intro path entries entries' out h hout
  rw [openTable] at hout
  split at hout
  next hnone =>
    cases hout
    obtain ⟨hnone', hadd⟩ := h.add hnone
    exact ⟨_, by rw [openTable, hnone'], hadd _⟩
  next inner hsome =>
    cases hout
    rcases h.replace hsome with ⟨hsame, hreplace⟩ | ⟨inside, node', hnode, hsome', hreplace⟩
    · exact ⟨_, by rw [openTable, hsame], hreplace _⟩
    · obtain ⟨inner', rfl, hinner⟩ := isReplaced_of_table hnode
      exact ⟨_, by rw [openTable, hsome'], hreplace _ _ (hinner.table .header)⟩
  next => cases hout

/-- Opening an element of an array of tables does not depend on values. -/
lemma respects_openElement (key : String) : Respects v v' (openElement key) := by
  intro path entries entries' out h hout
  rw [openElement] at hout
  split at hout
  next hnone =>
    cases hout
    obtain ⟨hnone', hadd⟩ := h.add hnone
    exact ⟨_, by rw [openElement, hnone'], hadd _⟩
  next older hsome =>
    cases hout
    rcases h.replace hsome with ⟨hsame, hreplace⟩ | ⟨inside, node', hnode, -⟩
    · exact ⟨_, by rw [openElement, hsame], hreplace _⟩
    · cases hnode
  next => cases hout

/-- A change at the end of a path does not depend on values if the change to the table there does
not. -/
lemma respects_modify {change : Origin → Entries → Except Error Entries}
    (hchange : ∀ origin, Respects v v' (change origin)) (byKey : Bool) (keys : List String)
    (origin : Origin) : Respects v v' (modify byKey change keys origin) := by
  -- Either the table of the first key is the same in both, or the other value is in that table.
  induction keys generalizing origin with
  | nil => exact hchange origin
  | cons key keys ih =>
    intro path entries entries' out h hout
    unfold modify at hout
    split at hout
    next hnone =>
      obtain ⟨inner, hinner, hok⟩ := bind_eq_ok.1 hout
      cases hok
      obtain ⟨hnone', hadd⟩ := h.add hnone
      exact ⟨_, (modify_of_none hnone').trans (bind_eq_ok.2 ⟨inner, hinner, rfl⟩), hadd _⟩
    next o inner hsome =>
      split at hout
      · cases hout
      next hallowed =>
        obtain ⟨new, hnew, hok⟩ := bind_eq_ok.1 hout
        cases hok
        rcases h.replace hsome with ⟨hsame, hreplace⟩ | ⟨inside, node', hnode, hsome', hreplace⟩
        · exact ⟨_, (modify_of_table hsame hallowed).trans (bind_eq_ok.2 ⟨new, hnew, rfl⟩),
            hreplace _⟩
        · obtain ⟨inner', rfl, hinner⟩ := isReplaced_of_table hnode
          obtain ⟨new', hnew', hreplaced⟩ := ih o hinner hnew
          exact ⟨_, (modify_of_table hsome' hallowed).trans (bind_eq_ok.2 ⟨new', hnew', rfl⟩),
            hreplace _ _ (hreplaced.table o)⟩
    next inner older hsome =>
      split at hout
      · cases hout
      next hallowed =>
        obtain ⟨new, hnew, hok⟩ := bind_eq_ok.1 hout
        cases hok
        rcases h.replace hsome with ⟨hsame, hreplace⟩ | ⟨inside, node', hnode, -⟩
        · exact ⟨_, (modify_of_tables hsame hallowed).trans (bind_eq_ok.2 ⟨new, hnew, rfl⟩),
            hreplace _⟩
        · cases hnode
    next => cases hout

/-- Adding a value under a dotted key does not depend on other values. -/
lemma respects_addDotted (front : List String) (key : String) (w : Value) :
    Respects v v' (addDotted front key w) := by
  cases front with
  | nil => exact respects_addValue key w
  | cons first front =>
    refine respects_modify (fun origin => ?_) true (first :: front) .header
    by_cases horigin : origin = .dotted
    · simp only [if_pos horigin]
      exact respects_addValue key w
    · simp only [if_neg horigin]
      intro _ _ _ _ _ hout
      cases hout

end Replaced

end Entries

/-! ### Documents -/

/-- One document is another with `v'` in place of `v` at the end of a path of keys. -/
structure Document.IsReplaced (v v' : Value) (path : List String) (d d' : Document) : Prop where
  root : d.root.IsReplaced v v' path d'.root
  path_eq : d'.path = d.path

/-- The table of the name is open, and it is no array of tables. -/
def Document.HasOpen (d : Document) (name : String) : Prop :=
  d.path = [name] ∧ ∃ origin inner, d.root.find? name = some (.table origin inner)

section Documents

variable {v v' w : Value} {path key : List String} {d d' out : Document} {name : String}
  {change : Change} {changes : List Change}

/-- Changes of a document do not depend on a value in it. -/
lemma exists_apply_of_isReplaced (h : d.IsReplaced v v' path d')
    (happly : change.apply d = .ok out) :
    ∃ out', change.apply d' = .ok out' ∧ out.IsReplaced v v' path out' := by
  cases change with
  | nothing =>
    cases happly
    exact ⟨d', rfl, h⟩
  | opens isElement key =>
    obtain ⟨root, hroot, hok⟩ := bind_eq_ok.1 happly
    cases hok
    have hchange : Entries.Respects v v' (if isElement then
        Entries.openElement (key.getLast?.getD "")
        else Entries.openTable (key.getLast?.getD "")) := by
      split
      · exact Entries.respects_openElement _
      · exact Entries.respects_openTable _
    obtain ⟨root', hroot', hreplaced⟩ :=
      Entries.respects_modify (fun _ => hchange) false key.dropLast .header h.root hroot
    exact ⟨⟨root', key⟩, bind_eq_ok.2 ⟨root', hroot', rfl⟩, hreplaced, rfl⟩
  | sets key w =>
    obtain ⟨root, hroot, hok⟩ := bind_eq_ok.1 happly
    cases hok
    have hchange : Entries.Respects v v'
        (Entries.addDotted key.dropLast (key.getLast?.getD "") w) :=
      Entries.respects_addDotted _ _ w
    rw [← h.path_eq] at hroot
    obtain ⟨root', hroot', hreplaced⟩ :=
      Entries.respects_modify (fun _ => hchange) false d'.path .header h.root hroot
    exact ⟨{ d' with root := root' }, bind_eq_ok.2 ⟨root', hroot', rfl⟩, hreplaced, h.path_eq⟩

/-- Neither do changes one after another. -/
lemma exists_foldlM_of_isReplaced (h : d.IsReplaced v v' path d')
    (hfold : changes.foldlM Change.apply d = .ok out) :
    ∃ out', changes.foldlM Change.apply d' = .ok out' ∧ out.IsReplaced v v' path out' := by
  induction changes generalizing d d' with
  | nil =>
    cases hfold
    exact ⟨d', rfl, h⟩
  | cons change changes ih =>
    rw [List.foldlM_cons] at hfold
    obtain ⟨next, hnext, hrest⟩ := bind_eq_ok.1 hfold
    obtain ⟨next', hnext', hreplaced⟩ := exists_apply_of_isReplaced h hnext
    obtain ⟨out', hrest', hout⟩ := ih hreplaced hrest
    exact ⟨out', by rw [List.foldlM_cons]; exact bind_eq_ok.2 ⟨next', hnext', hrest'⟩, hout⟩

/-- After its header a table is open. -/
lemma hasOpen_of_openHeader (h : d.openHeader false [name] = .ok out) : out.HasOpen name := by
  obtain ⟨root, hroot, hok⟩ := bind_eq_ok.1 h
  cases hok
  refine ⟨rfl, ?_⟩
  change Entries.openTable name d.root = .ok root at hroot
  rw [Entries.openTable] at hroot
  split at hroot
  next hnone =>
    cases hroot
    exact ⟨_, _, Entries.find?_add_self hnone⟩
  next hsome =>
    cases hroot
    exact ⟨_, _, Entries.find?_replace_self hsome⟩
  next => cases hroot

/-- A setting is made in the open table. -/
lemma Document.HasOpen.setKey_eq (h : d.HasOpen name) : ∃ origin inner,
    d.root.find? name = some (.table origin inner) ∧
    ∀ key w, d.setKey key w =
      (Entries.addDotted key.dropLast (key.getLast?.getD "") w inner).bind fun inner' =>
        .ok { d with root := d.root.replace name (.table origin inner') } := by
  obtain ⟨hpath, origin, inner, hfind⟩ := h
  refine ⟨origin, inner, hfind, fun key w => ?_⟩
  rw [Document.setKey, hpath, Entries.modify_of_table hfind (by simp), Entries.modify]
  cases Entries.addDotted key.dropLast (key.getLast?.getD "") w inner <;> rfl

/-- A table stays open when its keys are set. -/
lemma Document.HasOpen.setKey (h : d.HasOpen name) (hset : d.setKey key w = .ok out) :
    out.HasOpen name := by
  obtain ⟨origin, inner, hfind, heq⟩ := h.setKey_eq
  rw [heq] at hset
  obtain ⟨inner', -, hok⟩ := bind_eq_ok.1 hset
  cases hok
  exact ⟨h.1, origin, inner', Entries.find?_replace_self hfind⟩

/-- A table stays open until another one is opened. -/
lemma Document.HasOpen.foldlM (h : d.HasOpen name)
    (hstays : ∀ change ∈ changes, change.staysInTable = true)
    (hfold : changes.foldlM Change.apply d = .ok out) : out.HasOpen name := by
  induction changes generalizing d with
  | nil =>
    cases hfold
    exact h
  | cons change changes ih =>
    obtain ⟨hchange, hrest⟩ := List.forall_mem_cons.1 hstays
    rw [List.foldlM_cons] at hfold
    obtain ⟨next, hnext, hfold⟩ := bind_eq_ok.1 hfold
    refine ih ?_ hrest hfold
    cases change with
    | nothing =>
      cases hnext
      exact h
    | opens => cases hchange
    | sets => exact h.setKey hnext

/-- A key of the open table that can be set can be set to another value. -/
lemma Document.HasOpen.exists_setKey {key : String} (h : d.HasOpen name)
    (hset : d.setKey [key] v = .ok out) (v' : Value) :
    ∃ out', d.setKey [key] v' = .ok out' ∧ out.IsReplaced v v' [name, key] out' := by
  obtain ⟨origin, inner, hfind, heq⟩ := h.setKey_eq
  rw [heq] at hset
  obtain ⟨inner', hinner, hok⟩ := bind_eq_ok.1 hset
  cases hok
  change Entries.addValue key v inner = .ok inner' at hinner
  rw [Entries.addValue] at hinner
  -- Whether the key is free does not depend on the value.  Once added, the one value is replaced by
  -- the other in the table and the table in the document.
  split at hinner
  next hnone =>
    cases hinner
    have hadd : Entries.addValue key v' inner = .ok (Entries.add inner key (.value v')) := by
      rw [Entries.addValue, hnone]
    refine ⟨_, (heq [key] v').trans (bind_eq_ok.2 ⟨_, hadd, rfl⟩), ?_, rfl⟩
    have hinner : Node.IsReplaced v v' [key] (.table origin (Entries.add inner key (.value v)))
        (.table origin (Entries.replace (Entries.add inner key (.value v)) key (.value v'))) :=
      .under (Entries.find?_add_self hnone) .here
    rw [Entries.replace_add_self hnone] at hinner
    have houter : Entries.IsReplaced v v' [name, key]
        (d.root.replace name (.table origin (Entries.add inner key (.value v))))
        ((d.root.replace name (.table origin (Entries.add inner key (.value v)))).replace name
          (.table origin (Entries.add inner key (.value v')))) :=
      .under (Entries.find?_replace_self hfind) hinner
    rwa [Entries.replace_replace] at houter
  next => cases hinner

/-- The changes up to the value of a key in the table of its header, and on from there. -/
def changesAround (before inside after : List Change) (name key : String) (v : Value) :
    List Change :=
  before ++ .opens false [name] :: (inside ++ .sets [key] v :: after)

/-- The changes around a value come one after another. -/
lemma foldlM_changesAround_eq_ok {before inside after : List Change} {key : String} :
    (changesAround before inside after name key v).foldlM Change.apply d = .ok out ↔
      ∃ d₁, before.foldlM Change.apply d = .ok d₁ ∧
        ∃ d₂, d₁.openHeader false [name] = .ok d₂ ∧
          ∃ d₃, inside.foldlM Change.apply d₂ = .ok d₃ ∧
            ∃ d₄, d₃.setKey [key] v = .ok d₄ ∧ after.foldlM Change.apply d₄ = .ok out := by
  simp only [changesAround, List.foldlM_append, List.foldlM_cons, bind_eq_ok, Change.apply]

/-- What is done around a value can be done around another one. -/
lemma exists_foldlM_changesAround {before inside after : List Change} {key : String}
    (hstays : ∀ change ∈ inside, change.staysInTable = true)
    (hfold : (changesAround before inside after name key v).foldlM Change.apply d = .ok out)
    (v' : Value) :
    ∃ out', (changesAround before inside after name key v').foldlM Change.apply d = .ok out' ∧
      out.IsReplaced v v' [name, key] out' := by
  obtain ⟨d₁, h₁, d₂, h₂, d₃, h₃, d₄, h₄, h₅⟩ := foldlM_changesAround_eq_ok.1 hfold
  have hopen : d₃.HasOpen name := (hasOpen_of_openHeader h₂).foldlM hstays h₃
  obtain ⟨d₄', h₄', hreplaced⟩ := hopen.exists_setKey h₄ v'
  obtain ⟨out', h₅', hout⟩ := exists_foldlM_of_isReplaced hreplaced h₅
  exact ⟨out', foldlM_changesAround_eq_ok.2 ⟨d₁, h₁, d₂, h₂, d₃, h₃, d₄', h₄', h₅'⟩, hout⟩

end Documents

/-! ### Values -/

namespace Entries

section Values

variable {v v' : Value} {entries entries' : Entries} {key name : String} {node : Node}

/-- What is found under a key is the value of what the key stands for. -/
lemma find?_entryValues : (Node.entryValues entries).find? (·.1 == key) =
    (entries.find? key).map fun node => (key, node.toValue) := by
  induction entries with
  | nil => rfl
  | cons entry rest ih =>
    obtain ⟨k, node⟩ := entry
    rw [Node.entryValues, find?_cons]
    by_cases hk : k = key
    · simp [hk]
    · simp [hk, ih]

/-- All values but the replaced one are as before. -/
lemma mem_entryValues_replace {entry : String × Value}
    (h : entry ∈ Node.entryValues (entries.replace key node)) :
    entry ∈ Node.entryValues entries ∨ entry = (key, node.toValue) := by
  induction entries with
  | nil => cases h
  | cons first rest ih =>
    obtain ⟨k, old⟩ := first
    rw [replace_cons, Node.entryValues, List.mem_cons] at h
    rw [Node.entryValues, List.mem_cons]
    rcases h with heq | hmem
    · split_ifs at heq with hk
      · exact .inr (heq.trans (by rw [hk]))
      · exact .inl (.inl heq)
    · exact (ih hmem).imp_left .inr

/-- With another value for a key in a table, the table is replaced by one in which the value of the
key is. -/
lemma IsReplaced.exists_table (h : IsReplaced v v' [name, key] entries entries') :
    ∃ origin inner, entries.find? name = some (.table origin inner) ∧
      Entries.find? inner key = some (.value v) ∧ entries' =
        entries.replace name (.table origin (Entries.replace inner key (.value v'))) := by
  cases h with
  | under hfind hnode =>
    cases hnode with
    | under hfind' hvalue =>
      cases hvalue
      exact ⟨_, _, hfind, hfind', rfl⟩

end Values

end Entries

end TapTracker.Toml
