import TapTracker.Proofs.Lookup
import TapTracker.Proofs.Success
import TapTracker.Toml.Reader

/-!
# Documents have no key twice

While a document is read, a key that is set again is refused, at every depth.  `AreDistinct` says of
the entries of a table that they have no key twice, and neither have the tables inside them.  All
that changes the tables of a document keeps this (`Entries.AreDistinct.modify` for changes at the
end of a path), and so do the readers of values (`readsDistinctKeys`) and lines
(`Document.areDistinct_step`).  The tree of a document that has been read is one without a key twice
(`hasDistinctKeys_of_read`).
-/

namespace TapTracker.Toml

/-! ### Distinct keys -/

/-- No table in the value has a key twice. -/
inductive Value.HasDistinctKeys : Value → Prop
  | string (s : String) : HasDistinctKeys (.string s)
  | integer (n : Int) : HasDistinctKeys (.integer n)
  | float (text : String) : HasDistinctKeys (.float text)
  | boolean (b : Bool) : HasDistinctKeys (.boolean b)
  | datetime (text : String) : HasDistinctKeys (.datetime text)
  | array {items : List Value} (hitems : ∀ v ∈ items, v.HasDistinctKeys) :
      HasDistinctKeys (.array items)
  | table {entries : List (String × Value)} (hkeys : (entries.map Prod.fst).Nodup)
      (hvalues : ∀ entry ∈ entries, entry.2.HasDistinctKeys) : HasDistinctKeys (.table entries)

/-- No table at or below the node has a key twice. -/
inductive Node.HasDistinctKeys : Node → Prop
  | value {v : Value} (hv : v.HasDistinctKeys) : HasDistinctKeys (.value v)
  | table {origin : Origin} {entries : List (String × Node)}
      (hkeys : (entries.map Prod.fst).Nodup)
      (hnodes : ∀ entry ∈ entries, entry.2.HasDistinctKeys) :
      HasDistinctKeys (.table origin entries)
  | tables {newestFirst : List (List (String × Node))}
      (hkeys : ∀ entries ∈ newestFirst, (entries.map Prod.fst).Nodup)
      (hnodes : ∀ entries ∈ newestFirst, ∀ entry ∈ entries, entry.2.HasDistinctKeys) :
      HasDistinctKeys (.tables newestFirst)

/-- The entries have no key twice, and neither have the tables inside them. -/
structure Entries.AreDistinct (entries : Entries) : Prop where
  keys : (entries.map Prod.fst).Nodup
  nodes : ∀ entry ∈ entries, entry.2.HasDistinctKeys

/-! ### Values of nodes -/

section Values

variable {entries : Entries} {node : Node}

/-- The values of entries have the keys of the entries. -/
lemma map_fst_entryValues (entries : List (String × Node)) :
    (Node.entryValues entries).map Prod.fst = entries.map Prod.fst := by
  induction entries with
  | nil => rfl
  | cons entry rest ih => rw [Node.entryValues, List.map_cons, List.map_cons, ih]

/-- Something holds of the values of entries exactly if it holds of the values of their nodes. -/
lemma forall_entryValues {P : Value → Prop} :
    (∀ entry ∈ Node.entryValues entries, P entry.2) ↔ ∀ entry ∈ entries, P entry.2.toValue := by
  induction entries with
  | nil => exact ⟨fun _ => nofun, fun _ => nofun⟩
  | cons entry rest ih => rw [Node.entryValues, List.forall_mem_cons, List.forall_mem_cons, ih]

/-- Something holds of the elements of an array of tables exactly if it holds of the tables. -/
lemma forall_tableValues {P : Value → Prop} {newestFirst : List (List (String × Node))} :
    (∀ v ∈ Node.tableValues newestFirst, P v) ↔
      ∀ entries ∈ newestFirst, P (.table (Node.entryValues entries)) := by
  induction newestFirst with
  | nil => exact ⟨fun _ => nofun, fun _ => nofun⟩
  | cons entries rest ih => rw [Node.tableValues, List.forall_mem_cons, List.forall_mem_cons, ih]

/-- The value of a node has no key twice if the node has not. -/
lemma Node.HasDistinctKeys.toValue (h : node.HasDistinctKeys) : node.toValue.HasDistinctKeys := by
  induction h with
  | value hv => rwa [Node.toValue]
  | table hkeys _ ih =>
    rw [Node.toValue]
    refine .table ?_ (forall_entryValues.2 ih)
    rwa [map_fst_entryValues]
  | tables hkeys _ ih =>
    rw [Node.toValue]
    refine .array fun v hv => ?_
    have hall : ∀ v ∈ Node.tableValues _, Value.HasDistinctKeys v :=
      forall_tableValues.2 fun entries hentries => by
        refine .table ?_ (forall_entryValues.2 (ih entries hentries))
        rw [map_fst_entryValues]
        exact hkeys entries hentries
    exact hall v (List.mem_reverse.1 hv)

/-- The table of distinct entries has no key twice. -/
lemma Entries.AreDistinct.table_entryValues (h : entries.AreDistinct) :
    (Value.table (Node.entryValues entries)).HasDistinctKeys := by
  have hnode : (Node.table .header entries).HasDistinctKeys := .table h.keys h.nodes
  have hvalue := hnode.toValue
  rwa [Node.toValue] at hvalue

end Values

/-! ### Changes to tables -/

namespace Entries

section Changes

variable {entries inner entries' : Entries} {key : String} {node : Node} {v : Value}
  {origin : Origin} {byKey : Bool} {path front : List String}
  {change : Origin → Entries → Except Error Entries}

/-- Where there are no entries, they are distinct. -/
lemma areDistinct_nil : AreDistinct [] := ⟨List.nodup_nil, nofun⟩

/-- Among distinct entries a key is found with a node exactly if the two are an entry. -/
lemma find?_eq_some_iff (h : entries.AreDistinct) :
    entries.find? key = some node ↔ (key, node) ∈ entries := by
  rw [Entries.find?, Option.map_eq_some_iff]
  constructor
  · rintro ⟨⟨key', node'⟩, hfind, rfl⟩
    obtain ⟨hmem, rfl⟩ := (find?_key_eq_some_iff h.keys).1 hfind
    exact hmem
  · intro hmem
    exact ⟨(key, node), (find?_key_eq_some_iff h.keys).2 ⟨hmem, rfl⟩, rfl⟩

/-- A node that is found among distinct entries has no key twice. -/
lemma AreDistinct.of_find? (h : entries.AreDistinct) (hfind : entries.find? key = some node) :
    node.HasDistinctKeys :=
  h.nodes _ ((find?_eq_some_iff h).1 hfind)

/-- The entries of a table without a key twice are distinct. -/
lemma areDistinct_of_table (h : (Node.table origin inner).HasDistinctKeys) : inner.AreDistinct := by
  cases h with
  | table hkeys hnodes => exact ⟨hkeys, hnodes⟩

/-- A key that is not there can be added. -/
lemma AreDistinct.add (h : entries.AreDistinct) (hnone : entries.find? key = none)
    (hnode : node.HasDistinctKeys) : (entries.add key node).AreDistinct := by
  rw [Entries.find?, Option.map_eq_none_iff, find?_key_eq_none_iff] at hnone
  constructor
  · rw [Entries.add, List.map_append]
    refine List.Nodup.append h.keys (List.nodup_singleton _) ?_
    rw [List.map_singleton, List.disjoint_singleton]
    intro hmem
    obtain ⟨entry, hentry, hkey⟩ := List.mem_map.1 hmem
    exact hnone entry hentry hkey
  · exact List.forall_mem_append.2 ⟨h.nodes, List.forall_mem_singleton.2 hnode⟩

/-- What a key stands for can be replaced. -/
lemma AreDistinct.replace (h : entries.AreDistinct) (hnode : node.HasDistinctKeys) :
    (entries.replace key node).AreDistinct := by
  constructor
  · have hkeys : (entries.replace key node).map Prod.fst = entries.map Prod.fst := by
      rw [Entries.replace, List.map_map]
      refine List.map_congr_left fun ⟨k, old⟩ _ => ?_
      rw [Function.comp_apply]
      dsimp only
      split <;> rfl
    rw [hkeys]
    exact h.keys
  · intro entry hentry
    obtain ⟨⟨key', old⟩, hold, rfl⟩ := List.mem_map.1 hentry
    dsimp only
    split
    · exact hnode
    · exact h.nodes _ hold

/-- A change at the end of a path keeps keys distinct if it does so for the table that it is made
to. -/
lemma AreDistinct.modify
    (hchange : ∀ {origin inner inner'}, AreDistinct inner → change origin inner = .ok inner' →
      AreDistinct inner')
    (h : entries.AreDistinct) (hmodify : modify byKey change path origin entries = .ok entries') :
    entries'.AreDistinct := by
  -- The change is made to the table of the first key, which is then put back or added.
  induction path generalizing origin entries entries' with
  | nil => exact hchange h hmodify
  | cons key path ih =>
    unfold Entries.modify at hmodify
    split at hmodify
    next hnone =>
      obtain ⟨inner, hinner, hok⟩ := bind_eq_ok.1 hmodify
      obtain rfl := Except.ok.inj hok
      have hdistinct := ih areDistinct_nil hinner
      exact h.add hnone (.table hdistinct.keys hdistinct.nodes)
    next hsome =>
      split at hmodify
      · cases hmodify
      · obtain ⟨inner, hinner, hok⟩ := bind_eq_ok.1 hmodify
        obtain rfl := Except.ok.inj hok
        have hdistinct := ih (areDistinct_of_table (h.of_find? hsome)) hinner
        exact h.replace (.table hdistinct.keys hdistinct.nodes)
    next hsome =>
      split at hmodify
      · cases hmodify
      · obtain ⟨inner, hinner, hok⟩ := bind_eq_ok.1 hmodify
        obtain rfl := Except.ok.inj hok
        cases h.of_find? hsome with
        | tables hkeys hnodes =>
          obtain ⟨hkeys₁, hkeys₂⟩ := List.forall_mem_cons.1 hkeys
          obtain ⟨hnodes₁, hnodes₂⟩ := List.forall_mem_cons.1 hnodes
          have hdistinct := ih ⟨hkeys₁, hnodes₁⟩ hinner
          exact h.replace (.tables (List.forall_mem_cons.2 ⟨hdistinct.keys, hkeys₂⟩)
            (List.forall_mem_cons.2 ⟨hdistinct.nodes, hnodes₂⟩))
    next => cases hmodify

/-- Entries stay distinct when a value is added. -/
lemma AreDistinct.addValue (hv : v.HasDistinctKeys) (h : entries.AreDistinct)
    (hadd : entries.addValue key v = .ok entries') : entries'.AreDistinct := by
  rw [Entries.addValue] at hadd
  split at hadd
  next hnone =>
    obtain rfl := Except.ok.inj hadd
    exact h.add hnone (.value hv)
  next => cases hadd

/-- Entries stay distinct when a value is added under a dotted key. -/
lemma AreDistinct.addDotted (hv : v.HasDistinctKeys) (h : entries.AreDistinct)
    (hadd : entries.addDotted front key v = .ok entries') : entries'.AreDistinct := by
  rw [Entries.addDotted.eq_def] at hadd
  split at hadd
  next => exact h.addValue hv hadd
  next =>
    refine h.modify (fun hinner hchange => ?_) hadd
    split at hchange
    · exact hinner.addValue hv hchange
    · cases hchange

/-- Entries stay distinct when a table is opened. -/
lemma AreDistinct.openTable (h : entries.AreDistinct)
    (hopen : entries.openTable key = .ok entries') : entries'.AreDistinct := by
  rw [Entries.openTable] at hopen
  split at hopen
  next hnone =>
    obtain rfl := Except.ok.inj hopen
    exact h.add hnone (.table List.nodup_nil nofun)
  next hsome =>
    obtain rfl := Except.ok.inj hopen
    have hinner := areDistinct_of_table (h.of_find? hsome)
    exact h.replace (.table hinner.keys hinner.nodes)
  next => cases hopen

/-- Entries stay distinct when an element of an array of tables is opened. -/
lemma AreDistinct.openElement (h : entries.AreDistinct)
    (hopen : entries.openElement key = .ok entries') : entries'.AreDistinct := by
  rw [Entries.openElement] at hopen
  split at hopen
  next hnone =>
    obtain rfl := Except.ok.inj hopen
    refine h.add hnone (.tables ?_ ?_)
    · exact List.forall_mem_singleton.2 List.nodup_nil
    · exact List.forall_mem_singleton.2 nofun
  next hsome =>
    obtain rfl := Except.ok.inj hopen
    cases h.of_find? hsome with
    | tables hkeys hnodes =>
      exact h.replace (.tables (List.forall_mem_cons.2 ⟨List.nodup_nil, hkeys⟩)
        (List.forall_mem_cons.2 ⟨nofun, hnodes⟩))
  next => cases hopen

end Changes

end Entries

/-! ### Reading -/

section Reading

variable {d d' : Document} {cs rest word : List Char} {v : Value} {key : List String}
  {isElement : Bool} {fuel depth : Nat}

/-- Words stand for values without tables. -/
lemma hasDistinctKeys_ofWord (h : Value.ofWord word = .ok v) : v.HasDistinctKeys := by
  unfold Value.ofWord at h
  split at h
  · cases h; exact .boolean true
  split at h
  · cases h; exact .boolean false
  split at h
  · cases h; exact .integer _
  split at h
  · cases h; exact .float _
  split at h
  · cases h; exact .datetime _
  split at h <;> cases h

/-- With this much fuel, the values that are read have no key twice, and neither have the items of
arrays and the entries of inline tables. -/
structure ReadsDistinctKeys (fuel : Nat) : Prop where
  value : ∀ {depth : Nat} {cs rest : List Char} {v : Value},
    readValue fuel depth cs = .ok (v, rest) → v.HasDistinctKeys
  items : ∀ {depth : Nat} {cs rest : List Char} {items : List Value},
    readItems fuel depth cs = .ok (items, rest) → ∀ v ∈ items, v.HasDistinctKeys
  pairs : ∀ {depth : Nat} {entries entries' : Entries} {cs rest : List Char},
    entries.AreDistinct → readPairs fuel depth entries cs = .ok (entries', rest) →
      entries'.AreDistinct

/-- With one more unit of fuel, values have no key twice either. -/
lemma ReadsDistinctKeys.value_succ (h : ReadsDistinctKeys fuel)
    (hread : readValue (fuel + 1) depth cs = .ok (v, rest)) : v.HasDistinctKeys := by
  unfold readValue at hread
  split at hread
  next =>
    obtain ⟨⟨s, rest'⟩, -, hok⟩ := bind_eq_ok.1 hread
    cases hok
    exact .string _
  next =>
    split at hread
    next =>
      split at hread
      · cases hread
      · obtain ⟨⟨items, rest'⟩, hitems, hok⟩ := bind_eq_ok.1 hread
        cases hok
        exact .array (h.items hitems)
    next =>
      split at hread
      · cases hread
      · obtain ⟨⟨entries, rest'⟩, hpairs, hok⟩ := bind_eq_ok.1 hread
        cases hok
        exact (h.pairs Entries.areDistinct_nil hpairs).table_entryValues
    next =>
      obtain ⟨v', hv, hok⟩ := bind_eq_ok.1 hread
      cases hok
      exact hasDistinctKeys_ofWord hv

/-- With one more unit of fuel, items of arrays have no key twice either. -/
lemma ReadsDistinctKeys.items_succ (h : ReadsDistinctKeys fuel) {items : List Value}
    (hread : readItems (fuel + 1) depth cs = .ok (items, rest)) :
    ∀ v ∈ items, v.HasDistinctKeys := by
  unfold readItems at hread
  obtain ⟨cs₁, -, hread⟩ := bind_eq_ok.1 hread
  split at hread
  · cases hread
  · cases hread
    exact nofun
  · obtain ⟨⟨v, rest₁⟩, hv, hread⟩ := bind_eq_ok.1 hread
    obtain ⟨cs₂, -, hread⟩ := bind_eq_ok.1 hread
    have hdistinct := h.value hv
    split at hread
    · obtain ⟨⟨more, rest₂⟩, hmore, hok⟩ := bind_eq_ok.1 hread
      cases hok
      exact List.forall_mem_cons.2 ⟨hdistinct, h.items hmore⟩
    · cases hread
      exact List.forall_mem_singleton.2 hdistinct
    · cases hread

/-- With one more unit of fuel, inline tables have no key twice either. -/
lemma ReadsDistinctKeys.pairs_succ (h : ReadsDistinctKeys fuel) {entries entries' : Entries}
    (hentries : entries.AreDistinct)
    (hread : readPairs (fuel + 1) depth entries cs = .ok (entries', rest)) :
    entries'.AreDistinct := by
  unfold readPairs at hread
  obtain ⟨cs₁, -, hread⟩ := bind_eq_ok.1 hread
  split at hread
  · cases hread
  · cases hread
    exact hentries
  · obtain ⟨⟨key, rest₁⟩, -, hread⟩ := bind_eq_ok.1 hread
    dsimp only at hread
    split at hread
    · obtain ⟨⟨v, rest₂⟩, hv, hread⟩ := bind_eq_ok.1 hread
      obtain ⟨added, hadded, hread⟩ := bind_eq_ok.1 hread
      obtain ⟨cs₂, -, hread⟩ := bind_eq_ok.1 hread
      have hdistinct := hentries.addDotted (h.value hv) hadded
      split at hread
      · exact h.pairs hdistinct hread
      · cases hread
        exact hdistinct
      · cases hread
    · cases hread

/-- With any fuel, no value that is read has a key twice. -/
lemma readsDistinctKeys (fuel : Nat) : ReadsDistinctKeys fuel := by
  induction fuel with
  | zero =>
    constructor
    · intro depth cs rest v hread
      unfold readValue at hread
      cases hread
    · intro depth cs rest items hread
      unfold readItems at hread
      cases hread
    · intro depth entries entries' cs rest _ hread
      unfold readPairs at hread
      cases hread
  | succ fuel ih => exact ⟨ih.value_succ, ih.items_succ, ih.pairs_succ⟩

/-- The entries of a document stay distinct when a key is set. -/
lemma Document.areDistinct_setKey (hd : d.root.AreDistinct) (hv : v.HasDistinctKeys)
    (h : d.setKey key v = .ok d') : d'.root.AreDistinct := by
  obtain ⟨root, hroot, hok⟩ := bind_eq_ok.1 h
  cases hok
  exact hd.modify (fun hinner hchange => hinner.addDotted hv hchange) hroot

/-- The entries of a document stay distinct when the table of a header is opened. -/
lemma Document.areDistinct_openHeader (hd : d.root.AreDistinct)
    (h : d.openHeader isElement key = .ok d') : d'.root.AreDistinct := by
  obtain ⟨root, hroot, hok⟩ := bind_eq_ok.1 h
  cases hok
  refine hd.modify (fun hinner hchange => ?_) hroot
  split at hchange
  · exact hinner.openElement hchange
  · exact hinner.openTable hchange

/-- The entries of a document stay distinct when a header is read. -/
lemma Document.areDistinct_readHeader (hd : d.root.AreDistinct)
    (h : d.readHeader cs = .ok (d', rest)) : d'.root.AreDistinct := by
  unfold Document.readHeader at h
  split at h
  all_goals
    obtain ⟨⟨key, rest₁⟩, -, h⟩ := bind_eq_ok.1 h
    dsimp only at h
    split at h
    · obtain ⟨opened, hopened, h⟩ := bind_eq_ok.1 h
      obtain ⟨rest₂, -, hok⟩ := bind_eq_ok.1 h
      cases hok
      exact areDistinct_openHeader hd hopened
    · cases h

/-- The entries of a document stay distinct when a setting is read. -/
lemma Document.areDistinct_readSetting (hd : d.root.AreDistinct)
    (h : d.readSetting cs = .ok (d', rest)) : d'.root.AreDistinct := by
  unfold Document.readSetting at h
  obtain ⟨⟨key, rest₁⟩, -, h⟩ := bind_eq_ok.1 h
  dsimp only at h
  split at h
  · obtain ⟨⟨v, rest₂⟩, hv, h⟩ := bind_eq_ok.1 h
    obtain ⟨set, hset, h⟩ := bind_eq_ok.1 h
    obtain ⟨rest₃, -, hok⟩ := bind_eq_ok.1 h
    cases hok
    exact areDistinct_setKey hd ((readsDistinctKeys _).value hv) hset
  · cases h

/-- No line sets a key that is there. -/
lemma Document.areDistinct_step (hd : d.root.AreDistinct) (h : d.step cs = .ok (d', rest)) :
    d'.root.AreDistinct := by
  unfold Document.step at h
  split at h
  next =>
    cases h
    exact hd
  next => exact areDistinct_readHeader hd h
  next =>
    split at h
    · obtain ⟨rest₁, -, hok⟩ := bind_eq_ok.1 h
      cases hok
      exact hd
    · exact areDistinct_readSetting hd h

/-- The entries of a document stay distinct to its end. -/
lemma Document.areDistinct_loop (hd : d.root.AreDistinct)
    (h : d.loop fuel cs = .ok d') : d'.root.AreDistinct := by
  induction fuel generalizing d cs with
  | zero =>
    cases h
    exact hd
  | succ fuel ih =>
    cases cs with
    | nil =>
      cases h
      exact hd
    | cons c rest =>
      obtain ⟨⟨next, rest'⟩, hstep, hrest⟩ := bind_eq_ok.1 h
      exact ih (areDistinct_step hd hstep) hrest

/-- No table of a document that has been read has a key twice. -/
lemma hasDistinctKeys_of_read {text : String} {entries : List (String × Value)}
    (h : read text = .ok entries) : (Value.table entries).HasDistinctKeys := by
  obtain ⟨d, hloop, hok⟩ := bind_eq_ok.1 h
  cases hok
  have hstart : Document.start.root.AreDistinct := Entries.areDistinct_nil
  exact (Document.areDistinct_loop hstart hloop).table_entryValues

end Reading

end TapTracker.Toml
