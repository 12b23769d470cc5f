import TapTracker.CommandLine.Parser
import TapTracker.Proofs.Lookup
import TapTracker.Proofs.Success

/-!
# Written options

A `Binding` is an option with what it is set to.  `Writes scope given words` says that words write
bindings in a place of a command line, apart from how words are read: with a long name or a short
one, the value in a word of its own, after an equals sign or right after the letter, and switches in
one word with what follows them.  In a place no option stands twice, and every value fits its
option (`AreWellFormed`).

`Place.Reads scope p words p'` is the reading of words as options, the same before and after the
name of a command (`Place.Reads.readFront_append`, `Place.Reads.readWithin_append`).  A place is
left with its last option pending, so that what has been read shows in `Place.settle` only: words
that write well-formed bindings are read, and the place that they leave settles to all of them
(`Writes.reads`).
-/

namespace TapTracker

/-! ### Bindings -/

/-- An option with what it is set to. -/
inductive Binding
  | value (o : ValueOption) (s : String)
  | switch (s : Switch)
deriving DecidableEq, Repr

namespace Binding

/-- The option that is set. -/
def option : Binding → OptionName
  | value o _ => .value o
  | switch s => .switch s

/-- The value is one that the option can have: paths are not empty, and a time limit is a number of
seconds. -/
def Fits : Binding → Prop
  | value .config s => s ≠ ""
  | value .output s => s ≠ ""
  | value .installTimeout s => ∃ n, readSeconds s = some n
  | _ => True

/-- The value of an option, if the binding sets it. -/
def valueOf? (o : ValueOption) : Binding → Option String
  | value o' s => if o = o' then some s else none
  | switch _ => none

end Binding

/-- The bindings can stand in one place: no option is set twice, and every value fits. -/
structure AreWellFormed (given : List Binding) : Prop where
  once : (given.map Binding.option).Nodup
  fits : ∀ b ∈ given, b.Fits

/-- What a list of bindings sets. -/
def Bindings.ofList (given : List Binding) : Bindings where
  value? o := given.findSome? (Binding.valueOf? o)
  isOn s := decide (.switch s ∈ given)

/-! ### Words -/

/-- The word is not taken for an option: it is a single hyphen or does not begin with one. -/
def IsPlain (word : String) : Prop :=
  word = "-" ∨ word.toList.head? ≠ some '-'

/-- Letters after a hyphen write bindings, together with the words after them: switches, and at the
end perhaps an option with its value. -/
inductive WritesCluster (scope : Scope) : List Binding → List Char → List String → Prop
  | nil : WritesCluster scope [] [] []
  | switch {c : Char} {s : Switch} (hname : (c, .switch s) ∈ shortSpellings)
      (hadmits : scope.admits (.switch s)) {given : List Binding} {letters : List Char}
      {after : List String} (hrest : WritesCluster scope given letters after) :
      WritesCluster scope (.switch s :: given) (c :: letters) after
  | apart {c : Char} {o : ValueOption} (hname : (c, .value o) ∈ shortSpellings)
      (hadmits : scope.admits (.value o)) {s : String} (hplain : IsPlain s) :
      WritesCluster scope [.value o s] [c] [s]
  | equals {c : Char} {o : ValueOption} (hname : (c, .value o) ∈ shortSpellings)
      (hadmits : scope.admits (.value o)) (s : String) :
      WritesCluster scope [.value o s] (c :: '=' :: s.toList) []
  | attached {c : Char} {o : ValueOption} (hname : (c, .value o) ∈ shortSpellings)
      (hadmits : scope.admits (.value o)) {d : Char} {s : List Char} (hne : d ≠ '=') :
      WritesCluster scope [.value o (String.ofList (d :: s))] (c :: d :: s) []

/-- A word with a hyphen, and perhaps the word after it, write bindings. -/
inductive WritesOnce (scope : Scope) : List Binding → List String → Prop
  | switch {name : String} {s : Switch} (hname : (name, .switch s) ∈ longSpellings)
      (hadmits : scope.admits (.switch s)) : WritesOnce scope [.switch s] ["--" ++ name]
  | apart {name : String} {o : ValueOption} (hname : (name, .value o) ∈ longSpellings)
      (hadmits : scope.admits (.value o)) {s : String} (hplain : IsPlain s) :
      WritesOnce scope [.value o s] ["--" ++ name, s]
  | equals {name : String} {o : ValueOption} (hname : (name, .value o) ∈ longSpellings)
      (hadmits : scope.admits (.value o)) (s : String) :
      WritesOnce scope [.value o s] ["--" ++ name ++ "=" ++ s]
  | cluster {given : List Binding} {c : Char} {letters : List Char} {after : List String}
      (h : WritesCluster scope given (c :: letters) after) :
      WritesOnce scope given (String.ofList ('-' :: c :: letters) :: after)

/-- Words write bindings in a place. -/
inductive Writes (scope : Scope) : List Binding → List String → Prop
  | nil : Writes scope [] []
  | append {given more : List Binding} {words rest : List String}
      (h : WritesOnce scope given words) (hrest : Writes scope more rest) :
      Writes scope (given ++ more) (words ++ rest)

/-! ### Reading options -/

/-- The words are read as options, which makes one place another. -/
inductive Place.Reads (scope : Scope) : Place → List String → Place → Prop
  | nil (p : Place) : Reads scope p [] p
  | long {p p₁ p' : Place} {word name : String} {attached : Option String} {words : List String}
      (htoken : Token.ofWord word = .long name attached)
      (hread : p.readLong scope name attached = .ok p₁) (hrest : Reads scope p₁ words p') :
      Reads scope p (word :: words) p'
  | cluster {p p₁ p' : Place} {word : String} {letters : List Char} {words : List String}
      (htoken : Token.ofWord word = .cluster letters)
      (hread : p.readCluster scope letters = .ok p₁) (hrest : Reads scope p₁ words p') :
      Reads scope p (word :: words) p'
  | value {p p' : Place} {word : String} {words : List String}
      (htoken : Token.ofWord word = .plain word) (hawaits : p.awaitsValue)
      (hrest : Reads scope (p.supply word) words p') : Reads scope p (word :: words) p'

section Reading

variable {scope : Scope} {p p₁ p' : Place} {name : CommandName} {words rest : List String}

/-- Options before the name of the command are read, and then the rest. -/
lemma Place.Reads.readFront_append (h : Place.Reads .front p words p') :
    readFront p (words ++ rest) = readFront p' rest := by
  induction h with
  | nil => rfl
  | long htoken hread _ ih =>
    rw [List.cons_append, readFront.eq_def]
    dsimp only
    rw [htoken]
    dsimp only
    rw [hread]
    exact ih
  | cluster htoken hread _ ih =>
    rw [List.cons_append, readFront.eq_def]
    dsimp only
    rw [htoken]
    dsimp only
    rw [hread]
    exact ih
  | value htoken hawaits _ ih =>
    rw [List.cons_append, readFront.eq_def]
    dsimp only
    rw [htoken]
    dsimp only
    rw [if_pos hawaits]
    exact ih

/-- Options after the name of the command are read, and then the rest. -/
lemma Place.Reads.readWithin_append (h : Place.Reads (.within name) p words p') :
    readWithin name p (words ++ rest) = readWithin name p' rest := by
  induction h with
  | nil => rfl
  | long htoken hread _ ih =>
    rw [List.cons_append, readWithin, htoken]
    dsimp only
    rw [hread]
    exact ih
  | cluster htoken hread _ ih =>
    rw [List.cons_append, readWithin, htoken]
    dsimp only
    rw [hread]
    exact ih
  | value htoken hawaits _ ih =>
    rw [List.cons_append, readWithin, htoken]
    dsimp only
    rw [if_pos hawaits]
    exact ih

/-- Words are read one part after the other. -/
lemma Place.Reads.append (h : Place.Reads scope p words p₁) (h' : Place.Reads scope p₁ rest p') :
    Place.Reads scope p (words ++ rest) p' := by
  induction h with
  | nil => exact h'
  | long htoken hread _ ih => exact .long htoken hread (ih h')
  | cluster htoken hread _ ih => exact .cluster htoken hread (ih h')
  | value htoken hawaits _ ih => exact .value htoken hawaits (ih h')

end Reading

/-! ### Names and forms of words -/

section Forms

variable {scope : Scope} {spelling word : String} {c : Char} {o : OptionName}

/-- A long name of an option that may stand in a place is found there. -/
lemma Scope.long?_of_mem (hname : (spelling, o) ∈ longSpellings) (hadmits : scope.admits o) :
    scope.long? spelling = some o := by
  have hdistinct : (longSpellings.map Prod.fst).Nodup := by decide
  rw [Scope.long?, (find?_key_eq_some_iff hdistinct).2 ⟨hname, rfl⟩]
  exact Option.filter_some_pos hadmits

/-- A short name of an option that may stand in a place is found there. -/
lemma Scope.short?_of_mem (hname : (c, o) ∈ shortSpellings) (hadmits : scope.admits o) :
    scope.short? c = some o := by
  have hdistinct : (shortSpellings.map Prod.fst).Nodup := by decide
  rw [Scope.short?, (find?_key_eq_some_iff hdistinct).2 ⟨hname, rfl⟩]
  exact Option.filter_some_pos hadmits

/-- A word that is not taken for an option is a plain word. -/
lemma IsPlain.ofWord (h : IsPlain word) : Token.ofWord word = .plain word := by
  rcases h with rfl | hhead
  · rfl
  · unfold Token.ofWord
    split <;> simp_all

/-- No character of a text without an equals sign is an equals sign. -/
lemma forall_ne_equals {cs : List Char} (h : '=' ∉ cs) : ∀ c ∈ cs, decide (c ≠ '=') = true := by
  intro c hc
  rw [decide_eq_true_iff]
  rintro rfl
  exact h hc

/-- The text before the first equals sign is cut off together with what follows the sign. -/
lemma splitAtEquals_append {cs rest : List Char} (h : '=' ∉ cs) :
    splitAtEquals (cs ++ '=' :: rest) = (cs, some rest) := by
  unfold splitAtEquals
  rw [List.dropWhile_append_of_pos (forall_ne_equals h),
    List.takeWhile_append_of_pos (forall_ne_equals h)]
  simp

/-- A text without an equals sign is a name without a value. -/
lemma splitAtEquals_self {cs : List Char} (h : '=' ∉ cs) : splitAtEquals cs = (cs, none) := by
  have hdrop : cs.dropWhile (· ≠ '=') = [] := by
    rw [← List.append_nil cs, List.dropWhile_append_of_pos (forall_ne_equals h)]
    rfl
  rw [splitAtEquals, hdrop]

/-- Long names are not empty and hold no equals sign. -/
lemma long_of_mem (hname : (spelling, o) ∈ longSpellings) :
    ∃ d ds, spelling.toList = d :: ds ∧ '=' ∉ d :: ds := by
  have hall : ∀ entry ∈ longSpellings, entry.1.toList ≠ [] ∧ '=' ∉ entry.1.toList := by decide
  obtain ⟨hne, hequals⟩ := hall _ hname
  obtain ⟨d, ds, hcons⟩ := List.exists_cons_of_ne_nil hne
  rw [hcons] at hequals
  exact ⟨d, ds, hcons, hequals⟩

/-- More than two hyphens begin a long name, and perhaps a value after it. -/
lemma ofWord_of_hyphens {d : Char} {ds : List Char} (hword : word.toList = '-' :: '-' :: d :: ds) :
    Token.ofWord word = .long (String.ofList (splitAtEquals (d :: ds)).1)
      ((splitAtEquals (d :: ds)).2.map String.ofList) := by
  unfold Token.ofWord
  rw [hword]
  rfl

/-- Two hyphens and a long name are an option without a value. -/
lemma ofWord_long (hname : (spelling, o) ∈ longSpellings) :
    Token.ofWord ("--" ++ spelling) = .long spelling none := by
  obtain ⟨d, ds, hcons, hequals⟩ := long_of_mem hname
  have hword : ("--" ++ spelling).toList = '-' :: '-' :: d :: ds := by
    rw [String.toList_append, hcons]
    rfl
  rw [ofWord_of_hyphens hword, splitAtEquals_self hequals, ← hcons, String.ofList_toList]
  rfl

/-- Two hyphens, a long name, an equals sign and a text are an option with a value. -/
lemma ofWord_long_equals (hname : (spelling, o) ∈ longSpellings) (s : String) :
    Token.ofWord ("--" ++ spelling ++ "=" ++ s) = .long spelling (some s) := by
  obtain ⟨d, ds, hcons, hequals⟩ := long_of_mem hname
  have hword : ("--" ++ spelling ++ "=" ++ s).toList =
      '-' :: '-' :: d :: (ds ++ '=' :: s.toList) := by
    simp [hcons]
  rw [ofWord_of_hyphens hword, ← List.cons_append, splitAtEquals_append hequals, ← hcons,
    String.ofList_toList, Option.map_some, String.ofList_toList]

/-- Letters after one hyphen, the first of which is not a hyphen, are a cluster. -/
lemma ofWord_cluster {letters : List Char} (hc : c ≠ '-') :
    Token.ofWord (String.ofList ('-' :: c :: letters)) = .cluster (c :: letters) := by
  unfold Token.ofWord
  rw [String.toList_ofList]
  split <;> simp_all

end Forms

/-! ### Reading what is written -/

section Written

variable {scope : Scope} {p : Place} {b : Binding} {given done : List Binding}
  {words after : List String} {letters : List Char} {o : ValueOption} {s : String} {sw : Switch}

/-- A value that fits passes the check of its option. -/
lemma Binding.Fits.check (h : (Binding.value o s).Fits) : o.check s = .ok () := by
  cases o with
  | config | output =>
    have hempty : ¬ s.isEmpty = true := by
      rw [String.isEmpty_iff]
      exact h
    exact if_neg hempty
  | installTimeout =>
    obtain ⟨n, hn⟩ := h
    exact if_pos (Option.isSome_of_eq_some hn)
  | adapterClass | productAlias | signature => rfl

/-- The beginning of well-formed bindings is well-formed. -/
lemma AreWellFormed.of_append (h : AreWellFormed (done ++ given)) : AreWellFormed done where
  once := by
    have honce := h.once
    rw [List.map_append] at honce
    exact honce.of_append_left
  fits b hb := h.fits b (List.mem_append_left given hb)

/-- The option of the last of well-formed bindings has not been set before it. -/
lemma AreWellFormed.notMem (h : AreWellFormed (done ++ [b])) :
    b.option ∉ done.map Binding.option := by
  have honce := h.once
  rw [List.map_append, List.nodup_append] at honce
  exact fun hmem => honce.2.2 _ hmem _ (List.mem_singleton_self _) rfl

/-- An option has no value that has not been set. -/
lemma Bindings.value?_ofList_eq_none (hnew : OptionName.value o ∉ done.map Binding.option) :
    (Bindings.ofList done).value? o = .none := by
  refine List.findSome?_eq_none_iff.2 fun b hb => ?_
  cases b with
  | value o' s =>
    refine if_neg ?_
    rintro rfl
    exact hnew (List.mem_map_of_mem hb)
  | switch sw => rfl

/-- A switch is off that has not been turned on. -/
lemma Bindings.isOn_ofList_eq_false (hnew : OptionName.switch sw ∉ done.map Binding.option) :
    (Bindings.ofList done).isOn sw = false :=
  decide_eq_false fun hmem => hnew (List.mem_map_of_mem hmem)

/-- A value is set after well-formed bindings. -/
lemma Bindings.setValue_ofList (h : AreWellFormed (done ++ [.value o s])) :
    (Bindings.ofList done).setValue o s = .ok (.ofList (done ++ [.value o s])) := by
  have hnone := Bindings.value?_ofList_eq_none h.notMem
  have hset : ¬ ((Bindings.ofList done).value? o).isSome = true := by
    rw [hnone]
    exact Bool.false_ne_true
  have hfits := h.fits _ (List.mem_append_right done (List.mem_singleton_self _))
  rw [Bindings.setValue, if_neg hset]
  refine bind_eq_ok.2 ⟨(), hfits.check, congrArg Except.ok ?_⟩
  refine (Bindings.mk.injEq ..).mpr ⟨funext fun o' => ?_, funext fun sw => ?_⟩
  · rw [List.findSome?_append, List.findSome?_singleton]
    by_cases ho : o' = o
    · rw [if_pos ho, ho, show done.findSome? (Binding.valueOf? o) = .none from hnone]
      exact (if_pos rfl).symm
    · rw [if_neg ho, show Binding.valueOf? o' (.value o s) = .none from if_neg ho]
      exact (Option.or_none ..).symm
  · simp [Bindings.ofList]

/-- A switch is turned on after well-formed bindings. -/
lemma Bindings.turnOn_ofList (h : AreWellFormed (done ++ [.switch sw])) :
    (Bindings.ofList done).turnOn sw = .ok (.ofList (done ++ [.switch sw])) := by
  have hoff : ¬ (Bindings.ofList done).isOn sw = true := by
    rw [Bindings.isOn_ofList_eq_false h.notMem]
    exact Bool.false_ne_true
  rw [Bindings.turnOn, if_neg hoff]
  refine congrArg Except.ok ((Bindings.mk.injEq ..).mpr ⟨funext fun o => ?_, funext fun sw' => ?_⟩)
  · rw [List.findSome?_append]
    exact (Option.or_none ..).symm
  · by_cases hsw : sw' = sw <;> simp [hsw, Bindings.ofList]

/-- The place has been read up to some bindings. -/
def Place.Holds (p : Place) (done : List Binding) : Prop :=
  p.settle = .ok (.ofList done)

/-- An option met in a place waits for its value, which a plain word supplies. -/
lemma Place.Holds.meet_value (hp : p.Holds done) (h : AreWellFormed (done ++ [.value o s]))
    (hplain : IsPlain s) :
    ∃ p₁ p', p.meet (.value o) = .ok p₁ ∧ Place.Reads scope p₁ [s] p' ∧
      p'.Holds (done ++ [.value o s]) := by
  refine ⟨⟨.ofList done, some ⟨o, none⟩⟩, ⟨.ofList done, some ⟨o, some s⟩⟩, ?_, ?_, ?_⟩
  · exact bind_eq_ok.2 ⟨_, hp, rfl⟩
  · exact .value hplain.ofWord rfl (.nil _)
  · exact Bindings.setValue_ofList h

/-- An option met together with its value is bound at once. -/
lemma Place.Holds.meetAttached (hp : p.Holds done) (h : AreWellFormed (done ++ [.value o s])) :
    ∃ p', p.meetAttached o s = .ok p' ∧ p'.Holds (done ++ [.value o s]) := by
  refine ⟨⟨.ofList (done ++ [.value o s]), none⟩, ?_, ?_⟩
  · exact bind_eq_ok.2 ⟨_, hp, bind_eq_ok.2 ⟨_, Bindings.setValue_ofList h, rfl⟩⟩
  · rfl

/-- A switch met in a place is turned on. -/
lemma Place.Holds.meet_switch (hp : p.Holds done) (h : AreWellFormed (done ++ [.switch sw])) :
    ∃ p', p.meet (.switch sw) = .ok p' ∧ p'.Holds (done ++ [.switch sw]) := by
  refine ⟨⟨.ofList (done ++ [.switch sw]), none⟩, ?_, ?_⟩
  · exact bind_eq_ok.2 ⟨_, hp, bind_eq_ok.2 ⟨_, Bindings.turnOn_ofList h, rfl⟩⟩
  · rfl

/-- Without an equals sign the value of a letter begins right after it. -/
lemma Place.readCluster_of_ne {c d : Char} {ds : List Char}
    (hshort : scope.short? c = some (.value o)) (hne : d ≠ '=') :
    p.readCluster scope (c :: d :: ds) = p.meetAttached o (String.ofList (d :: ds)) := by
  rw [Place.readCluster, hshort]
  dsimp only
  split
  next => contradiction
  next heq => exact absurd (List.cons.inj heq).1 hne
  next => rfl

/-- The letters of a cluster are read, and then the words after it. -/
lemma WritesCluster.reads (h : WritesCluster scope given letters after) (hp : p.Holds done)
    (hformed : AreWellFormed (done ++ given)) :
    ∃ p₁ p', p.readCluster scope letters = .ok p₁ ∧ Place.Reads scope p₁ after p' ∧
      p'.Holds (done ++ given) := by
  induction h generalizing p done with
  | nil =>
    rw [List.append_nil]
    exact ⟨p, p, rfl, .nil p, hp⟩
  | @switch c sw hname hadmits given letters after _ ih =>
    rw [List.append_cons] at hformed ⊢
    obtain ⟨p₁, hmeet, hp₁⟩ := hp.meet_switch hformed.of_append
    obtain ⟨p₂, p', hread, hreads, hp'⟩ := ih hp₁ hformed
    refine ⟨p₂, p', ?_, hreads, hp'⟩
    rw [Place.readCluster, Scope.short?_of_mem hname hadmits]
    exact bind_eq_ok.2 ⟨p₁, hmeet, hread⟩
  | apart hname hadmits hplain =>
    -- The cluster leaves the option pending, and the word after it supplies the value.
    obtain ⟨p₁, p', hmeet, hreads, hp'⟩ := hp.meet_value hformed hplain
    refine ⟨p₁, p', ?_, hreads, hp'⟩
    rw [Place.readCluster, Scope.short?_of_mem hname hadmits]
    exact hmeet
  | equals hname hadmits s =>
    obtain ⟨p', hmeet, hp'⟩ := hp.meetAttached hformed
    refine ⟨p', p', ?_, .nil p', hp'⟩
    rw [Place.readCluster, Scope.short?_of_mem hname hadmits]
    rw [← @String.ofList_toList s] at hmeet
    exact hmeet
  | attached hname hadmits hne =>
    obtain ⟨p', hmeet, hp'⟩ := hp.meetAttached hformed
    refine ⟨p', p', ?_, .nil p', hp'⟩
    rw [Place.readCluster_of_ne (Scope.short?_of_mem hname hadmits) hne]
    exact hmeet

/-- No cluster begins with a hyphen. -/
lemma WritesCluster.ne_hyphen {c : Char} (h : WritesCluster scope given (c :: letters) after) :
    c ≠ '-' := by
  have hall : ∀ entry ∈ shortSpellings, entry.1 ≠ '-' := by decide
  cases h with
  | switch hname | apart hname | equals hname | attached hname => exact hall _ hname

/-- A word with the value after it is read. -/
lemma WritesOnce.reads (h : WritesOnce scope given words) (hp : p.Holds done)
    (hformed : AreWellFormed (done ++ given)) :
    ∃ p', Place.Reads scope p words p' ∧ p'.Holds (done ++ given) := by
  cases h with
  | switch hname hadmits =>
    obtain ⟨p', hmeet, hp'⟩ := hp.meet_switch hformed
    refine ⟨p', .long (ofWord_long hname) ?_ (.nil p'), hp'⟩
    unfold Place.readLong
    rw [Scope.long?_of_mem hname hadmits]
    exact hmeet
  | apart hname hadmits hplain =>
    obtain ⟨p₁, p', hmeet, hreads, hp'⟩ := hp.meet_value hformed hplain
    refine ⟨p', .long (ofWord_long hname) ?_ hreads, hp'⟩
    unfold Place.readLong
    rw [Scope.long?_of_mem hname hadmits]
    exact hmeet
  | equals hname hadmits s =>
    obtain ⟨p', hmeet, hp'⟩ := hp.meetAttached hformed
    refine ⟨p', .long (ofWord_long_equals hname s) ?_ (.nil p'), hp'⟩
    unfold Place.readLong
    rw [Scope.long?_of_mem hname hadmits]
    exact hmeet
  | cluster hcluster =>
    obtain ⟨p₁, p', hread, hreads, hp'⟩ := hcluster.reads hp hformed
    exact ⟨p', .cluster (ofWord_cluster hcluster.ne_hyphen) hread hreads, hp'⟩

/-- Words that write well-formed bindings are read, and the place holds all of them after. -/
lemma Writes.reads (h : Writes scope given words) (hp : p.Holds done)
    (hformed : AreWellFormed (done ++ given)) :
    ∃ p', Place.Reads scope p words p' ∧ p'.Holds (done ++ given) := by
  induction h generalizing p done with
  | nil =>
    rw [List.append_nil]
    exact ⟨p, .nil p, hp⟩
  | append honce _ ih =>
    rw [← List.append_assoc] at hformed ⊢
    obtain ⟨p₁, hreads, hp₁⟩ := honce.reads hp hformed.of_append
    obtain ⟨p', hreads', hp'⟩ := ih hp₁ hformed
    exact ⟨p', hreads.append hreads', hp'⟩

/-- Words that write well-formed bindings are read from the start of a place. -/
lemma Writes.reads_start (h : Writes scope given words) (hformed : AreWellFormed given) :
    ∃ p', Place.Reads scope .start words p' ∧ p'.Holds given := by
  have hstart : Place.start.Holds [] := rfl
  exact h.reads hstart hformed

end Written

/-! ### The whole line -/

/-- The word that names a command. -/
def CommandName.word : CommandName → String
  | init => "init"
  | list => "list"
  | baseline => "baseline"
  | install => "install"
  | remove => "remove"

section Line

variable {p : Place} {given front : List Binding} {before rest : List String}

/-- The word of a command is not taken for an option. -/
lemma CommandName.isPlain_word (name : CommandName) : IsPlain name.word := by
  refine Or.inr ?_
  cases name <;> decide

/-- No command goes by the word that asks for help. -/
lemma CommandName.word_ne_helpWord (name : CommandName) : name.word ≠ helpWord := by
  cases name <;> decide

/-- A command is known by its word. -/
lemma CommandName.ofWord?_word (name : CommandName) : ofWord? name.word = some name := by
  cases name <;> rfl

/-- A place that holds bindings waits for nothing. -/
lemma Place.Holds.awaitsValue (hp : p.Holds given) : p.awaitsValue = false := by
  rw [Place.Holds, Place.settle] at hp
  unfold Place.awaitsValue
  split at hp
  next hpending => rw [hpending]; rfl
  next => cases hp
  next hpending => rw [hpending]; rfl

/-- A line with the name of a command after well-formed options means what the words after the name
say, together with these options. -/
lemma ofWords_append_word (name : CommandName) (hbefore : Writes .front front before)
    (hfront : AreWellFormed front) :
    CommandLine.ofWords (before ++ name.word :: rest) =
      (readWithin name .start rest).map fun t => t.toCommandLine name (.ofList front) := by
  obtain ⟨p, hreads, hp⟩ := hbefore.reads_start hfront
  rw [CommandLine.ofWords, hreads.readFront_append, readFront.eq_def]
  dsimp only
  rw [name.isPlain_word.ofWord]
  dsimp only
  rw [hp.awaitsValue, if_neg Bool.false_ne_true, if_neg name.word_ne_helpWord, name.ofWord?_word]
  dsimp only
  rw [show p.settle = _ from hp]
  cases readWithin name .start rest <;> rfl

end Line

end TapTracker
