import TapTracker.Proofs.CommandLine.InstallerWords

/-!
# Options in any place and order

Which options are shared by the commands is said by `sharedOptions`, and which belong to one of them
by `CommandName.ownOptions`.  A line that names a command is read place by place, and the two places
are put together at the end.  Where no option stands in both of them, the result is that of one list
of bindings (`Bindings.value?_ofList_append`), and the order of the list makes no difference
(`Bindings.value?_ofList_of_perm`, `Bindings.isOn_ofList_of_perm`).  The options of the command
alone cannot stand before its name (`Writes.admits`), so that they are found after it.

Hence every writing of well-formed bindings means the same, `CommandLine.ofGiven`.  There are such
writings for each way of placing them: every option that may stand in a place can be written there
with its long name (`exists_writes`).
-/

namespace TapTracker

/-! ### Options and what they come to -/

/-- The options of all commands, which may stand before and after the name. -/
def sharedOptions : List OptionName :=
  [.value .adapterClass, .value .productAlias, .value .signature, .value .config,
    .switch .verbose]

/-- The options of one command, which stand after its name. -/
def CommandName.ownOptions : CommandName → List OptionName
  | init => [.value .output]
  | list => [.switch .json]
  | baseline => []
  | install => [.value .installTimeout, .switch .noRename]
  | remove => []

/-- The words at the end of a line: a separator and an installer for an installation, and for the
other commands nothing, or a separator with nothing after it. -/
inductive Ends : CommandName → List String → (installer : List String) → Prop
  | install {installer : List String} (hne : installer ≠ []) :
      Ends .install ("--" :: installer) installer
  | nothing {name : CommandName} (hname : name ≠ .install) : Ends name [] []
  | separator {name : CommandName} (hname : name ≠ .install) : Ends name ["--"] []

/-- The command with settings and the words of an installer. -/
def CommandName.command (name : CommandName) (given : List Binding) (installer : List String) :
    Command :=
  match name with
  | init => .init (((Bindings.ofList given).value? .output).getD "driverlogic.toml")
  | list => .list ((Bindings.ofList given).isOn .json)
  | baseline => .baseline
  | install =>
    .install (((Bindings.ofList given).value? .installTimeout).bind readSeconds)
      ((Bindings.ofList given).isOn .noRename) installer
  | remove => .remove

/-- The command line with settings and the words of an installer. -/
def CommandLine.ofGiven (name : CommandName) (given : List Binding) (installer : List String) :
    CommandLine where
  command := name.command given installer
  adapterClass := (Bindings.ofList given).value? .adapterClass
  productAlias := (Bindings.ofList given).value? .productAlias
  signature := (Bindings.ofList given).value? .signature
  config := (Bindings.ofList given).value? .config
  verbose := (Bindings.ofList given).isOn .verbose

/-! ### Order and place -/

section Order

variable {scope : Scope} {p : Place} {name : CommandName} {given given' front within : List Binding}
  {words ending installer : List String} {o : ValueOption} {s : String} {sw : Switch}

/-- With each option once, the value of an option is the one that is given for it. -/
lemma Bindings.value?_ofList_eq_some_iff (honce : (given.map Binding.option).Nodup) :
    (Bindings.ofList given).value? o = some s ↔ .value o s ∈ given := by
  constructor
  · intro h
    obtain ⟨b, hb, hvalue⟩ := List.exists_of_findSome?_eq_some h
    cases b with
    | value o' s' =>
      rw [Binding.valueOf?] at hvalue
      split at hvalue
      next ho =>
        rw [ho, ← Option.some.inj hvalue]
        exact hb
      next => cases hvalue
    | switch sw => cases hvalue
  · intro hmem
    obtain ⟨earlier, later, rfl⟩ := List.append_of_mem hmem
    rw [List.map_append, List.map_cons, List.nodup_append] at honce
    have hnew : OptionName.value o ∉ earlier.map Binding.option := fun h =>
      honce.2.2 _ h _ List.mem_cons_self rfl
    have hnone : earlier.findSome? (Binding.valueOf? o) = .none :=
      Bindings.value?_ofList_eq_none hnew
    show (earlier ++ .value o s :: later).findSome? (Binding.valueOf? o) = some s
    rw [List.findSome?_append, hnone, Option.none_or, List.findSome?_cons, Binding.valueOf?,
      if_pos rfl]

/-- With each option once, the order of bindings makes no difference to values. -/
lemma Bindings.value?_ofList_of_perm (hperm : given.Perm given')
    (honce : (given.map Binding.option).Nodup) :
    (Bindings.ofList given).value? o = (Bindings.ofList given').value? o := by
  have honce' : (given'.map Binding.option).Nodup := (hperm.map _).nodup_iff.1 honce
  refine Option.ext fun s => ?_
  rw [value?_ofList_eq_some_iff honce, value?_ofList_eq_some_iff honce', hperm.mem_iff]

/-- The order of bindings makes no difference to switches. -/
lemma Bindings.isOn_ofList_of_perm (hperm : given.Perm given') :
    (Bindings.ofList given).isOn sw = (Bindings.ofList given').isOn sw := by
  have hmem : .switch sw ∈ given ↔ .switch sw ∈ given' := hperm.mem_iff
  exact decide_eq_decide.2 hmem

/-- A value that is set in one of two places is the one of both together. -/
lemma Bindings.value?_ofList_append (honce : ((front ++ within).map Binding.option).Nodup) :
    ((Bindings.ofList within).value? o).or ((Bindings.ofList front).value? o) =
      (Bindings.ofList (front ++ within)).value? o := by
  have happend : (Bindings.ofList (front ++ within)).value? o =
      ((Bindings.ofList front).value? o).or ((Bindings.ofList within).value? o) :=
    List.findSome?_append
  rw [happend]
  cases hwithin : (Bindings.ofList within).value? o with
  | none => exact (Option.or_none ..).symm
  | some s =>
    have hmem : .value o s ∈ within := by
      rw [List.map_append] at honce
      exact (value?_ofList_eq_some_iff honce.of_append_right).1 hwithin
    have hnew : OptionName.value o ∉ front.map Binding.option := by
      rw [List.map_append, List.nodup_append] at honce
      exact fun h => honce.2.2 _ h _ (List.mem_map_of_mem hmem) rfl
    rw [value?_ofList_eq_none hnew]
    rfl

/-- A switch is on if it is turned on in one of two places. -/
lemma Bindings.isOn_ofList_append :
    (Bindings.ofList (front ++ within)).isOn sw =
      ((Bindings.ofList front).isOn sw || (Bindings.ofList within).isOn sw) := by
  simp [Bindings.ofList]

/-- Nothing is set for an option that cannot stand in the place. -/
lemma Bindings.value?_ofList_of_not_admits (hadmits : ∀ b ∈ front, scope.admits b.option)
    (ho : scope.admits (.value o) = false) : (Bindings.ofList front).value? o = .none := by
  refine value?_ofList_eq_none fun hmem => ?_
  obtain ⟨b, hb, hoption⟩ := List.mem_map.1 hmem
  have hstands := hadmits b hb
  rw [hoption, ho] at hstands
  cases hstands

/-- A switch that may not stand in a place is not turned on by what is written there. -/
lemma Bindings.isOn_ofList_of_not_admits (hadmits : ∀ b ∈ front, scope.admits b.option)
    (hsw : scope.admits (.switch sw) = false) : (Bindings.ofList front).isOn sw = false := by
  refine isOn_ofList_eq_false fun hmem => ?_
  obtain ⟨b, hb, hoption⟩ := List.mem_map.1 hmem
  have hstands := hadmits b hb
  rw [hoption, hsw] at hstands
  cases hstands

/-! ### Writing in a place -/

/-- What is written in a cluster are options that may stand in its place. -/
lemma WritesCluster.admits {letters : List Char} (h : WritesCluster scope given letters words) :
    ∀ b ∈ given, scope.admits b.option := by
  induction h with
  | nil => exact nofun
  | switch _ hadmits _ ih => exact List.forall_mem_cons.2 ⟨hadmits, ih⟩
  | apart _ hadmits | equals _ hadmits | attached _ hadmits =>
    exact List.forall_mem_singleton.2 hadmits

/-- What is written in a place are options that may stand there. -/
lemma Writes.admits (h : Writes scope given words) : ∀ b ∈ given, scope.admits b.option := by
  induction h with
  | nil => exact nofun
  | append honce _ ih =>
    refine List.forall_mem_append.2 ⟨?_, ih⟩
    cases honce with
    | switch _ hadmits | apart _ hadmits | equals _ hadmits =>
      exact List.forall_mem_singleton.2 hadmits
    | cluster hcluster => exact hcluster.admits

/-- Every option has a long name. -/
lemma exists_longSpelling (o : OptionName) : ∃ entry ∈ longSpellings, entry.2 = o := by
  cases o with
  | value o => cases o <;> decide
  | switch sw => cases sw <;> decide
  | help | version => decide

/-- All options that may stand in a place can be written there. -/
lemma exists_writes (hadmits : ∀ b ∈ given, scope.admits b.option) :
    ∃ words, Writes scope given words := by
  induction given with
  | nil => exact ⟨[], .nil⟩
  | cons b rest ih =>
    obtain ⟨hstands, hrest⟩ := List.forall_mem_cons.1 hadmits
    obtain ⟨words, hwords⟩ := ih hrest
    obtain ⟨⟨spelling, o⟩, hname, ho⟩ := exists_longSpelling b.option
    obtain rfl : o = b.option := ho
    cases b with
    | value o s => exact ⟨_, .append (.equals hname hstands s) hwords⟩
    | switch sw => exact ⟨_, .append (.switch hname hstands) hwords⟩

/-! ### Lines -/

/-- The words at the end of a line are read after well-formed options. -/
lemma Ends.readWithin (h : Ends name ending installer) (hp : p.Holds given) :
    readWithin name p ending = .ok ⟨.ofList given, installer⟩ := by
  have hnothing (hname : name ≠ .install) : readTrailing name p [] = .ok ⟨.ofList given, []⟩ := by
    cases name with
    | install => exact absurd rfl hname
    | init | list | baseline | remove => exact bind_eq_ok.2 ⟨_, hp, rfl⟩
  cases h with
  | install hne => exact readTrailing_install hp hne
  | nothing hname => exact hnothing hname
  | separator hname => exact hnothing hname

/-- The two places together come to what their bindings in one list come to. -/
lemma Tail.toCommandLine_ofList (hfront : ∀ b ∈ front, Scope.front.admits b.option)
    (honce : ((front ++ within).map Binding.option).Nodup) :
    Tail.toCommandLine ⟨.ofList within, installer⟩ name (.ofList front) =
      .ofGiven name (front ++ within) installer := by
  have hvalue (o : ValueOption) (ho : Scope.front.admits (.value o) = false) :
      (Bindings.ofList within).value? o = (Bindings.ofList (front ++ within)).value? o := by
    rw [← Bindings.value?_ofList_append honce, Bindings.value?_ofList_of_not_admits hfront ho]
    exact (Option.or_none ..).symm
  have hswitch (sw : Switch) (hsw : Scope.front.admits (.switch sw) = false) :
      (Bindings.ofList within).isOn sw = (Bindings.ofList (front ++ within)).isOn sw := by
    rw [Bindings.isOn_ofList_append, Bindings.isOn_ofList_of_not_admits hfront hsw,
      Bool.false_or]
  have hcommand : Tail.command ⟨.ofList within, installer⟩ name =
      name.command (front ++ within) installer := by
    cases name with
    | init =>
      rw [Tail.command, hvalue .output rfl]
      rfl
    | list =>
      rw [Tail.command, hswitch .json rfl]
      rfl
    | install =>
      rw [Tail.command, hvalue .installTimeout rfl, hswitch .noRename rfl]
      rfl
    | baseline | remove => rfl
  unfold Tail.toCommandLine CommandLine.ofGiven
  simp only [hcommand, Bindings.value?_ofList_append honce, Bindings.isOn_ofList_append]

/-- The order of bindings makes no difference to a line. -/
lemma CommandLine.ofGiven_of_perm (hperm : given.Perm given')
    (honce : (given.map Binding.option).Nodup) :
    CommandLine.ofGiven name given installer = .ofGiven name given' installer := by
  have hcommand : name.command given installer = name.command given' installer := by
    cases name with
    | init => simp only [CommandName.command, Bindings.value?_ofList_of_perm hperm honce]
    | list => simp only [CommandName.command, Bindings.isOn_ofList_of_perm hperm]
    | install =>
      simp only [CommandName.command, Bindings.value?_ofList_of_perm hperm honce,
        Bindings.isOn_ofList_of_perm hperm]
    | baseline | remove => rfl
  simp only [CommandLine.ofGiven, hcommand, Bindings.value?_ofList_of_perm hperm honce,
    Bindings.isOn_ofList_of_perm hperm]

/-- Well-formed bindings stay well-formed in another order. -/
lemma AreWellFormed.of_perm (h : AreWellFormed given) (hperm : given.Perm given') :
    AreWellFormed given' where
  once := (hperm.map _).nodup_iff.1 h.once
  fits b hb := h.fits b (hperm.mem_iff.2 hb)

end Order

/-! ### Where options may stand -/

section Admitted

variable {name : CommandName} {b : Binding}

/-- The shared options may stand before the name of the command, and no others. -/
lemma front_admits_iff : Scope.front.admits b.option ↔ b.option ∈ sharedOptions := by
  have hvalue (o : ValueOption) : Scope.front.admits (.value o) ↔ .value o ∈ sharedOptions := by
    cases o <;> decide
  have hswitch (sw : Switch) : Scope.front.admits (.switch sw) ↔ .switch sw ∈ sharedOptions := by
    cases sw <;> decide
  cases b with
  | value o s => exact hvalue o
  | switch sw => exact hswitch sw

/-- The shared options may stand after the name of a command, and its own, and no others. -/
lemma within_admits_iff :
    (Scope.within name).admits b.option ↔
      b.option ∈ sharedOptions ∨ b.option ∈ name.ownOptions := by
  have hvalue (o : ValueOption) : (Scope.within name).admits (.value o) ↔
      .value o ∈ sharedOptions ∨ .value o ∈ name.ownOptions := by
    cases name <;> cases o <;> decide
  have hswitch (sw : Switch) : (Scope.within name).admits (.switch sw) ↔
      .switch sw ∈ sharedOptions ∨ .switch sw ∈ name.ownOptions := by
    cases name <;> cases sw <;> decide
  cases b with
  | value o s => exact hvalue o
  | switch sw => exact hswitch sw

end Admitted

/-- Take well-formed settings of a command, shared options and its own, and any way of placing them:
some of the shared ones before the name of the command and the rest after it, in any order.  The
line can be written so, and every writing of it means the command with these settings. -/
theorem CommandLine.ofWords_placed {name : CommandName} {given : List Binding}
    {ending installer : List String} (hformed : AreWellFormed given)
    (hoptions : ∀ b ∈ given, b.option ∈ sharedOptions ∨ b.option ∈ name.ownOptions)
    (hending : Ends name ending installer) :
    ∀ front within : List Binding, (front ++ within).Perm given →
      (∀ b ∈ front, b.option ∈ sharedOptions) →
      (∃ before after, Writes .front front before ∧ Writes (.within name) within after) ∧
      ∀ before after, Writes .front front before → Writes (.within name) within after →
        ofWords (before ++ name.word :: (after ++ ending)) =
          .ok (.ofGiven name given installer) := by
  intro front within hperm hshared
  have hall : AreWellFormed (front ++ within) := hformed.of_perm hperm.symm
  constructor
  · obtain ⟨before, hbefore⟩ := exists_writes fun b hb => front_admits_iff.2 (hshared b hb)
    obtain ⟨after, hafter⟩ := exists_writes fun b (hb : b ∈ within) =>
      within_admits_iff.2 (hoptions b (hperm.mem_iff.1 (List.mem_append_right front hb)))
    exact ⟨before, after, hbefore, hafter⟩
  · -- Each place is read for itself; only together do the two hold all that is given.
    intro before after hbefore hafter
    have hwithin : AreWellFormed within :=
      AreWellFormed.of_append (hall.of_perm List.perm_append_comm)
    obtain ⟨p, hreads, hp⟩ := hafter.reads_start hwithin
    rw [ofWords_append_word name hbefore hall.of_append, hreads.readWithin_append]
    refine map_eq_ok.2 ⟨_, hending.readWithin hp, ?_⟩
    rw [Tail.toCommandLine_ofList hbefore.admits hall.once, ofGiven_of_perm hperm hall.once]

/-- Two writings of one line, with a value that is the name of the command. -/
theorem CommandLine.ofWords_placed_list :
    ofWords ["--signature", "list", "list", "-vc", "a.toml", "--json"] =
        .ok ⟨.list true, none, none, some "list", some "a.toml", true⟩ ∧
      ofWords ["--config=a.toml", "list", "--json", "--verbose", "--signature=list", "--"] =
        .ok ⟨.list true, none, none, some "list", some "a.toml", true⟩ := by
  have hformed : AreWellFormed [.value .signature "list", .switch .verbose,
      .value .config "a.toml", .switch .json] := by
    refine ⟨by decide, ?_⟩
    simp [Binding.Fits]
  have hoptions : ∀ b ∈ [Binding.value .signature "list", .switch .verbose,
      .value .config "a.toml", .switch .json],
      b.option ∈ sharedOptions ∨ b.option ∈ CommandName.list.ownOptions := by decide
  have hlong : ("signature", OptionName.value .signature) ∈ longSpellings := by decide
  have hconfig : ("config", OptionName.value .config) ∈ longSpellings := by decide
  have hverbose : ("verbose", OptionName.switch .verbose) ∈ longSpellings := by decide
  have hjson : ("json", OptionName.switch .json) ∈ longSpellings := by decide
  have hc : ('c', OptionName.value .config) ∈ shortSpellings := by decide
  have hv : ('v', OptionName.switch .verbose) ∈ shortSpellings := by decide
  constructor
  · have hsignature : WritesOnce .front [.value .signature "list"] ["--signature", "list"] :=
      .apart hlong rfl (.inr (by decide))
    have hcluster : WritesOnce (.within .list) [.switch .verbose, .value .config "a.toml"]
        ["-vc", "a.toml"] :=
      .cluster (.switch hv rfl (.apart hc rfl (.inr (by decide))))
    have hswitch : WritesOnce (.within .list) [.switch .json] ["--json"] := .switch hjson rfl
    have hplaced := ofWords_placed hformed hoptions (.nothing (by decide))
      [.value .signature "list"] [.switch .verbose, .value .config "a.toml", .switch .json]
      (by decide) (by decide)
    exact hplaced.2 _ _ (.append hsignature .nil) (.append hcluster (.append hswitch .nil))
  · have hequals : WritesOnce .front [.value .config "a.toml"] ["--config=a.toml"] :=
      .equals hconfig rfl "a.toml"
    have hsignature : WritesOnce (.within .list) [.value .signature "list"] ["--signature=list"] :=
      .equals hlong rfl "list"
    have hplaced := ofWords_placed hformed hoptions (.separator (by decide))
      [.value .config "a.toml"] [.switch .json, .switch .verbose, .value .signature "list"]
      (by decide) (by decide)
    exact hplaced.2 _ _ (.append hequals .nil)
      (.append (.switch hjson rfl) (.append (.switch hverbose rfl) (.append hsignature .nil)))

end TapTracker
