import TapTracker.Proofs.Simulation.Host
import TapTracker.Proofs.Text.Utf16
import TapTracker.Proofs.Windows.Calls

/-!
# Reading properties of devices

A property is read into a buffer, and read again with the size that was asked for as long as the
buffer is too small.  `PropertyReads` is the chain of these reads on any system, and `ReadsComeTo`
says what a list of reads comes to: a text if one of them succeeds after reads that have asked for
more, and nothing if one of them fails otherwise or all attempts have been used up.  No other part
of the system decides this (`exists_reads`).

`StoresProperty` describes a system that keeps one value, asks for its size when the buffer is
smaller, and fills the buffer otherwise.  There the first read that is given the size succeeds, so
that two reads are enough for a value of any size (`StoresProperty.run_textProperty`).
-/

namespace TapTracker.Windows

open TapTracker.Text

/-! ### Chains of reads -/

/-- The buffer was too small for the property. -/
def PropertyRead.AsksForMore (r : PropertyRead) : Prop :=
  r.outcome = .error .insufficientBuffer

/-- The bytes are the ones that a read has filled in: as many from the start of the buffer as it
reports, and no more than there are. -/
def PropertyRead.Fills (r : PropertyRead) (bytes : List UInt8) : Prop :=
  bytes <+: r.buffer ∧ bytes.length = min r.required r.buffer.length

/-- Reads one after the other, the first one into a given buffer and each of the others into a
buffer of the size that the read before it has reported. -/
inductive PropertyReads {σ : Type} (sys : System (StateM σ)) (set : DeviceSet) (d : Device)
    (property : Property) : List UInt8 → σ → List PropertyRead → σ → Prop
  | nil (buffer : List UInt8) (s : σ) : PropertyReads sys set d property buffer s [] s
  | cons {buffer next : List UInt8} {s s₁ s' : σ} {r : PropertyRead} {reads : List PropertyRead}
      (hread : (sys.readProperty set d property buffer).run s = (r, s₁))
      (hnext : next.length = r.required)
      (hrest : PropertyReads sys set d property next s₁ reads s') :
      PropertyReads sys set d property buffer s (r :: reads) s'

/-- What reads come to, of which there may be a number of attempts. -/
inductive ReadsComeTo (attempts : Nat) : List PropertyRead → Option String → Prop
  /-- A read succeeds after others that have asked for more. -/
  | text (earlier : List PropertyRead) {last : PropertyRead} {bytes : List UInt8}
      (hcount : earlier.length < attempts) (hearlier : ∀ r ∈ earlier, r.AsksForMore)
      (hlast : last.outcome = .ok ()) (hbytes : last.Fills bytes) :
      ReadsComeTo attempts (earlier ++ [last]) (some (Utf16.decodeBytes bytes))
  /-- A read fails for another reason than the size of the buffer. -/
  | failed (earlier : List PropertyRead) {last : PropertyRead} {e : SystemError}
      (hcount : earlier.length < attempts) (hearlier : ∀ r ∈ earlier, r.AsksForMore)
      (hlast : last.outcome = .error e) (he : e ≠ .insufficientBuffer) :
      ReadsComeTo attempts (earlier ++ [last]) none
  /-- Every attempt asks for more. -/
  | givenUp {reads : List PropertyRead} (hcount : reads.length = attempts)
      (hreads : ∀ r ∈ reads, r.AsksForMore) : ReadsComeTo attempts reads none

section Courses

variable {attempts : Nat} {reads : List PropertyRead} {answer : Option String} {r : PropertyRead}

/-- A resized buffer has the new size. -/
lemma length_resize (size : Nat) (buffer : List UInt8) : (resize size buffer).length = size := by
  rw [resize, List.length_append, List.length_take, List.length_replicate]
  omega

/-- The bytes up to the reported size are those that a read has filled in. -/
lemma PropertyRead.fills_take (r : PropertyRead) : r.Fills (r.buffer.take r.required) :=
  ⟨List.take_prefix _ _, List.length_take⟩

/-- A read that asks for more leaves the outcome to those after it. -/
lemma ReadsComeTo.cons (h : ReadsComeTo attempts reads answer) (hr : r.AsksForMore) :
    ReadsComeTo (attempts + 1) (r :: reads) answer := by
  cases h with
  | text earlier hcount hearlier hlast hbytes =>
    exact .text (r :: earlier) (Nat.succ_lt_succ hcount)
      (List.forall_mem_cons.2 ⟨hr, hearlier⟩) hlast hbytes
  | failed earlier hcount hearlier hlast he =>
    exact .failed (r :: earlier) (Nat.succ_lt_succ hcount)
      (List.forall_mem_cons.2 ⟨hr, hearlier⟩) hlast he
  | givenUp hcount hreads =>
    exact .givenUp (congrArg (· + 1) hcount) (List.forall_mem_cons.2 ⟨hr, hreads⟩)

/-- There is a read if there is an attempt. -/
lemma ReadsComeTo.length_pos (h : ReadsComeTo (attempts + 1) reads answer) : 0 < reads.length := by
  cases h with
  | text | failed =>
    rw [List.length_append, List.length_singleton]
    exact Nat.succ_pos _
  | givenUp hcount =>
    rw [hcount]
    exact Nat.succ_pos _

/-- There are no more reads than attempts. -/
lemma ReadsComeTo.length_le (h : ReadsComeTo attempts reads answer) : reads.length ≤ attempts := by
  cases h with
  | text _ hcount | failed _ hcount =>
    rw [List.length_append, List.length_singleton]
    exact hcount
  | givenUp hcount => exact Nat.le_of_eq hcount

/-- As many bytes from the start of a buffer are the same bytes. -/
lemma PropertyRead.Fills.eq {bytes bytes' : List UInt8} (h : r.Fills bytes) (h' : r.Fills bytes') :
    bytes = bytes' :=
  (List.prefix_of_prefix_length_le h.1 h'.1 (Nat.le_of_eq (h.2.trans h'.2.symm))).eq_of_length
    (h.2.trans h'.2.symm)

/-- There is a text exactly if the last read succeeds and all reads before it have asked for
more. -/
lemma ReadsComeTo.eq_some_iff (h : ReadsComeTo attempts reads answer) {text : String} :
    answer = some text ↔ ∃ earlier last bytes, reads = earlier ++ [last] ∧
      (∀ r ∈ earlier, r.AsksForMore) ∧ last.outcome = .ok () ∧ last.Fills bytes ∧
      text = Utf16.decodeBytes bytes := by
  constructor
  · rintro rfl
    cases h with
    | text _ hcount hearlier hlast hbytes => exact ⟨_, _, _, rfl, hearlier, hlast, hbytes, rfl⟩
  · rintro ⟨earlier, last, bytes, hreads, -, hok, hbytes, rfl⟩
    cases h with
    | text _ hcount hearlier hlast hbytes' =>
      obtain ⟨-, hsame⟩ := List.append_inj' hreads rfl
      obtain rfl := List.singleton_inj.1 hsame
      rw [hbytes.eq hbytes']
    | failed _ hcount hearlier hlast he =>
      obtain ⟨-, hsame⟩ := List.append_inj' hreads rfl
      obtain rfl := List.singleton_inj.1 hsame
      rw [hok] at hlast
      cases hlast
    | givenUp hcount hasks =>
      have hmem : last ∈ reads := hreads ▸ List.mem_append_right earlier List.mem_cons_self
      have hlast : last.outcome = .error .insufficientBuffer := hasks last hmem
      rw [hok] at hlast
      cases hlast

end Courses

/-! ### Reading -/

section Reading

variable {σ : Type} {sys : System (StateM σ)} {set : DeviceSet} {d : Device} {property : Property}

/-- Reading a property with a number of attempts makes a chain of reads, and no other calls, and its
answer is what these reads come to. -/
lemma exists_reads (attempts : Nat) (buffer : List UInt8) (past : Trace) (s : σ) :
    ∃ reads answer s',
      ((readTextProperty sys.traced set d property attempts buffer).run past).run s =
        ((answer, past ++ List.replicate reads.length (.readProperty set d property)), s') ∧
      PropertyReads sys set d property buffer s reads s' ∧ ReadsComeTo attempts reads answer := by
  -- Every read goes into a buffer of the size that the one before it has asked for, so the buffer
  -- varies.
  induction attempts generalizing buffer past s with
  | zero =>
    refine ⟨[], none, s, ?_, .nil buffer s, .givenUp rfl nofun⟩
    rw [List.length_nil, List.replicate_zero, List.append_nil]
    rfl
  | succ attempts ih =>
    have hcall : ((sys.traced.readProperty set d property buffer).run past).run s = _ :=
      run_traceCall _ _ past s
    rw [readTextProperty, run_traced_bind hcall]
    cases hread : (sys.readProperty set d property buffer).run s with
    | mk r s₁ =>
      have hsize : (resize r.required r.buffer).length = r.required := length_resize _ _
      have hsingle : PropertyReads sys set d property buffer s [r] s₁ :=
        .cons hread hsize (.nil _ _)
      cases houtcome : r.outcome with
      | ok =>
        exact ⟨[r], _, s₁, rfl, hsingle, .text [] (Nat.succ_pos _) nofun houtcome
          r.fills_take⟩
      | error e =>
        by_cases he : e = .insufficientBuffer
        · subst he
          obtain ⟨reads, answer, s', hrun, hrest, hcomes⟩ :=
            ih (resize r.required r.buffer) (past ++ [.readProperty set d property]) s₁
          refine ⟨r :: reads, answer, s', ?_, .cons hread hsize hrest, hcomes.cons houtcome⟩
          dsimp only
          rw [if_pos rfl, hrun, List.length_cons, List.replicate_succ, ← List.append_cons]
        · refine ⟨[r], none, s₁, ?_, hsingle, .failed [] (Nat.succ_pos _) nofun
            houtcome he⟩
          dsimp only
          rw [if_neg he]
          rfl

/-- Untraced, reading a property answers the same. -/
lemma run_textProperty_of_traced {past after : Trace} {s s' : σ} {answer : Option String}
    (h : ((textProperty sys.traced set d property).run past).run s = ((answer, after), s')) :
    (textProperty sys set d property).run s = (answer, s') := by
  obtain ⟨made, hrun, -⟩ := asks_readTextProperty sys set d property propertyAttempts
    (List.replicate initialPropertySize 0) past s
  obtain ⟨htraced, hstate⟩ := Prod.mk.inj (hrun.symm.trans h)
  exact Prod.ext (Prod.mk.inj htraced).1 hstate

end Reading

/-! ### Systems that keep a property -/

/-- As long as `Holds` is true of its state, the system keeps some bytes as the property.  It asks
for their number if the buffer is smaller, whatever it leaves in it, and otherwise puts them at the
start of the buffer and reports their number. -/
structure StoresProperty {σ : Type} (sys : System (StateM σ)) (Holds : σ → Prop) (set : DeviceSet)
    (d : Device) (property : Property) (bytes : List UInt8) : Prop where
  asks : ∀ buffer s, Holds s → buffer.length < bytes.length → ∃ left s',
    (sys.readProperty set d property buffer).run s =
      (⟨.error .insufficientBuffer, left, bytes.length⟩, s') ∧ Holds s'
  fills : ∀ buffer s, Holds s → bytes.length ≤ buffer.length → ∃ left s',
    (sys.readProperty set d property buffer).run s =
      (⟨.ok (), bytes ++ left, bytes.length⟩, s') ∧ Holds s'

/-- The number of reads that a value of a size takes. -/
def readsNeeded (size : Nat) : Nat := if size ≤ initialPropertySize then 1 else 2

namespace StoresProperty

variable {σ : Type} {sys : System (StateM σ)} {Holds : σ → Prop} {set : DeviceSet} {d : Device}
  {property : Property} {bytes buffer : List UInt8} {attempts : Nat} {past : Trace} {s : σ}

/-- A read into a buffer that is large enough is the last one. -/
lemma run_of_le (h : StoresProperty sys Holds set d property bytes) (attempts : Nat)
    (past : Trace) (hs : Holds s) (hsize : bytes.length ≤ buffer.length) :
    ∃ s', ((readTextProperty sys.traced set d property (attempts + 1) buffer).run past).run s =
        ((some (Utf16.decodeBytes bytes), past ++ [.readProperty set d property]), s') ∧
      Holds s' := by
  obtain ⟨left, s', hread, hs'⟩ := h.fills buffer s hs hsize
  have hcall : ((sys.traced.readProperty set d property buffer).run past).run s = _ :=
    run_traceCall _ _ past s
  refine ⟨s', ?_, hs'⟩
  rw [readTextProperty, run_traced_bind hcall, hread]
  dsimp only
  rw [List.take_left]
  rfl

/-- A read into a smaller buffer is followed by one into a buffer of the right size. -/
lemma run_of_lt (h : StoresProperty sys Holds set d property bytes) (attempts : Nat)
    (past : Trace) (hs : Holds s) (hsize : buffer.length < bytes.length) :
    ∃ next s', next.length = bytes.length ∧
      ((readTextProperty sys.traced set d property (attempts + 1) buffer).run past).run s =
        ((readTextProperty sys.traced set d property attempts next).run
          (past ++ [.readProperty set d property])).run s' ∧ Holds s' := by
  obtain ⟨left, s', hread, hs'⟩ := h.asks buffer s hs hsize
  have hcall : ((sys.traced.readProperty set d property buffer).run past).run s = _ :=
    run_traceCall _ _ past s
  refine ⟨resize bytes.length left, s', length_resize _ _, ?_, hs'⟩
  rw [readTextProperty, run_traced_bind hcall, hread]
  dsimp only
  rw [if_pos rfl]

/-- The bytes are read as a whole, at the latest by the second read. -/
lemma run_textProperty (h : StoresProperty sys Holds set d property bytes) (past : Trace)
    (hs : Holds s) :
    ∃ s', ((textProperty sys.traced set d property).run past).run s =
      ((some (Utf16.decodeBytes bytes),
        past ++ List.replicate (readsNeeded bytes.length) (.readProperty set d property)), s') ∧
      Holds s' := by
  unfold readsNeeded
  by_cases hsize : bytes.length ≤ initialPropertySize
  · rw [if_pos hsize]
    exact h.run_of_le 2 past hs (by rwa [List.length_replicate])
  · rw [if_neg hsize]
    have hsmall : (List.replicate initialPropertySize (0 : UInt8)).length < bytes.length := by
      rw [List.length_replicate]
      exact Nat.lt_of_not_le hsize
    obtain ⟨next, s₁, hnext, hrun, hs₁⟩ := h.run_of_lt 2 past hs hsmall
    obtain ⟨s', hrun', hs'⟩ :=
      h.run_of_le 1 (past ++ [.readProperty set d property]) hs₁ (Nat.le_of_eq hnext.symm)
    refine ⟨s', ?_, hs'⟩
    rw [List.append_assoc, List.singleton_append] at hrun'
    exact hrun.trans hrun'

end StoresProperty

/-! ### Descriptions -/

section Descriptions

variable {σ : Type} {sys : System (StateM σ)} {set : DeviceSet} {d : Device} {past after : Trace}
  {s s₁ : σ}

/-- The friendly name is the description. -/
lemma run_traced_description_of_some {name : String}
    (h : ((textProperty sys.traced set d .friendlyName).run past).run s =
      ((some name, after), s₁)) :
    ((description sys.traced set d).run past).run s = ((some name, after), s₁) := by
  rw [description, run_traced_bind h]
  rfl

/-- Without a friendly name the other property is read. -/
lemma run_traced_description_of_none
    (h : ((textProperty sys.traced set d .friendlyName).run past).run s = ((none, after), s₁)) :
    ((description sys.traced set d).run past).run s =
      ((textProperty sys.traced set d .description).run after).run s₁ := by
  rw [description, run_traced_bind h]

end Descriptions

end TapTracker.Windows

namespace TapTracker.Simulation

open TapTracker.Text TapTracker.Windows

/-! ### Calm hosts keep their properties -/

/-- A calm host keeps the bytes of its properties. -/
lemma Host.Calm.storesProperty {h : Host} (hcalm : h.Calm) {d : Device} {stored : HostDevice}
    {property : Property} {bytes : List UInt8} (hfound : h.find? d.number = some stored)
    (hbytes : stored.property property = .ofBytes bytes) (set : DeviceSet) :
    StoresProperty Host.system h.SameButHandles set d property bytes := by
  have hread : ∀ next buffer, ({ h with nextHandle := next }.readProperty d property buffer).1 =
      ((StoredProperty.ofBytes bytes).read buffer).1 := by
    intro next buffer
    have hnext : { h with nextHandle := next }.find? d.number = some stored := hfound
    rw [Host.readProperty, hnext, ← hbytes]
  constructor
  · rintro buffer _ ⟨next, rfl⟩ hsize
    refine ⟨buffer, _, Prod.ext ?_ ((hcalm.withHandles next).readProperty d property buffer), next,
      rfl⟩
    refine (hread next buffer).trans ?_
    rw [StoredProperty.read, StoredProperty.ofBytes]
    dsimp only
    rw [if_pos hsize]
    rfl
  · rintro buffer _ ⟨next, rfl⟩ hsize
    refine ⟨buffer.drop bytes.length, _,
      Prod.ext ?_ ((hcalm.withHandles next).readProperty d property buffer), next, rfl⟩
    refine (hread next buffer).trans ?_
    rw [StoredProperty.read, StoredProperty.ofBytes]
    dsimp only
    rw [if_neg (Nat.not_lt.2 hsize)]
    rfl

end TapTracker.Simulation

namespace TapTracker.Windows

open TapTracker.Simulation TapTracker.Text

/-! ### Texts of properties -/

/-- A property is read at most three times.  It has a text exactly if a read succeeds and all reads
before it have asked for more; the text is that of the bytes which this read has filled in, never
more than the buffer holds, and any other failure ends the reading at once.  On a system that keeps
a value the whole value is read in at most two reads, whatever its size, and a text without zero
characters comes back as it is.  The description of a device is read in place of its friendly name
exactly if the latter has no text. -/
theorem textProperty_run {σ : Type} (sys : System (StateM σ)) (set : DeviceSet) (d : Device) :
    (∀ property past s, ∃ reads answer s',
      ((textProperty sys.traced set d property).run past).run s =
        ((answer, past ++ List.replicate reads.length (.readProperty set d property)), s') ∧
      (textProperty sys set d property).run s = (answer, s') ∧
      PropertyReads sys set d property (List.replicate initialPropertySize 0) s reads s' ∧
      ReadsComeTo 3 reads answer ∧ reads.length ≤ 3 ∧
      ∀ text, answer = some text ↔ ∃ earlier last bytes, reads = earlier ++ [last] ∧
        (∀ r ∈ earlier, r.AsksForMore) ∧ last.outcome = .ok () ∧ last.Fills bytes ∧
        text = Utf16.decodeBytes bytes) ∧
    (∀ Holds property bytes, StoresProperty sys Holds set d property bytes →
      ∀ past s, Holds s → ∃ s',
        ((textProperty sys.traced set d property).run past).run s =
          ((some (Utf16.decodeBytes bytes),
            past ++ List.replicate (readsNeeded bytes.length) (.readProperty set d property)), s') ∧
        Holds s') ∧
    (∀ Holds property (text : String), '\x00' ∉ text.toList →
      StoresProperty sys Holds set d property
        (Utf16.bytesOfUnits (Utf16.encode text.toList ++ [0])) →
      ∀ s, Holds s → ∃ s', (textProperty sys set d property).run s = (some text, s') ∧ Holds s') ∧
    ∀ past s, ∃ friendlyName asked s₁ answer made s',
      ((textProperty sys.traced set d .friendlyName).run past).run s =
        ((friendlyName, past ++ asked), s₁) ∧
      ((description sys.traced set d).run past).run s = ((answer, past ++ made), s') ∧
      (∀ name, friendlyName = some name → answer = some name ∧ made = asked ∧ s' = s₁) ∧
      (friendlyName = none → ((textProperty sys.traced set d .description).run
        (past ++ asked)).run s₁ = ((answer, past ++ made), s')) ∧
      (.readProperty set d .description ∈ made ↔ friendlyName = none) := by
  refine ⟨fun property past s => ?_, fun Holds property bytes hstores past s hs => ?_,
    fun Holds property text htext hstores s hs => ?_, fun past s => ?_⟩
  · obtain ⟨reads, answer, s', hrun, hreads, hcomes⟩ :=
      exists_reads 3 (List.replicate initialPropertySize 0) past s
    exact ⟨reads, answer, s', hrun, run_textProperty_of_traced hrun, hreads, hcomes,
      hcomes.length_le, fun text => hcomes.eq_some_iff⟩
  · exact hstores.run_textProperty past hs
  · obtain ⟨s', hrun, hs'⟩ := hstores.run_textProperty [] hs
    rw [Utf16.decodeBytes_bytesOfUnits htext] at hrun
    exact ⟨s', run_textProperty_of_traced hrun, hs'⟩
  · obtain ⟨reads, friendlyName, s₁, hrun, -, -⟩ :=
      exists_reads 3 (List.replicate initialPropertySize 0) past s
    -- The first chain of reads is about the friendly name alone, so that the description is asked
    -- for exactly if there is a second chain.
    have hother : Call.readProperty set d .description ∉
        List.replicate reads.length (.readProperty set d .friendlyName) := by
      intro hmem
      cases List.eq_of_mem_replicate hmem
    cases friendlyName with
    | some name =>
      refine ⟨some name, _, s₁, some name, _, s₁, hrun, run_traced_description_of_some hrun, ?_,
        nofun, iff_of_false hother nofun⟩
      rintro _ ⟨⟩
      exact ⟨rfl, rfl, rfl⟩
    | none =>
      obtain ⟨more, answer, s', hrun', -, hcomes⟩ :=
        exists_reads 3 (List.replicate initialPropertySize 0)
          (past ++ List.replicate reads.length (.readProperty set d .friendlyName)) s₁
      have hmem : Call.readProperty set d .description ∈
          List.replicate reads.length (.readProperty set d .friendlyName) ++
            List.replicate more.length (.readProperty set d .description) :=
        List.mem_append_right _ (List.mem_replicate.2 ⟨Nat.ne_of_gt hcomes.length_pos, rfl⟩)
      rw [List.append_assoc] at hrun'
      exact ⟨none, _, s₁, answer, _, s', hrun, (run_traced_description_of_none hrun).trans hrun',
        nofun, fun _ => hrun', iff_of_true hmem rfl⟩

/-- A text whose bytes are more than the first buffer has. -/
def longName : String := String.ofList (List.replicate 200 'x')

/-- A host with one device, which has a long friendly name. -/
def hostWithLongName : Host :=
  { Host.empty with
    devices := [(0, ⟨.ofText longName, .missing, none, none, none, none⟩)]
    nextNumber := 1 }

/-- The host with a long name is calm. -/
lemma calm_hostWithLongName : hostWithLongName.Calm where
  classFault := rfl
  openKeys := rfl
  numbers := List.nodup_singleton 0
  indexFault := by
    intro d hd
    obtain rfl := List.mem_singleton.1 hd
    rfl
  asks := by
    intro d hd property
    obtain rfl := List.mem_singleton.1 hd
    cases property <;> rfl

/-- A name of 200 characters is read as it is. -/
theorem textProperty_run_of_longName :
    '\x00' ∉ longName.toList ∧
    StoresProperty Host.system hostWithLongName.SameButHandles ⟨0⟩ ⟨0⟩ .friendlyName
      (Utf16.bytesOfUnits (Utf16.encode longName.toList ++ [0])) ∧
    ∃ s', (textProperty Host.system ⟨0⟩ ⟨0⟩ .friendlyName).run hostWithLongName =
      (some longName, s') := by
  have hchars : longName.toList = List.replicate 200 'x' := String.toList_ofList
  have htext : '\x00' ∉ longName.toList := by
    intro hmem
    rw [hchars] at hmem
    exact absurd (List.eq_of_mem_replicate hmem) (by decide)
  have hfound : hostWithLongName.find? 0 =
      some ⟨.ofText longName, .missing, none, none, none, none⟩ := rfl
  have hstores : StoresProperty Host.system hostWithLongName.SameButHandles ⟨0⟩ ⟨0⟩ .friendlyName
      (Utf16.bytesOfUnits (Utf16.encode longName.toList ++ [0])) :=
    calm_hostWithLongName.storesProperty hfound rfl ⟨0⟩
  have hs : hostWithLongName.SameButHandles hostWithLongName := ⟨_, rfl⟩
  obtain ⟨-, -, hreturned, -⟩ := textProperty_run Host.system ⟨0⟩ ⟨0⟩
  obtain ⟨s', hrun, -⟩ := hreturned _ .friendlyName longName htext hstores hostWithLongName hs
  exact ⟨htext, hstores, s', hrun⟩

end TapTracker.Windows
