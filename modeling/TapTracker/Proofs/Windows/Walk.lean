import Mathlib.Tactic.Lemma
import TapTracker.Windows.Devices

/-!
# Walks through a set of devices

The operations on devices go through an open set index by index.  `Walk sys set Look Wanted` tells
what such a walk meets on a system whose calls change some state: `Look` relates a device to what is
read of it, and the walk goes on until something wanted has been read, an index yields no device, or
there are no more indices.  What has been passed is listed, so that the walk from the first index
has passed as many devices as the index at which it ends.

A walk always has an end (`exists_walk`), since an index is a word of 32 bits.
-/

namespace TapTracker.Windows

/-- How a walk ends. -/
inductive WalkEnd (α : Type)
  /-- No device is left. -/
  | atEnd
  /-- The next device cannot be had. -/
  | failed (e : SystemError)
  /-- What is wanted has been read. -/
  | found (a : α)

section Walks

variable {σ α : Type}

/-- What a walk from an index on passes, and how it ends. -/
inductive Walk (sys : System (StateM σ)) (set : DeviceSet) (Look : Device → σ → α → σ → Prop)
    (Wanted : α → Prop) : (index : Nat) → σ → List α → WalkEnd α → σ → Prop
  /-- The indices are used up.  The index would overflow here; the walk ends as if no device were
  left. -/
  | exhausted {index : Nat} {s : σ} (hindex : indexCount ≤ index) :
      Walk sys set Look Wanted index s [] .atEnd s
  | atEnd {index : Nat} {s s' : σ} (hindex : index < indexCount)
      (hdevice : (sys.device set index).run s = (.error .noMoreItems, s')) :
      Walk sys set Look Wanted index s [] .atEnd s'
  | failed {index : Nat} {s s' : σ} {e : SystemError} (hindex : index < indexCount)
      (hdevice : (sys.device set index).run s = (.error e, s')) (he : e ≠ .noMoreItems) :
      Walk sys set Look Wanted index s [] (.failed e) s'
  | found {index : Nat} {s s₁ s' : σ} {d : Device} {a : α} (hindex : index < indexCount)
      (hdevice : (sys.device set index).run s = (.ok d, s₁)) (hlook : Look d s₁ a s')
      (hwanted : Wanted a) : Walk sys set Look Wanted index s [] (.found a) s'
  | passed {index : Nat} {s s₁ s₂ s' : σ} {d : Device} {a : α} {visits : List α}
      {ended : WalkEnd α} (hindex : index < indexCount)
      (hdevice : (sys.device set index).run s = (.ok d, s₁)) (hlook : Look d s₁ a s₂)
      (hunwanted : ¬ Wanted a) (hrest : Walk sys set Look Wanted (index + 1) s₂ visits ended s') :
      Walk sys set Look Wanted index s (a :: visits) ended s'

variable {sys : System (StateM σ)} {set : DeviceSet} {Look : Device → σ → α → σ → Prop}
  {Wanted : α → Prop}

/-- Where something can be read of every device, a walk from any index ends in some way. -/
lemma exists_walk (hlook : ∀ d s, ∃ a s', Look d s a s') (index : Nat) (s : σ) :
    ∃ visits ended s', Walk sys set Look Wanted index s visits ended s' := by
  induction hleft : indexCount - index generalizing index s with
  | zero =>
    have hindex : indexCount ≤ index := Nat.sub_eq_zero_iff_le.1 hleft
    exact ⟨[], .atEnd, s, .exhausted hindex⟩
  | succ left ih =>
    have hindex : index < indexCount := by omega
    cases hdevice : (sys.device set index).run s with
    | mk answer s₁ =>
      cases answer with
      | error e =>
        by_cases he : e = .noMoreItems
        · subst he
          exact ⟨[], .atEnd, s₁, .atEnd hindex hdevice⟩
        · exact ⟨[], .failed e, s₁, .failed hindex hdevice he⟩
      | ok d =>
        obtain ⟨a, s₂, ha⟩ := hlook d s₁
        by_cases hwanted : Wanted a
        · exact ⟨[], .found a, s₂, .found hindex hdevice ha hwanted⟩
        · have hnext : indexCount - (index + 1) = left := by omega
          obtain ⟨visits, ended, s', hrest⟩ := ih (index + 1) s₂ hnext
          exact ⟨a :: visits, ended, s', .passed hindex hdevice ha hwanted hrest⟩

/-- A walk ends at nothing but what is wanted. -/
lemma Walk.wanted {index : Nat} {s s' : σ} {visits : List α} {a : α}
    (h : Walk sys set Look Wanted index s visits (.found a) s') : Wanted a := by
  generalize hended : WalkEnd.found a = ended at h
  induction h with
  | exhausted | atEnd | failed => cases hended
  | found _ _ _ hwanted =>
    cases hended
    exact hwanted
  | passed _ _ _ _ _ ih => exact ih hended

/-- A walk passes no more devices than there are indices. -/
lemma Walk.add_length_le {index : Nat} {s s' : σ} {visits : List α} {ended : WalkEnd α}
    (h : Walk sys set Look Wanted index s visits ended s') (hindex : index ≤ indexCount) :
    index + visits.length ≤ indexCount := by
  induction h with
  | exhausted | atEnd | failed | found => exact hindex
  | passed hlt _ _ _ _ ih =>
    have hrest := ih hlt
    rw [List.length_cons]
    omega

end Walks

/-! ### Single steps -/

section Steps

variable {σ : Type} {sys : System (StateM σ)} {set : DeviceSet} {index : Nat} {s s₁ s₂ s₃ : σ}

/-- A device that is answered for an index is the device at it. -/
lemma run_deviceAt_of_ok {d : Device} (h : (sys.device set index).run s = (.ok d, s₁)) :
    (deviceAt sys set index).run s = (.ok (some d), s₁) := by
  rw [deviceAt, StateT.run_bind, h]
  rfl

/-- The answer that there are no more items means that no device is left. -/
lemma run_deviceAt_of_noMoreItems
    (h : (sys.device set index).run s = (.error .noMoreItems, s₁)) :
    (deviceAt sys set index).run s = (.ok none, s₁) := by
  rw [deviceAt, StateT.run_bind, h]
  rfl

/-- Any other error is that of the walk. -/
lemma run_deviceAt_of_error {e : SystemError} (h : (sys.device set index).run s = (.error e, s₁))
    (he : e ≠ .noMoreItems) : (deviceAt sys set index).run s = (.error e, s₁) := by
  rw [deviceAt, StateT.run_bind, h]
  change ((if e = .noMoreItems then .ok none else .error e :
    Except SystemError (Option Device)), s₁) = _
  rw [if_neg he]

section Sets

variable {ε α : Type} {failed : SystemError → ε} {work : DeviceSet → StateM σ (Except ε α)}

/-- If the set cannot be opened, nothing is done with it. -/
lemma run_withDevices_of_error {e : SystemError} (h : sys.openDevices.run s = (.error e, s₁)) :
    (withDevices sys failed work).run s = (.error (failed e), s₁) := by
  rw [withDevices, StateT.run_bind, h]
  rfl

/-- Work on a set that has been opened comes to what the work comes to, however the set is
released. -/
lemma run_withDevices_of_ok {answer : Except ε α} {released : Except SystemError Unit}
    (hopen : sys.openDevices.run s = (.ok set, s₁)) (hwork : (work set).run s₁ = (answer, s₂))
    (hclose : (sys.closeDevices set).run s₂ = (released, s₃)) :
    (withDevices sys failed work).run s = (answer, s₃) := by
  rw [withDevices, StateT.run_bind, hopen]
  change (work set >>= fun answer => sys.closeDevices set >>= fun _ => pure answer).run s₁ = _
  rw [StateT.run_bind, hwork]
  change (sys.closeDevices set >>= fun _ => pure answer).run s₂ = _
  rw [StateT.run_bind, hclose]
  rfl

end Sets

end Steps

end TapTracker.Windows
