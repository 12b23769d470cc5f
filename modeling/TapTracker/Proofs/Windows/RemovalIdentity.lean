import TapTracker.Proofs.Adapter.Identity
import TapTracker.Proofs.Simulation.Host
import TapTracker.Proofs.Text.LowerCase
import TapTracker.Proofs.Windows.Steady

/-!
# The identity of removed devices

A record has an identifier if the lower-case forms of the two are the same.  A removal compares
instance identifiers in another way: only the case of ASCII letters makes no difference.

The comparison of the removal is the finer one (`EqIgnoringAsciiCase.lowerChars_eq`), and between
identifiers in ASCII there is no difference (`eqIgnoringAsciiCase_iff`).  So a device that
is removed always has the identity in question, but it is sure to be the first one with this
identity, and a device with it is sure to be found, only where all identifiers are in ASCII
(`remove_run_of_steady`).  Elsewhere a removal may not find a device that is there
(`remove_run_of_capital`).
-/

namespace TapTracker.Windows

open TapTracker.Simulation TapTracker.Text

/-! ### The two comparisons -/

/-- All characters of the text are in ASCII. -/
def IsAscii (s : String) : Prop :=
  ∀ c ∈ s.toList, c.toNat < 128

instance (s : String) : Decidable (IsAscii s) :=
  List.decidableBAll (fun c : Char => c.toNat < 128) s.toList

/-- In ASCII the key of an identifier is its lower-case form in ASCII. -/
lemma identityKey_eq_map {s : String} (hs : IsAscii s) :
    identityKey s = s.toList.map lowerAscii := by
  rw [identityKey, lowerChars, ← List.flatMap_pure_eq_map]
  exact List.flatMap_congr fun c hc => lowerChar_eq_singleton (hs c hc)

/-- In ASCII the two comparisons are the same. -/
lemma eqIgnoringAsciiCase_iff {s t : String} (hs : IsAscii s) (ht : IsAscii t) :
    EqIgnoringAsciiCase s t ↔ identityKey s = identityKey t := by
  rw [identityKey_eq_map hs, identityKey_eq_map ht, EqIgnoringAsciiCase]

/-! ### Devices and identities -/

/-- The device has an instance identifier, and records with it have the given identifier. -/
def HasIdentity (instanceIds : Device → Option String) (identifier : String) (d : Device) : Prop :=
  ∃ a : TapAdapter, instanceIds d = some a.identifier ∧ a.hasIdentifier identifier

/-- The device has an instance identifier that is the given one up to the case of ASCII letters. -/
def IsNamed (instanceIds : Device → Option String) (identifier : String) (d : Device) : Prop :=
  Identification.Names identifier ⟨d, instanceIds d⟩

/-- The device is the first one in the list with a property. -/
def IsFirst (P : Device → Prop) (devices : List Device) (d : Device) : Prop :=
  ∃ earlier later, devices = earlier ++ d :: later ∧ P d ∧ ∀ c ∈ earlier, ¬ P c

/-- What comes of removing the first device with a property: the removal is called for this device
and no other and comes to what is answered, or there is no such device and none is removed. -/
inductive RemovesFirst {σ : Type} (sys : System (StateM σ)) (P : Device → Prop)
    (devices : List Device) (identifier : String) : Except RemoveError Unit → Trace → Prop
  | removed {d : Device} {set : DeviceSet} {t t' : σ} {removed : Except SystemError Unit}
      {made : Trace} (hfirst : IsFirst P devices d)
      (hremove : (sys.removeDevice set d).run t = (removed, t'))
      (hmade : made.removals = [(set, d)]) :
      RemovesFirst sys P devices identifier (removed.mapError .system) made
  | unknown {made : Trace} (hnone : ∀ d ∈ devices, ¬ P d) (hmade : made.removals = []) :
      RemovesFirst sys P devices identifier (.error (.notFound identifier)) made

section Devices

variable {devices : List Device} {instanceIds : Device → Option String} {identifier : String}
  {d : Device} {P Q : Device → Prop}

/-- A device has an identity exactly if its instance identifier has the same key. -/
lemma hasIdentity_iff :
    HasIdentity instanceIds identifier d ↔
      ∃ found, instanceIds d = some found ∧ identityKey found = identityKey identifier := by
  simp only [HasIdentity, TapAdapter.hasIdentifier_iff]
  constructor
  · rintro ⟨a, hid, hkey⟩
    exact ⟨a.identifier, hid, hkey⟩
  · rintro ⟨found, hid, hkey⟩
    exact ⟨⟨found, "", ""⟩, hid, hkey⟩

/-- A device that is named up to the case of ASCII letters has the identity. -/
lemma IsNamed.hasIdentity (h : IsNamed instanceIds identifier d) :
    HasIdentity instanceIds identifier d := by
  obtain ⟨found, hid, hsame⟩ := h
  exact hasIdentity_iff.2 ⟨found, hid, hsame.lowerChars_eq⟩

/-- In ASCII a device is named exactly if it has the identity. -/
lemma isNamed_iff_hasIdentity (hidentifier : IsAscii identifier)
    (hid : ∀ found, instanceIds d = some found → IsAscii found) :
    IsNamed instanceIds identifier d ↔ HasIdentity instanceIds identifier d := by
  rw [hasIdentity_iff]
  exact exists_congr fun found => and_congr_right fun hfound =>
    eqIgnoringAsciiCase_iff (hid found hfound) hidentifier

/-- The first device with a property is in the list. -/
lemma IsFirst.mem (h : IsFirst P devices d) : d ∈ devices := by
  obtain ⟨earlier, later, rfl, -⟩ := h
  exact List.mem_append_right _ List.mem_cons_self

/-- The first device with a property is the first with another one that the same devices have. -/
lemma IsFirst.of_iff (hiff : ∀ d ∈ devices, (P d ↔ Q d)) (h : IsFirst P devices d) :
    IsFirst Q devices d := by
  have hmem := h.mem
  obtain ⟨earlier, later, rfl, hd, hearlier⟩ := h
  exact ⟨earlier, later, rfl, (hiff d hmem).1 hd, fun c hc hQ =>
    hearlier c hc ((hiff c (List.mem_append_left _ hc)).2 hQ)⟩

/-- Some device is the first one with a property unless no device has it. -/
lemma exists_isFirst_or (P : Device → Prop) (devices : List Device) :
    (∃ d, IsFirst P devices d) ∨ ∀ d ∈ devices, ¬ P d := by
  induction devices with
  | nil => exact .inr fun d hd => by cases hd
  | cons c devices ih =>
    by_cases hc : P c
    · exact .inl ⟨c, [], devices, rfl, hc, fun c hc => by cases hc⟩
    · rcases ih with ⟨d, earlier, later, rfl, hd, hearlier⟩ | hnone
      · exact .inl ⟨d, c :: earlier, later, rfl, hd, List.forall_mem_cons.2 ⟨hc, hearlier⟩⟩
      · exact .inr (List.forall_mem_cons.2 ⟨hc, hnone⟩)

variable {σ : Type} {sys : System (StateM σ)} {answer : Except RemoveError Unit} {made : Trace}

/-- Properties of the same devices are removed by alike. -/
lemma RemovesFirst.of_iff (hiff : ∀ d ∈ devices, (P d ↔ Q d))
    (h : RemovesFirst sys P devices identifier answer made) :
    RemovesFirst sys Q devices identifier answer made := by
  cases h with
  | removed hfirst hremove hmade => exact .removed (hfirst.of_iff hiff) hremove hmade
  | unknown hnone hmade =>
    exact .unknown (fun d hd hQ => hnone d hd ((hiff d hd).2 hQ)) hmade

/-- Whatever is removed has the property. -/
lemma RemovesFirst.of_mem_removals (h : RemovesFirst sys P devices identifier answer made)
    {set : DeviceSet} (hmem : (set, d) ∈ made.removals) : P d := by
  cases h with
  | removed hfirst hremove hmade =>
    rw [hmade, List.mem_singleton] at hmem
    obtain ⟨-, rfl⟩ := Prod.mk.inj hmem
    obtain ⟨earlier, later, -, hd, -⟩ := hfirst
    exact hd
  | unknown hnone hmade =>
    rw [hmade] at hmem
    cases hmem

end Devices

/-! ### Hosts with given identifiers -/

/-- A host with devices that have the given instance identifiers. -/
def hostWithIdentifiers (identifiers : List String) : Host :=
  { Host.empty with
    devices := identifiers.zipIdx.map fun e =>
      (e.2, ⟨.ofText "TAP", .missing, some e.1, none, none, none⟩)
    nextNumber := identifiers.length }

/-- A host whose devices have given identifiers is calm. -/
lemma calm_hostWithIdentifiers (identifiers : List String) :
    (hostWithIdentifiers identifiers).Calm where
  classFault := rfl
  openKeys := rfl
  numbers := by
    have hnumbers : (hostWithIdentifiers identifiers).devices.map (·.1) =
        List.range' 0 identifiers.length := by
      rw [hostWithIdentifiers, List.map_map, ← List.zipIdx_map_snd 0 identifiers]
      rfl
    rw [hnumbers]
    exact List.nodup_range'
  indexFault := by
    intro d hd
    obtain ⟨e, -, rfl⟩ := List.mem_map.1 hd
    rfl
  asks := by
    intro d hd property
    obtain ⟨e, -, rfl⟩ := List.mem_map.1 hd
    cases property <;> rfl

/-! ### Removing by an identity -/

/-- On a steady system a removal removes the first device that has the identifier. -/
lemma Steady.exists_removesFirst {σ : Type} {sys : System (StateM σ)} {Holds : σ → Prop}
    {devices : List Device} {instanceIds : Device → Option String}
    (h : Steady sys Holds devices .noMoreItems instanceIds) (hlength : devices.length ≤ indexCount)
    (identifier : String) (past : Trace) {s : σ} (hs : Holds s) :
    ∃ answer made s',
      ((remove sys.traced identifier).run past).run s = ((answer, past ++ made), s') ∧
        RemovesFirst sys (IsNamed instanceIds identifier) devices identifier answer made := by
  rcases exists_isFirst_or (IsNamed instanceIds identifier) devices with
    ⟨d, earlier, later, rfl, hd, hearlier⟩ | hnone
  · rw [List.length_append, List.length_cons] at hlength
    obtain ⟨set, t, t', removed, s', hremove, hcourse⟩ :=
      h.exists_removalRun_of_first rfl (by omega) hd hearlier hs
    obtain ⟨made, hrun, hsession⟩ := hcourse.run_traced past
    exact ⟨_, made, s', hrun, .removed ⟨earlier, later, rfl, hd, hearlier⟩ hremove
      hsession.removals⟩
  · obtain ⟨s', hcourse⟩ := h.exists_removalRun_of_unknown hlength hnone hs
    obtain ⟨made, hrun, hsession⟩ := hcourse.run_traced past
    exact ⟨_, made, s', hrun, .unknown hnone hsession.removals⟩

/-- On a system with some devices, whose answers about them do not change, a removal by any
identifier removes the first device whose instance identifier is the given one up to the case of
ASCII letters.  A device that is removed has the identity of the given identifier, and among
identifiers in ASCII it is the first device that has it, so that a removal finds none only if there
is none. -/
theorem remove_run_of_steady {σ : Type} {sys : System (StateM σ)} {Holds : σ → Prop}
    {devices : List Device} {instanceIds : Device → Option String}
    (hsteady : Steady sys Holds devices .noMoreItems instanceIds)
    (hlength : devices.length ≤ indexCount) (identifier : String) (past : Trace) {s : σ}
    (hs : Holds s) :
    ∃ answer made s',
      ((remove sys.traced identifier).run past).run s = ((answer, past ++ made), s') ∧
        RemovesFirst sys (IsNamed instanceIds identifier) devices identifier answer made ∧
        (∀ set d, (set, d) ∈ made.removals → HasIdentity instanceIds identifier d) ∧
        (IsAscii identifier →
          (∀ d ∈ devices, ∀ found, instanceIds d = some found → IsAscii found) →
          RemovesFirst sys (HasIdentity instanceIds identifier) devices identifier answer
            made) := by
  obtain ⟨answer, made, s', hrun, hremoves⟩ :=
    hsteady.exists_removesFirst hlength identifier past hs
  refine ⟨answer, made, s', hrun, hremoves, fun set d hmem => ?_, fun hidentifier hids => ?_⟩
  · exact (hremoves.of_mem_removals hmem).hasIdentity
  · exact hremoves.of_iff fun d hd => isNamed_iff_hasIdentity hidentifier (hids d hd)

/-- The second of two devices is asked for in another spelling. -/
theorem remove_run_of_steady_of_two :
    let host := hostWithIdentifiers ["{A}", "{b}"]
    ∃ answer made s',
      ((remove Host.system.traced "{B}").run []).run host = ((answer, made), s') ∧
        RemovesFirst Host.system (HasIdentity host.instanceId? "{B}") [⟨0⟩, ⟨1⟩] "{B}" answer
          made := by
  have hids : (hostWithIdentifiers ["{A}", "{b}"]).instanceId? ⟨0⟩ = some "{A}" ∧
      (hostWithIdentifiers ["{A}", "{b}"]).instanceId? ⟨1⟩ = some "{b}" := by decide +kernel
  obtain ⟨answer, made, s', hrun, -, -, hremoves⟩ :=
    remove_run_of_steady (calm_hostWithIdentifiers ["{A}", "{b}"]).steady (by decide) "{B}" []
      ⟨_, rfl⟩
  refine ⟨answer, made, s', hrun, hremoves (by decide) fun d hd found hfound => ?_⟩
  have hd : d = ⟨0⟩ ∨ d = ⟨1⟩ := List.mem_pair.1 hd
  rcases hd with rfl | rfl
  · rw [hids.1] at hfound
    obtain rfl := Option.some_inj.1 hfound
    decide
  · rw [hids.2] at hfound
    obtain rfl := Option.some_inj.1 hfound
    decide

/-- The only device of a system has the identity that is asked for, its identifier can be read, and
the removal does not find it. -/
theorem remove_run_of_capital :
    let host := hostWithIdentifiers ["{É}"]
    host.Calm ∧ host.numbered = [⟨0⟩] ∧ host.endError = .noMoreItems ∧
      host.instanceId? ⟨0⟩ = some "{É}" ∧ HasIdentity host.instanceId? "{é}" ⟨0⟩ ∧
      ∃ made s',
        ((remove Host.system.traced "{é}").run []).run host =
            ((.error (.notFound "{é}"), made), s') ∧
          made.removals = [] := by
  have hcalm := calm_hostWithIdentifiers ["{É}"]
  have hid : (hostWithIdentifiers ["{É}"]).instanceId? ⟨0⟩ = some "{É}" := by decide +kernel
  have hidentity : HasIdentity (hostWithIdentifiers ["{É}"]).instanceId? "{é}" ⟨0⟩ :=
    hasIdentity_iff.2 ⟨"{É}", hid, by decide +kernel⟩
  have hnone : ∀ d ∈ (hostWithIdentifiers ["{É}"]).numbered,
      ¬ Identification.Names "{é}" ⟨d, (hostWithIdentifiers ["{É}"]).instanceId? d⟩ := by
    rintro d hd ⟨found, hfound, hsame⟩
    obtain rfl : d = ⟨0⟩ := List.mem_singleton.1 hd
    obtain rfl := Option.some_inj.1 (hid.symm.trans hfound)
    exact absurd hsame (by decide)
  obtain ⟨s', hcourse⟩ := hcalm.steady.exists_removalRun_of_unknown (by decide) hnone ⟨_, rfl⟩
  obtain ⟨made, hrun, hsession⟩ := hcourse.run_traced []
  exact ⟨hcalm, rfl, rfl, hid, hidentity, made, s', hrun, hsession.removals⟩

end TapTracker.Windows
