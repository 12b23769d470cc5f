import TapTracker.Proofs.Simulation.Host
import TapTracker.Proofs.Windows.Steady

/-!
# Removing what has been enumerated

An enumeration and a removal walk through the same devices, but pass over different ones: the
enumeration asks for a description that belongs to the class, the removal does not.  `remove_run`
tells which device a removal is called for: on any system the first one on its walk that has the
identifier, and on a steady system, whose devices have different identifiers, the device that an
enumerated record has been made from.
-/

namespace TapTracker.Windows

open Simulation

/-- A removal calls for the removal of one device at most, the first one on its walk that has the
identifier, and comes to what this call answers; if the set cannot be opened or the walk fails
before it has met such a device, it comes to this error, and it has not found the device only if the
walk has come to its end.  If the system is steady and its instance identifiers differ, every
enumerated record is removed by the removal of the device that it has been made from. -/
theorem remove_run {σ : Type} (sys : System (StateM σ)) :
    (∀ identifier past s, ∃ answer made s',
      ((remove sys.traced identifier).run past).run s = ((answer, past ++ made), s') ∧
      RemovalRun sys identifier s answer made.removals s' ∧
      ∀ answer' removed' s'', RemovalRun sys identifier s answer' removed' s'' →
        answer' = answer ∧ removed' = made.removals ∧ s'' = s') ∧
    ∀ {Holds : σ → Prop} {devices : List Device} {ended : SystemError}
      {instanceIds : Device → Option String},
      Steady sys Holds devices ended instanceIds → IdentifiersDiffer devices instanceIds →
      ∀ cls s records s', Holds s → (enumerate sys cls).run s = (.ok records, s') →
        Holds s' ∧ ∃ visits, Lists sys cls s visits s' ∧
          records = visits.filterMap (·.record cls) ∧ visits.map (·.device) <+: devices ∧
          ∀ v ∈ visits, ∀ a, v.record cls = some a →
            instanceIds v.device = some a.identifier ∧ ∀ past t, Holds t →
              ∃ set r r' removed made t', (sys.removeDevice set v.device).run r = (removed, r') ∧
                ((remove sys.traced a.identifier).run past).run t =
                  ((removed.mapError .system, past ++ made), t') ∧
                made.removals = [(set, v.device)] := by
  constructor
  · intro identifier past s
    obtain ⟨answer, removed, s', hcourse⟩ := exists_removalRun sys identifier s
    obtain ⟨made, hrun, hsession⟩ := hcourse.run_traced past
    obtain rfl := hsession.removals
    refine ⟨answer, made, s', hrun, hcourse, fun answer' removed' s'' hcourse' => ?_⟩
    obtain ⟨made', hrun', hsession'⟩ := hcourse'.run_traced past
    obtain ⟨htraced, hstate⟩ := Prod.mk.inj (hrun'.symm.trans hrun)
    obtain ⟨hanswer, htrace⟩ := Prod.mk.inj htraced
    obtain rfl := List.append_cancel_left htrace
    exact ⟨hanswer, hsession'.removals.symm, hstate⟩
  · intro Holds devices ended instanceIds hsteady hdiffer cls s records s' hs hrun
    have hcourse : EnumerationRun sys cls s (.ok records) s' := run_enumerate_iff.1 hrun
    cases hcourse with
    | @listed visits _ hlists =>
      obtain ⟨hs', hdevices, hremoved⟩ := hsteady.exists_removalRun_of_lists hdiffer hlists hs
      refine ⟨hs', visits, hlists, rfl, hdevices, fun v hv a ha => ?_⟩
      obtain ⟨hid, hremoval⟩ := hremoved v hv a ha
      refine ⟨hid, fun past t ht => ?_⟩
      obtain ⟨set, r, r', removed, t', hremove, hremoval⟩ := hremoval t ht
      obtain ⟨made, htraced, hsession⟩ := hremoval.run_traced past
      exact ⟨set, r, r', removed, made, t', hremove, htraced, hsession.removals⟩

/-- A host with a device that cannot be identified and two others. -/
def hostWithThree : Host :=
  { Host.empty with
    devices :=
      [(0, ⟨.ofText "TAP", .missing, none, none, none, none⟩),
       (1, ⟨.ofText "TAP", .missing, some "{B}", none, none, none⟩),
       (2, ⟨.missing, .ofText "TAP", some "{a}", none, none, none⟩)]
    nextNumber := 3 }

/-- The host with three devices is calm. -/
lemma calm_hostWithThree : hostWithThree.Calm where
  classFault := rfl
  openKeys := rfl
  numbers := by decide
  indexFault := by decide
  asks := by
    have hasks : ∀ d ∈ hostWithThree.devices,
        d.2.friendlyName.asks = [] ∧ d.2.description.asks = [] := by decide
    intro d hd property
    cases property with
    | friendlyName => exact (hasks d hd).1
    | description => exact (hasks d hd).2

/-- The instance identifiers of the three devices. -/
lemma instanceId?_hostWithThree :
    hostWithThree.instanceId? ⟨0⟩ = none ∧ hostWithThree.instanceId? ⟨1⟩ = some "{B}" ∧
      hostWithThree.instanceId? ⟨2⟩ = some "{a}" := by
  decide +kernel

/-- The last of three devices is the one that its identifier removes. -/
theorem remove_run_of_three :
    let cls : AdapterClass := ⟨⟨"", .empty⟩⟩
    Steady Host.system hostWithThree.SameButHandles [⟨0⟩, ⟨1⟩, ⟨2⟩] .noMoreItems
      hostWithThree.instanceId? ∧
    IdentifiersDiffer [⟨0⟩, ⟨1⟩, ⟨2⟩] hostWithThree.instanceId? ∧
    (∃ s', (enumerate Host.system cls).run hostWithThree =
      (.ok [⟨"{B}", "TAP", ""⟩, ⟨"{a}", "TAP", ""⟩], s')) ∧
    ∃ answer set made t', ((remove Host.system.traced "{a}").run []).run hostWithThree =
        ((answer, made), t') ∧
      made.removals = [(set, ⟨2⟩)] := by
  intro cls
  have hsteady : Steady Host.system hostWithThree.SameButHandles [⟨0⟩, ⟨1⟩, ⟨2⟩] .noMoreItems
      hostWithThree.instanceId? := calm_hostWithThree.steady
  obtain ⟨hid₀, hid₁, hid₂⟩ := instanceId?_hostWithThree
  have hdiffer : IdentifiersDiffer [⟨0⟩, ⟨1⟩, ⟨2⟩] hostWithThree.instanceId? := by
    have hother : ¬ Text.EqIgnoringAsciiCase "{B}" "{a}" := by decide
    simp [IdentifiersDiffer, hid₀, hid₁, hid₂, hother]
  have hrecords : ((enumerate Host.system cls).run hostWithThree).1.toOption =
      some [⟨"{B}", "TAP", ""⟩, ⟨"{a}", "TAP", ""⟩] := by decide +kernel
  obtain ⟨s', hrun⟩ : ∃ s', (enumerate Host.system cls).run hostWithThree =
      (.ok [⟨"{B}", "TAP", ""⟩, ⟨"{a}", "TAP", ""⟩], s') := by
    cases hanswer : (enumerate Host.system cls).run hostWithThree with
    | mk answer s' =>
      rw [hanswer] at hrecords
      cases answer with
      | error e => cases hrecords
      | ok records => exact ⟨s', by rw [Option.some_inj.1 hrecords]⟩
  have hs : hostWithThree.SameButHandles hostWithThree := ⟨_, rfl⟩
  obtain ⟨-, visits, -, hvisits, ⟨rest, hdevices⟩, hremoved⟩ :=
    (remove_run Host.system).2 hsteady hdiffer cls hostWithThree _ s' hs hrun
  have hmem : (⟨"{a}", "TAP", ""⟩ : TapAdapter) ∈ visits.filterMap (·.record cls) := by
    rw [← hvisits]
    exact List.mem_cons_of_mem _ List.mem_cons_self
  obtain ⟨v, hv, hrecord⟩ := List.mem_filterMap.1 hmem
  obtain ⟨hid, hremoval⟩ := hremoved v hv _ hrecord
  have hdevice : v.device = ⟨2⟩ := by
    have hv_mem : v.device ∈ visits.map (·.device) ++ rest :=
      List.mem_append_left _ (List.mem_map_of_mem hv)
    rw [hdevices] at hv_mem
    simp only [List.mem_cons, List.not_mem_nil, or_false] at hv_mem
    rcases hv_mem with hv₀ | hv₁ | hv₂
    · rw [hv₀, hid₀] at hid
      cases hid
    · rw [hv₁, hid₁] at hid
      exact absurd (Option.some_inj.1 hid) (by decide)
    · exact hv₂
  rw [hdevice] at hremoval
  obtain ⟨set, _, _, removed, made, t', -, htraced, hmade⟩ := hremoval [] hostWithThree hs
  exact ⟨hsteady, hdiffer, ⟨s', hrun⟩, _, set, made, t', htraced, hmade⟩

end TapTracker.Windows
