import MeshScenes.Proofs.Manager.Programmed

/-!
# The levels that programming stores

All grouped members of a scene join the one group that a button has, and the group has one parameter
for a level. So the level that a controller remembers is right for the members at the highest level
only.
-/

namespace MeshScenes

/-- The group of the button has the member, and the controller remembers the level of the member for
it. -/
structure Keypad.Drives (k : Keypad) (b : ButtonId) (x : Member) : Prop where
  grouped : ∃ group, k.groups.get? b.byte = some group ∧ group.contains x.device = true
  level : k.parameters.get? b.byte = some x.value

def Scene.DrivesAll (s : Scene) (n : Network) : Prop :=
  ∀ c b, s.button? c = some b → ∀ x ∈ s.groupedMembers, ∃ k, n.keypad? c = some k ∧ k.Drives b x

theorem Scene.topLevel?_eq_some_iff {s : Scene} {x : Member} (hx : x ∈ s.groupedMembers) :
    s.topLevel? = some x.value ↔ ∀ y ∈ s.groupedMembers, y.value ≤ x.value := by
  unfold topLevel?
  rw [List.max?_eq_some_iff]
  constructor
  · intro h y hy
    exact h.2 y.value (List.mem_map_of_mem hy)
  · intro h
    refine ⟨List.mem_map_of_mem hx, fun v hv => ?_⟩
    obtain ⟨y, hy, rfl⟩ := List.mem_map.mp hv
    exact h y hy

namespace Keypad

theorem grouped_programmed (k : Keypad) (s : Scene) (coordinator : DeviceId) (b : ButtonId)
    {x : Member} (hx : x ∈ s.members) :
    ∃ group, (k.programmed s coordinator b).groups.get? b.byte = some group ∧
      group.contains x.device = true := by
  refine ⟨ByteSet.ofList (s.members.map (·.device) ++ [coordinator]), ?_, ?_⟩
  · exact (ByteMap.get?_insert _ _ _ _).trans (if_pos rfl)
  · have hmem : x.device ∈ s.members.map (·.device) ++ [coordinator] :=
      List.mem_append_left _ (List.mem_map_of_mem hx)
    unfold ByteMap.contains ByteSet.ofList
    rw [ByteSet.get?_addAll, if_pos hmem]
    rfl

theorem level_programmed (k : Keypad) (s : Scene) (coordinator : DeviceId) (b : ButtonId)
    {x : Member} (hx : x ∈ s.groupedMembers) :
    (k.programmed s coordinator b).parameters.get? b.byte = some x.value ↔ ∀ y ∈ s.groupedMembers,
      y.value ≤ x.value := by
  rw [← Scene.topLevel?_eq_some_iff hx]
  unfold programmed
  cases htop : s.topLevel? with
  | none =>
    -- There is a grouped member, so there is a highest level.
    unfold Scene.topLevel? at htop
    rw [List.max?_eq_none_iff, List.map_eq_nil_iff] at htop
    rw [htop] at hx
    cases hx
  | some level => simp [ByteMap.get?_insert]

end Keypad

namespace Manager

variable {m : Manager} {id : SceneId} {s : Scene}

/-- Programming a scene makes every grouped member join the groups of the scene's controllers, but a
controller remembers the level of a member exactly when no other is higher. So the controllers drive
all grouped members exactly when these have one level. -/
theorem programScene_drives_iff (h : Reachable Network.Gives m) (hs : m.scene? id = some s)
    {o : Outlet Network}
    (hkeypads : ∀ c b, s.button? c = some b → ∃ k, o.channel.keypad? c = some k) :
    ∃ summary o', programScene id (m, o) = .ok summary (m, o') ∧
      (∀ c b, s.button? c = some b → ∃ k, o'.channel.keypad? c = some k ∧ ∀ x ∈ s.groupedMembers,
        (∃ group, k.groups.get? b.byte = some group ∧ group.contains x.device = true) ∧
          (k.parameters.get? b.byte = some x.value ↔ ∀ y ∈ s.groupedMembers, y.value ≤ x.value)) ∧
      (s.DrivesAll o'.channel ↔
        s.controllers.isEmpty ∨ ∀ x ∈ s.groupedMembers, ∀ y ∈ s.groupedMembers,
          x.value = y.value) := by
  obtain ⟨summary, o', hrun, hchannel⟩ := h.run_programScene hs o
  have hnodes := (Network.sendAll_programFrames (h.recorded hs).distinct hkeypads m.coordinator).2
  rw [← hchannel] at hnodes
  have hprogrammed : ∀ c b, s.button? c = some b →
      ∃ k, o'.channel.keypad? c = some (Keypad.programmed k s m.coordinator b) := by
    intro c b hb
    obtain ⟨k, hk⟩ := hkeypads c b hb
    exact ⟨k, Network.keypad?_programmed hnodes hb hk⟩
  have hmember : ∀ x ∈ s.groupedMembers, x ∈ s.members := fun x hx => (List.mem_filter.mp hx).1
  refine ⟨summary, o', hrun, fun c b hb => ?_, ?_, ?_⟩
  · obtain ⟨k, hk⟩ := hprogrammed c b hb
    exact ⟨_, hk, fun x hx =>
      ⟨k.grouped_programmed s m.coordinator b (hmember x hx),
        k.level_programmed s m.coordinator b hx⟩⟩
  · intro hall
    by_cases hempty : s.controllers.isEmpty = true
    · exact .inl hempty
    · obtain ⟨c, b, hb⟩ := ByteMap.isEmpty_eq_false_iff.mp (Bool.not_eq_true _ ▸ hempty)
      refine .inr fun x hx y hy => ?_
      -- One parameter has the levels of both members.
      obtain ⟨k, hk, hdrives⟩ := hall c b hb x hx
      obtain ⟨k', hk', hdrives'⟩ := hall c b hb y hy
      rw [hk] at hk'
      cases hk'
      have hlevel := hdrives.level
      rw [hdrives'.level] at hlevel
      exact (Option.some.inj hlevel).symm
  · intro hequal c b hb x hx
    obtain ⟨k, hk⟩ := hprogrammed c b hb
    refine ⟨_, hk, k.grouped_programmed s m.coordinator b (hmember x hx),
      (k.level_programmed s m.coordinator b hx).mpr ?_⟩
    intro y hy
    rcases hequal with hempty | hequal
    · have hsome : s.controllers.isEmpty = false := ByteMap.isEmpty_eq_false_iff.mpr ⟨c, b, hb⟩
      rw [hsome] at hempty
      cases hempty
    · rw [hequal y hy x hx]
      exact UInt8.le_refl _

theorem demo_keypads_of_keys {s : Scene} (hkeys : s.controllers.keys = [⟨2⟩, ⟨3⟩]) :
    ∀ c b, s.button? c = some b → ∃ k, Network.demo.keypad? c = some k := by
  intro c b hb
  have hall : ∀ c ∈ [(⟨2⟩ : DeviceId), ⟨3⟩], (Network.demo.keypad? c).isSome = true := by
    decide +kernel
  apply Option.isSome_iff_exists.mp
  apply hall
  rw [← hkeys, ByteMap.mem_keys_iff]
  exact ByteMap.contains_iff.mpr ⟨b, hb⟩

/-- Of the members at 40 and at 99, the keypad remembers the level of the second. -/
theorem programScene_drives_iff_supper :
    ∃ m s, ∃ o : Outlet Network, Reachable Network.Gives m ∧ m.scene? ⟨7, by decide⟩ = some s ∧
      s.groupedMembers = [⟨⟨10⟩, 40, false⟩, ⟨⟨11⟩, 99, false⟩] ∧
      ∃ summary o', programScene ⟨7, by decide⟩ (m, o) = .ok summary (m, o') ∧
        (o'.channel.keypad? ⟨2⟩).bind (·.parameters.get? 1) = some 99 := by
  let m := (afterCalls Network.demo.directory supper).1
  have h : Reachable Network.Gives m := reachable_afterCalls gives_demo supper
  have hscene : (m.scene? ⟨7, by decide⟩).map
      (fun s => (s.button? ⟨2⟩, s.controllers.keys, s.groupedMembers)) =
      some (some ⟨1⟩, [⟨2⟩, ⟨3⟩], [⟨⟨10⟩, 40, false⟩, ⟨⟨11⟩, 99, false⟩]) := by decide +kernel
  clear_value m
  obtain ⟨s, hs, hfields⟩ := Option.map_eq_some_iff.mp hscene
  simp only [Prod.mk.injEq] at hfields
  obtain ⟨hbutton, hkeys, hgrouped⟩ := hfields
  obtain ⟨summary, o', hrun, hlevels, -⟩ :=
    programScene_drives_iff h hs (o := .opened Network.demo) (demo_keypads_of_keys hkeys)
  refine ⟨m, s, .opened Network.demo, h, hs, hgrouped, summary, o', hrun, ?_⟩
  obtain ⟨k, hk, hmembers⟩ := hlevels ⟨2⟩ ⟨1⟩ hbutton
  rw [hk, Option.bind_some]
  rw [hgrouped] at hmembers
  exact (hmembers ⟨⟨11⟩, 99, false⟩ (by decide)).2.mpr (by decide)

/-- The member at 40 is in the group, but the keypad sends it to 99. -/
theorem supper_not_drivesAll :
    ∃ m s, ∃ o : Outlet Network, Reachable Network.Gives m ∧ m.scene? ⟨7, by decide⟩ = some s ∧
      (∀ c b, s.button? c = some b → ∃ k, o.channel.keypad? c = some k) ∧
      ∃ summary o', programScene ⟨7, by decide⟩ (m, o) = .ok summary (m, o') ∧
      ¬ s.DrivesAll o'.channel := by
  let m := (afterCalls Network.demo.directory supper).1
  have h : Reachable Network.Gives m := reachable_afterCalls gives_demo supper
  have hscene : (m.scene? ⟨7, by decide⟩).map
      (fun s => (s.button? ⟨2⟩, s.controllers.keys, s.groupedMembers)) =
      some (some ⟨1⟩, [⟨2⟩, ⟨3⟩], [⟨⟨10⟩, 40, false⟩, ⟨⟨11⟩, 99, false⟩]) := by decide +kernel
  have hlevel :
      (((programScene ⟨7, by decide⟩).after (m, .opened Network.demo)).2.channel.keypad? ⟨2⟩).bind
        (·.parameters.get? 1) = some 99 := by decide +kernel
  clear_value m
  obtain ⟨s, hs, hfields⟩ := Option.map_eq_some_iff.mp hscene
  simp only [Prod.mk.injEq] at hfields
  obtain ⟨hbutton, hkeys, hgrouped⟩ := hfields
  obtain ⟨summary, o', hrun, -⟩ := h.run_programScene hs (.opened Network.demo)
  refine ⟨m, s, .opened Network.demo, h, hs, demo_keypads_of_keys hkeys, summary, o', hrun,
    fun hall => ?_⟩
  unfold Act.after at hlevel
  rw [hrun] at hlevel
  obtain ⟨k, hk, hdrives⟩ := hall ⟨2⟩ ⟨1⟩ hbutton ⟨⟨10⟩, 40, false⟩ (by rw [hgrouped]; decide)
  rw [hk, Option.bind_some] at hlevel
  have hforty := hdrives.level
  rw [show (⟨1⟩ : ButtonId).byte = 1 from rfl, hlevel] at hforty
  exact absurd hforty (by decide)

end Manager

end MeshScenes
