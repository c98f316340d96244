import MeshScenes.Proofs.Programming

/-!
# The phases of programming

What programming sends, for any scene and any registry: nothing if one of the checks fails, and
otherwise one list of frames up to the first that is refused. What the list is made of is read off
the members and the registered controllers alone.
-/

namespace MeshScenes

namespace Scene

/-! ## The frames -/

section
variable (s : Scene)

def levels : List UInt8 :=
  ((List.range 256).map UInt8.ofNat).filter fun v => s.groupedMembers.any (·.value = v)

def atLevel (v : UInt8) : List DeviceId := (s.groupedMembers.filter (·.value = v)).map (·.device)

def stations (r : Registry) : List (DeviceId × ButtonId) :=
  s.controllers.toList.filterMap fun e => (r.get? e.1).map fun c => (c.device, e.2)

/-- The frames of the four phases. -/
def phases (r : Registry) (coordinator : DeviceId) : List OutboundFrame :=
  s.phaseFrames coordinator (s.stations r) (s.levels.map fun v => (v, s.atLevel v))

theorem mem_levels_iff (v : UInt8) : v ∈ s.levels ↔ s.groupedMembers.filter (·.value = v) ≠ [] := by
  have hbyte : v ∈ (List.range 256).map UInt8.ofNat :=
    List.mem_map.mpr ⟨v.toNat, List.mem_range.mpr v.toNat_lt, UInt8.ofNat_toNat⟩
  unfold levels
  rw [List.mem_filter, and_iff_right hbyte, List.any_eq_true, Ne, List.filter_eq_nil_iff]
  simp

theorem ascending_levels : s.levels.Pairwise fun v w => ByteKey.rank v < ByteKey.rank w := by
  apply List.Pairwise.filter
  exact ascending_bytes.imp UInt8.lt_iff_toNat_lt.mp

theorem toList_levelGroups : s.levelGroups.toList = s.levels.map fun v => (v, s.atLevel v) := by
  have hascending : (s.levels.map fun v => (v, s.atLevel v)).Pairwise fun a b =>
    ByteKey.rank a.1 < ByteKey.rank b.1 :=
    List.pairwise_map.mpr s.ascending_levels
  have hgroups : s.levelGroups = ⟨_, hascending⟩ := by
    apply ByteMap.ext_get?
    intro v
    apply Option.ext
    intro devices
    rw [get?_levelGroups, ByteMap.get?_eq_some_iff, List.mem_map]
    by_cases hv : s.groupedMembers.filter (·.value = v) = []
    · have hnot : v ∉ s.levels := fun hmem => (s.mem_levels_iff v).mp hmem hv
      simp [hv, hnot]
    · have hmem : v ∈ s.levels := (s.mem_levels_iff v).mpr hv
      simp [hv, hmem, atLevel]
  rw [hgroups]

variable {s} {r : Registry} {l : List (Controller × ButtonId)}

theorem stations_of_found (hl : s.Found r l) : s.stations r = l.map fun x => (x.1.device, x.2) := by
  unfold Found at hl
  unfold stations
  generalize s.controllers.toList = es at hl
  induction hl with
  | nil => rfl
  | cons hx _ ih =>
    obtain ⟨-, hc, -, hbutton⟩ := hx
    simp only [List.filterMap_cons, hc, Option.map_some, List.map_cons, ih, hbutton]

def summary (s : Scene) : ProgramSummary :=
  ⟨s.controllers.size, 2 * s.controllers.size * s.levels.length, 2 * s.controllers.size,
    s.capableMembers.length⟩

theorem summary_planFor (hl : s.Found r l) (coordinator : DeviceId) :
    (⟨(s.planFor l coordinator).resets.length, (s.planFor l coordinator).grouped.length,
      (s.planFor l coordinator).controllers.length, (s.planFor l coordinator).capable.length⟩ :
        ProgramSummary) =
      s.summary := by
  have hsize : s.controllers.size = l.length := hl.length_eq.symm
  unfold summary planFor
  rw [hsize, toList_levelGroups]
  simp only [List.length_map, List.length_flatMap, List.length_cons, List.length_nil,
    List.map_const', List.map_map, Function.comp_def, List.sum_replicate_nat,
    ProgramSummary.mk.injEq, true_and, and_true]
  constructor
  · rw [Nat.mul_comm l.length, Nat.mul_comm]
  · exact Nat.mul_comm _ _

variable {σ χ : Type} [Channel χ]

theorem transmits_phases {coordinator : DeviceId}
    (hplan : s.plan r coordinator = .ok (s.planFor l coordinator)) (hl : s.Found r l) :
    (s.program r coordinator : Act σ χ ProgramSummary).Transmits
      (s.phases r coordinator) s.summary := by
  have hstations : List.Forall₂ (fun x e => x.1.device = e.1 ∧ x.2 = e.2) l (s.stations r) := by
    rw [stations_of_found hl, List.forall₂_map_right_iff, List.forall₂_same]
    exact fun x _ => ⟨rfl, rfl⟩
  have htransmits : (s.program r coordinator : Act σ χ ProgramSummary).Transmits _ _ :=
    transmits_program hplan hstations
  rw [toList_levelGroups, summary_planFor hl coordinator] at htransmits
  exact htransmits

/-- Whatever the scene, the registry and the channel are: where something is in the way of
programming, it fails for such a reason, and nothing is sent; otherwise the frames of the four
phases are sent, all of them or those before the first that is refused. -/
theorem program_phases (s : Scene) (r : Registry) (coordinator : DeviceId) :
    ((∃ e, s.Obstacle r e) →
      ∃ e, s.Obstacle r e ∧ ∀ t : σ × Outlet χ, s.program r coordinator t = .error e t) ∧
    ((∀ e, ¬ s.Obstacle r e) →
      (s.program r coordinator : Act σ χ ProgramSummary).Transmits
        (s.phases r coordinator) s.summary) := by
  rcases s.plan_spec r coordinator with ⟨l, hplan, hl, hprograms⟩ | ⟨e, hplan, he⟩
  · constructor
    · rintro ⟨e, he⟩
      exact (he.absurd hl hprograms).elim
    · exact fun _ => transmits_phases hplan hl
  · constructor
    · refine fun _ => ⟨e, he, fun t => ?_⟩
      unfold program
      rw [hplan]
      rfl
    · exact fun hnone => absurd he (hnone e)

/-- Two levels, one controller, one member that stores scenes. -/
example : phases ⟨⟨7, by decide⟩, "supper", ⟨3⟩, true,
    [⟨⟨10⟩, 40, false⟩, ⟨⟨11⟩, 9, false⟩, ⟨⟨12⟩, 50, true⟩, ⟨⟨13⟩, 40, false⟩],
      ByteMap.empty.insert ⟨2⟩ ⟨4⟩⟩ (ByteMap.empty.insert ⟨2⟩ (.new ⟨2⟩)) ⟨1⟩ =
    [⟨⟨2⟩, .association, [4, 4]⟩,
      ⟨⟨2⟩, .association, [1, 4, 11]⟩, ⟨⟨2⟩, .configuration, [4, 4, 1, 9]⟩,
      ⟨⟨2⟩, .association, [1, 4, 10, 13]⟩, ⟨⟨2⟩, .configuration, [4, 4, 1, 40]⟩,
      ⟨⟨2⟩, .sceneControllerConf, [1, 4, 7, 3]⟩, ⟨⟨2⟩, .association, [1, 4, 12, 1]⟩,
      ⟨⟨12⟩, .sceneActuatorConf, [1, 7, 3, 0x80, 50]⟩] := by decide +kernel

end

end Scene

end MeshScenes
