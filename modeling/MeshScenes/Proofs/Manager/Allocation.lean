import MeshScenes.Proofs.Manager.Restoring

/-!
# Scene ids

Which id a new scene gets, or why it gets none. Whether there is room is decided by the number of
scenes, and the search goes through the ids; `exists_free_iff`: an id is free exactly while there is
room.
-/

namespace MeshScenes

/-! ## Free ids -/

namespace SceneId

theorem ascending_all : all.Pairwise fun a b => a.byte < b.byte := by
  unfold all
  rw [List.pairwise_filterMap]
  apply ascending_bytes.imp
  intro m n hlt a ha b hb
  rwa [ofByte?_eq_some_iff.mp ha, ofByte?_eq_some_iff.mp hb]

theorem nodup_all : all.Nodup := by
  apply ascending_all.imp
  intro a b hlt heq
  rw [heq] at hlt
  exact UInt8.lt_irrefl _ hlt

theorem exists_toUInt32_eq {number : UInt32} (h0 : number ≠ 0) (hle : number ≤ 255) :
    ∃ id : SceneId, id.byte.toUInt32 = number := by
  obtain ⟨b, rfl⟩ := exists_byte hle
  exact ⟨⟨b, fun hb => h0 (by rw [hb]; rfl)⟩, rfl⟩

end SceneId

section
variable {α : Type} (m : ByteMap SceneId α)

theorem size_le_maxScenes : m.size ≤ maxScenes := by
  have hlength := (List.subperm_of_subset m.nodup_keys fun k _ => SceneId.mem_all k).length_le
  have hkeys : m.keys.length = m.size := List.length_map _
  rwa [SceneId.length_all, hkeys] at hlength

theorem exists_free_iff : (∃ id, m.get? id = none) ↔ m.size < maxScenes := by
  constructor
  · intro ⟨id, hid⟩
    exact size_lt_maxScenes hid
  · intro hlt
    by_contra hall
    have hsub : SceneId.all ⊆ m.keys := by
      intro id _
      by_contra hid
      rw [ByteMap.mem_keys_iff, Bool.not_eq_true, ByteMap.contains_eq_false_iff] at hid
      exact hall ⟨id, hid⟩
    have hlength := (List.subperm_of_subset SceneId.nodup_all hsub).length_le
    have hkeys : m.keys.length = m.size := List.length_map _
    rw [SceneId.length_all, hkeys] at hlength
    omega

end

namespace Manager

variable {m : Manager} {number : UInt32} {id : SceneId}

theorem full_iff : m.scenes.size = maxScenes ↔ ∀ id, ∃ s, m.scene? id = some s := by
  have hle := size_le_maxScenes m.scenes
  have hfree := exists_free_iff m.scenes
  constructor
  · intro hfull id
    rw [← Option.ne_none_iff_exists']
    intro hid
    have := hfree.mp ⟨id, hid⟩
    omega
  · intro hall
    have : ¬ m.scenes.size < maxScenes := by
      rw [← hfree]
      intro ⟨id, hid⟩
      obtain ⟨s, hs⟩ := hall id
      unfold scene? at hs
      rw [hid] at hs
      cases hs
    omega

theorem lowestUnusedId?_eq_some_iff :
    m.lowestUnusedId? = some id ↔
      m.scene? id = none ∧ ∀ other, other.byte < id.byte → ∃ s, m.scene? other = some s := by
  unfold lowestUnusedId?
  rw [List.find?_eq_some_iff_append]
  simp only [Bool.not_eq_true', ByteMap.contains_eq_false_iff, Bool.not_not, ByteMap.contains_iff]
  have hascending := SceneId.ascending_all
  refine and_congr_right fun _ => ⟨?_, fun hless => ?_⟩
  · intro ⟨before, after, hall, hbefore⟩ other hlt
    have hmem := SceneId.mem_all other
    rw [hall] at hmem hascending
    rcases List.mem_append.mp hmem with hmem | hmem
    · exact hbefore other hmem
    · -- What is not before the id is the id, or greater.
      exfalso
      rcases List.mem_cons.mp hmem with rfl | hmem
      · exact UInt8.lt_irrefl _ hlt
      · have hgt := (List.pairwise_cons.mp (List.pairwise_append.mp hascending).2.1).1 other hmem
        exact UInt8.lt_irrefl _ (UInt8.lt_trans hlt hgt)
  · obtain ⟨before, after, hall⟩ := List.append_of_mem (SceneId.mem_all id)
    rw [hall] at hascending
    refine ⟨before, after, hall, fun other hother => hless other ?_⟩
    exact (List.pairwise_append.mp hascending).2.2 other hother id List.mem_cons_self

/-- The answer to a request for a scene id. A number that is no scene's is refused first, then every
request while no id is free, then an id in use; number 0 stands for the lowest id that is free. -/
inductive Allots (m : Manager) (number : UInt32) : Except Error SceneId → Prop where
  | outOfRange : 255 < number → Allots m number (.error (.validation (.sceneIdOutOfRange number)))
  | full : number ≤ 255 → (∀ id, ∃ s, m.scene? id = some s) → Allots m number (.error .capacity)
  | inUse {id free : SceneId} {s : Scene} : id.byte.toUInt32 = number → m.scene? free = none →
    m.scene? id = some s →
      Allots m number (.error (.validation (.sceneIdInUse id)))
  | requested {id : SceneId} : id.byte.toUInt32 = number → m.scene? id = none →
    Allots m number (.ok id)
  | lowest {id : SceneId} : number = 0 → m.scene? id = none →
      (∀ other, other.byte < id.byte → ∃ s, m.scene? other = some s) → Allots m number (.ok id)

theorem exists_allots (m : Manager) (number : UInt32) : ∃ r, m.Allots number r := by
  by_cases hrange : 255 < number
  · exact ⟨_, .outOfRange hrange⟩
  have hle := UInt32.not_lt.mp hrange
  by_cases hall : ∀ id, ∃ s, m.scene? id = some s
  · exact ⟨_, .full hle hall⟩
  obtain ⟨free, hfree⟩ : ∃ free, m.scene? free = none := by
    by_contra hnone
    exact hall fun id => Option.ne_none_iff_exists'.mp fun hid => hnone ⟨id, hid⟩
  by_cases h0 : number = 0
  · cases hlowest : m.lowestUnusedId? with
    | none =>
      have hused := List.find?_eq_none.mp hlowest free (SceneId.mem_all free)
      rw [ByteMap.contains_eq_false_iff.mpr hfree] at hused
      exact absurd rfl hused
    | some id =>
      obtain ⟨hid, hless⟩ := lowestUnusedId?_eq_some_iff.mp hlowest
      exact ⟨_, .lowest h0 hid hless⟩
  · obtain ⟨id, hid⟩ := SceneId.exists_toUInt32_eq h0 hle
    cases hs : m.scene? id with
    | none => exact ⟨_, .requested hid hs⟩
    | some s => exact ⟨_, .inUse hid hfree hs⟩

variable {χ : Type}

theorem run_of_allots (name : String) (o : Outlet χ) (r : Except Error SceneId) :
    m.Allots number r →
    newSceneWithId number name (m, o) = match r with
      | .ok id => .ok id (m.withScene (Scene.new id name),
        o.note (.info "scene created" [("scene", .show id)]))
      | .error e => .error e (m, o) := by
  intro h
  have hroom : ∀ {free : SceneId}, m.scene? free = none → ¬ maxScenes ≤ m.scenes.size :=
    fun hfree =>
    Nat.not_le.mpr (size_lt_maxScenes hfree)
  unfold newSceneWithId
  cases h with
  | outOfRange hgt =>
    have h0 : number ≠ 0 := by rintro rfl; cases hgt
    have hid : SceneId.ofNumber number = .error (.sceneIdOutOfRange number) :=
      if_neg (UInt32.not_le.mpr hgt)
    simp [h0, hid, Act.run_bind, Except.mapError]
  | full hle hall =>
    have hsize : m.scenes.size = maxScenes := full_iff.mpr hall
    by_cases h0 : number = 0
    · simp [h0, hsize, Act.run_bind]
    · obtain ⟨id, rfl⟩ := SceneId.exists_toUInt32_eq h0 hle
      simp [h0, hsize, SceneId.ofNumber_toUInt32, Act.run_bind, Except.mapError]
  | @inUse id _ s hid hfree hs =>
    subst hid
    have hcontains : m.scenes.contains id = true := ByteMap.contains_iff.mpr ⟨s, hs⟩
    simp [id.toUInt32_ne_zero, hroom hfree, hcontains, SceneId.ofNumber_toUInt32, Act.run_bind,
      Except.mapError]
  | @requested id hid hfree =>
    subst hid
    exact run_newSceneWithId_of_free hfree name o
  | @lowest id h0 hfree hless =>
    have hlowest : m.lowestUnusedId? = some id := lowestUnusedId?_eq_some_iff.mpr ⟨hfree, hless⟩
    simp [h0, hroom hfree, hlowest, Act.run_bind]
    rfl

/-- A request for a scene id is answered as the number and the ids in use say. Where it succeeds one
scene is added under the id that is the answer, with the name and nothing else, and where it fails
nothing is changed. There are 255 scenes exactly when every id is in use, and never more. -/
theorem newScene_allots (m : Manager) (number : UInt32) (name : String) (o : Outlet χ) :
    (∀ r, (newSceneWithId number name).answer (m, o) = r ↔ m.Allots number r) ∧
      (∀ id, (newSceneWithId number name).answer (m, o) = .ok id →
        ((newSceneWithId number name).after (m, o)).1 =
          { m with scenes := m.scenes.insert id ⟨id, name, default, true, [], ByteMap.empty⟩ }) ∧
      (∀ e, (newSceneWithId number name).answer (m, o) = .error e →
        (newSceneWithId number name).after (m, o) = (m, o)) ∧
      (m.scenes.size = 255 ↔ ∀ id, ∃ s, m.scene? id = some s) ∧ m.scenes.size ≤ 255 := by
  have hanswer : ∀ r, m.Allots number r → (newSceneWithId number name).answer (m, o) = r := by
    intro r hr
    unfold Act.answer
    rw [run_of_allots name o r hr]
    cases r <;> rfl
  obtain ⟨r, hr⟩ := m.exists_allots number
  refine ⟨fun r' => ⟨?_, hanswer r'⟩, fun id hid => ?_, fun e he => ?_, full_iff,
    size_le_maxScenes _⟩
  · rintro rfl
    rwa [hanswer r hr]
  · rw [hanswer r hr] at hid
    subst hid
    unfold Act.after
    rw [run_of_allots name o _ hr]
    rfl
  · rw [hanswer r hr] at he
    subst he
    unfold Act.after
    rw [run_of_allots name o _ hr]

end Manager

end MeshScenes
