import MeshScenes.Manager.Basic
import MeshScenes.Proofs.Channel

/-!
# The index and the registry

`Keyed` says that the registry and the index know the same controllers, each with a button. Entering
a button needs the controller in the registry; taking one out forgets the controller when it was its
last, so that `Keyed` is never lost.
-/

namespace MeshScenes.Manager

/-- The registry and the index agree on a controller. -/
def KeyedAt (m : Manager) (c : DeviceId) : Prop :=
  m.controllers.contains c = m.uses c ∧ m.index.contains c = m.uses c

def Keyed (m : Manager) : Prop := ∀ c, m.KeyedAt c

theorem uses_iff {m : Manager} {c : DeviceId} :
    m.uses c = true ↔ ∃ b id, m.sceneForButton? c b = some id := by
  unfold uses sceneForButton?
  cases m.index.get? c with
  | none => simp
  | some buttons =>
    simp only [Bool.not_eq_eq_eq_not, Bool.not_true, Option.bind_eq_bind, Option.bind_some]
    exact ByteMap.isEmpty_eq_false_iff

theorem uses_congr {m n : Manager} {c : DeviceId}
    (h : ∀ b, m.sceneForButton? c b = n.sceneForButton? c b) :
    m.uses c = n.uses c := by
  rw [Bool.eq_iff_iff, uses_iff, uses_iff]
  simp only [h]

/-! ## Forgetting controllers -/

@[simp] theorem scenes_release (m : Manager) (c : DeviceId) : (m.release c).scenes = m.scenes := by
  unfold release; split <;> rfl

@[simp] theorem buttonCount_release (m : Manager) (c : DeviceId) :
    (m.release c).buttonCount = m.buttonCount := by
  unfold release; split <;> rfl

theorem get?_controllers_release (m : Manager) (c d : DeviceId) :
    (m.release c).controllers.get? d =
      if d = c ∧ m.uses c = false then none else m.controllers.get? d := by
  unfold release
  by_cases h : m.uses c = true
  · simp [h]
  · simp [h, ByteMap.get?_erase]

theorem get?_controllers_of_release {m : Manager} {c d : DeviceId} {x : Controller}
    (h : (m.release c).controllers.get? d = some x) : m.controllers.get? d = some x := by
  rw [get?_controllers_release] at h
  split at h
  · cases h
  · exact h

theorem get?_index_release (m : Manager) (c d : DeviceId) :
    (m.release c).index.get? d = if d = c ∧ m.uses c = false then none else m.index.get? d := by
  unfold release
  by_cases h : m.uses c = true
  · simp [h]
  · simp [h, ByteMap.get?_erase]

@[simp] theorem sceneForButton?_release (m : Manager) (c d : DeviceId) (b : ButtonId) :
    (m.release c).sceneForButton? d b = m.sceneForButton? d b := by
  unfold sceneForButton?
  rw [get?_index_release]
  split
  next h =>
    obtain ⟨rfl, h⟩ := h
    cases hb : m.sceneForButton? d b with
    | none => exact hb.symm
    | some id => rw [uses_iff.mpr ⟨b, id, hb⟩] at h; cases h
  next => rfl

@[simp] theorem uses_release (m : Manager) (c d : DeviceId) : (m.release c).uses d = m.uses d :=
  uses_congr fun b => sceneForButton?_release m c d b

theorem keyed_release {m : Manager} {c : DeviceId} (h : ∀ d, d ≠ c → m.KeyedAt d)
    (hc : m.uses c = true → m.controllers.contains c = true) : (m.release c).Keyed := by
  intro d
  unfold KeyedAt ByteMap.contains
  rw [get?_controllers_release, get?_index_release, uses_release]
  by_cases hd : d = c
  · subst hd
    cases hu : m.uses d with
    | false => simp
    | true =>
      refine ⟨by simpa [ByteMap.contains] using hc hu, ?_⟩
      obtain ⟨b, id, hb⟩ := uses_iff.mp hu
      unfold sceneForButton? at hb
      cases hi : m.index.get? d with
      | none => rw [hi] at hb; cases hb
      | some _ => simp
  · have hk := h d hd
    unfold KeyedAt ByteMap.contains at hk
    simpa [hd] using hk

/-! ## Taking buttons out -/

def unindexed (m : Manager) (c : DeviceId) (b : ButtonId) : Manager := (m.leaveButton c b).release c

theorem sceneForButton?_unindexed (m : Manager) (c d : DeviceId) (b e : ButtonId) :
    (m.unindexed c b).sceneForButton? d e = if d = c ∧ e = b then none
      else m.sceneForButton? d e := by
  rw [unindexed, sceneForButton?_release, sceneForButton?_leaveButton]

@[simp] theorem scenes_unindexed (m : Manager) (c : DeviceId) (b : ButtonId) :
    (m.unindexed c b).scenes = m.scenes := scenes_release _ c

@[simp] theorem buttonCount_unindexed (m : Manager) (c : DeviceId) (b : ButtonId) :
    (m.unindexed c b).buttonCount = m.buttonCount := buttonCount_release _ c

theorem get?_controllers_unindexed {m : Manager} {c d : DeviceId} {b : ButtonId} {x : Controller}
    (h : (m.unindexed c b).controllers.get? d = some x) : m.controllers.get? d = some x :=
  get?_controllers_of_release (m := m.leaveButton c b) h

theorem keyed_unindexed {m : Manager} (h : m.Keyed) (c : DeviceId) (b : ButtonId) :
    (m.unindexed c b).Keyed := by
  have hs : ∀ d e, (m.leaveButton c b).sceneForButton? d e =
      if d = c ∧ e = b then none else m.sceneForButton? d e :=
        fun d e => sceneForButton?_leaveButton m c d b e
  refine keyed_release (fun d hd => ?_) fun hu => ?_
  · have hu : (m.leaveButton c b).uses d = m.uses d := uses_congr fun e => by
      rw [hs, if_neg (by simp [hd])]
    have hi : (m.leaveButton c b).index.contains d = m.index.contains d := by
      simp [leaveButton, ByteMap.contains, ByteMap.get?_modify, hd]
    exact ⟨by rw [hu]; exact (h d).1, by rw [hu, hi]; exact (h d).2⟩
  · obtain ⟨e, id, he⟩ := uses_iff.mp hu
    rw [hs] at he
    split at he
    · cases he
    · show m.controllers.contains c = true
      rw [(h c).1]
      exact uses_iff.mpr ⟨e, id, he⟩

def unindexAll (m : Manager) (es : List (DeviceId × ButtonId)) : Manager :=
  es.foldl (fun m e => m.unindexed e.1 e.2) m

theorem sceneForButton?_unindexAll (m : Manager) (es : List (DeviceId × ButtonId)) (d : DeviceId)
    (e : ButtonId) :
    (m.unindexAll es).sceneForButton? d e = if (d, e) ∈ es then none
      else m.sceneForButton? d e := by
  unfold unindexAll
  induction es generalizing m with
  | nil => simp
  | cons x es ih =>
    rw [List.foldl_cons, ih, sceneForButton?_unindexed]
    by_cases hx : (d, e) = x
    · subst hx; simp
    · have hx' : ¬ (d = x.1 ∧ e = x.2) := fun h => hx (Prod.ext h.1 h.2)
      simp [hx, hx']

@[simp] theorem scenes_unindexAll (m : Manager) (es : List (DeviceId × ButtonId)) :
    (m.unindexAll es).scenes = m.scenes := by
  unfold unindexAll
  induction es generalizing m with
  | nil => rfl
  | cons x es ih => rw [List.foldl_cons, ih, scenes_unindexed]

@[simp] theorem buttonCount_unindexAll (m : Manager) (es : List (DeviceId × ButtonId)) :
    (m.unindexAll es).buttonCount = m.buttonCount := by
  unfold unindexAll
  induction es generalizing m with
  | nil => rfl
  | cons x es ih => rw [List.foldl_cons, ih, buttonCount_unindexed]

theorem get?_controllers_unindexAll {m : Manager} {es : List (DeviceId × ButtonId)} {d : DeviceId}
    {x : Controller} (h : (m.unindexAll es).controllers.get? d = some x) :
    m.controllers.get? d = some x := by
  unfold unindexAll at h
  induction es generalizing m with
  | nil => exact h
  | cons e es ih => exact get?_controllers_unindexed (ih h)

theorem get?_controllers_unindexed_of_uses {m : Manager} {c d : DeviceId} {b : ButtonId}
    (h : (m.unindexed c b).uses d = true) :
    (m.unindexed c b).controllers.get? d = m.controllers.get? d := by
  unfold unindexed at h ⊢
  rw [uses_release] at h
  rw [get?_controllers_release, if_neg]
  · rfl
  · rintro ⟨rfl, hu⟩
    rw [h] at hu
    cases hu

theorem get?_controllers_unindexAll_of_uses {m : Manager} {es : List (DeviceId × ButtonId)}
    {d : DeviceId} (h : (m.unindexAll es).uses d = true) :
    (m.unindexAll es).controllers.get? d = m.controllers.get? d := by
  induction es generalizing m with
  | nil => rfl
  | cons e es ih =>
    have hfirst : (m.unindexed e.1 e.2).uses d = true := by
      obtain ⟨b, id, hb⟩ := uses_iff.mp h
      have hb : ((m.unindexed e.1 e.2).unindexAll es).sceneForButton? d b = some id := hb
      rw [sceneForButton?_unindexAll] at hb
      split at hb
      · cases hb
      · exact uses_iff.mpr ⟨b, id, hb⟩
    exact (ih h).trans (get?_controllers_unindexed_of_uses hfirst)

theorem keyed_unindexAll {m : Manager} (h : m.Keyed) (es : List (DeviceId × ButtonId)) :
    (m.unindexAll es).Keyed := by
  unfold unindexAll
  induction es generalizing m with
  | nil => exact h
  | cons e es ih => exact ih (keyed_unindexed h e.1 e.2)

variable {χ : Type}

theorem run_releaseController (c : DeviceId) (s : Manager × Outlet χ) :
    (releaseController c : Act Manager χ Unit) s =
      .ok () (s.1.release c, s.2.noted (s.1.releaseNotes c)) := by
  unfold releaseController
  rw [Act.run_bind, Act.run_subject]
  simp only
  rw [Act.run_bind, Act.run_replace]
  exact Act.run_notes _ _

theorem run_unindex (c : DeviceId) (b : ButtonId) (s : Manager × Outlet χ) :
    ∃ es, (unindex c b : Act Manager χ Unit) s = .ok () (s.1.unindexed c b, s.2.noted es) := by
  refine ⟨(s.1.leaveButton c b).releaseNotes c, ?_⟩
  unfold unindex
  rw [Act.run_bind, Act.run_change]
  exact run_releaseController c _

theorem run_unindexAll (l : List (DeviceId × ButtonId)) (s : Manager × Outlet χ) :
    ∃ es, (l.forM fun e => unindex e.1 e.2 : Act Manager χ Unit) s =
      .ok () (s.1.unindexAll l, s.2.noted es) := by
  induction l generalizing s with
  | nil => exact ⟨[], by simp [unindexAll, Outlet.noted]⟩
  | cons e l ih =>
    obtain ⟨es, he⟩ := run_unindex e.1 e.2 s
    obtain ⟨fs, hf⟩ := ih (s.1.unindexed e.1 e.2, s.2.noted es)
    refine ⟨es ++ fs, ?_⟩
    rw [List.forM_eq_forM] at hf ⊢
    rw [List.forM_cons, Act.run_bind, he]
    simp only [hf]
    simp [unindexAll, Outlet.noted]

end MeshScenes.Manager
