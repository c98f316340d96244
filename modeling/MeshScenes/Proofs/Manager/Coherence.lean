import MeshScenes.Manager.Call
import MeshScenes.Proofs.Manager.Index
import MeshScenes.Proofs.Manager.Traffic

/-!
# Coherence of the manager

Scenes, index and registry say the same in every reachable manager. Traffic touches none of the
three; a configuration call is followed through the states it passes, of which those between the
scene table and the index are not coherent, so each call is settled by the look-ups of what it
leaves.
-/

namespace MeshScenes.Manager

def Binds (m : Manager) (id : SceneId) (c : DeviceId) (b : ButtonId) : Prop :=
  ∃ s, m.scene? id = some s ∧ s.button? c = some b

/-- The members are different devices, each noted as a directory, one of `D`, described it. -/
structure Recorded (D : Directory → Prop) (members : List Member) : Prop where
  distinct : (members.map (·.device)).Nodup
  noted : ∀ x ∈ members, ∃ directory d, D directory ∧ directory x.device = some d ∧
    x.sceneCapable = d.isSceneCapable

/-- Scenes, index and registry agree, where every directory so far was one of `D`. -/
structure Coherent (D : Directory → Prop) (m : Manager) : Prop where
  index_iff : ∀ c b id, m.sceneForButton? c b = some id ↔ m.Binds id c b
  registered_iff : ∀ c, m.controllers.contains c = true ↔ ∃ id b, m.Binds id c b
  nonempty : ∀ c buttons, m.index.get? c = some buttons → buttons.isEmpty = false
  count : 2 ≤ m.buttonCount ∧ m.buttonCount ≤ 8
  controller : ∀ c x, m.controllers.get? c = some x →
    x.device = c ∧ x.isBound = true ∧ x.buttonCount = m.buttonCount
  button : ∀ id c b, m.Binds id c b → 1 ≤ b.byte ∧ b.byte < m.buttonCount
  stored : ∀ id s, m.scene? id = some s → s.id = id
  recorded : (∀ d, D d → d.Honest) → ∀ id s, m.scene? id = some s → Recorded D s.members

variable {D : Directory → Prop} {m n : Manager}

theorem Coherent.mono {D' : Directory → Prop} (h : m.Coherent D) (hD : ∀ d, D d → D' d) :
    m.Coherent D' := by
  refine { h with recorded := fun honest id s hs => ?_ }
  have hrecorded := h.recorded (fun d hd => honest d (hD d hd)) id s hs
  refine ⟨hrecorded.distinct, fun x hx => ?_⟩
  obtain ⟨directory, d, hdirectory, hd⟩ := hrecorded.noted x hx
  exact ⟨directory, d, hD directory hdirectory, hd⟩

theorem Coherent.uses_iff (h : m.Coherent D) (c : DeviceId) :
    m.uses c = true ↔ ∃ id b, m.Binds id c b := by
  rw [Manager.uses_iff]
  constructor
  · rintro ⟨b, id, hb⟩
    exact ⟨id, b, (h.index_iff c b id).mp hb⟩
  · rintro ⟨id, b, hb⟩
    exact ⟨b, id, (h.index_iff c b id).mpr hb⟩

theorem Coherent.registered (h : m.Coherent D) {id : SceneId} {s : Scene} {c : DeviceId}
    {b : ButtonId} (hs : m.scene? id = some s) (hb : s.button? c = some b) :
    ∃ x, m.controllers.get? c = some x :=
  ByteMap.contains_iff.mp ((h.registered_iff c).mpr ⟨id, b, s, hs, hb⟩)

theorem Coherent.keyed (h : m.Coherent D) : m.Keyed := by
  intro c
  refine ⟨Bool.eq_iff_iff.mpr ((h.registered_iff c).trans (h.uses_iff c).symm), ?_⟩
  unfold ByteMap.contains uses
  cases hc : m.index.get? c with
  | none => rfl
  | some buttons => simp [h.nonempty c buttons hc]

theorem coherent_of_keyed (keyed : m.Keyed) (index_iff : ∀ c b id, m.sceneForButton? c b = some id ↔
    m.Binds id c b)
    (count : 2 ≤ m.buttonCount ∧ m.buttonCount ≤ 8)
    (controller : ∀ c x, m.controllers.get? c = some x →
      x.device = c ∧ x.isBound = true ∧ x.buttonCount = m.buttonCount)
    (button : ∀ id c b, m.Binds id c b → 1 ≤ b.byte ∧ b.byte < m.buttonCount)
    (stored : ∀ id s, m.scene? id = some s → s.id = id)
    (recorded : (∀ d, D d → d.Honest) → ∀ id s, m.scene? id = some s → Recorded D s.members) :
    m.Coherent D := by
  refine ⟨index_iff, fun c => ?_, fun c buttons hc => ?_, count, controller, button, stored,
    recorded⟩
  · rw [(keyed c).1, Manager.uses_iff]
    constructor
    · rintro ⟨b, id, hb⟩
      exact ⟨id, b, (index_iff c b id).mp hb⟩
    · rintro ⟨id, b, hb⟩
      exact ⟨b, id, (index_iff c b id).mpr hb⟩
  · have h := (keyed c).2
    unfold ByteMap.contains uses at h
    rw [hc] at h
    simpa using h.symm

theorem Coherent.of_alike (h : m.Coherent D) (ha : m.Alike n) : n.Coherent D := by
  have hs := ha.scene?
  have hbind : ∀ id c b, n.Binds id c b ↔ m.Binds id c b := fun id c b => by
    unfold Binds
    rw [hs]
  refine ⟨fun c b id => ?_, fun c => ?_, fun c buttons hc => ?_, ?_, fun c x hc => ?_,
    fun id c b hb => ?_, fun id s hid => ?_, fun hd id s hid => ?_⟩
  · rw [ha.sceneForButton?, hbind]
    exact h.index_iff c b id
  · rw [ha.2.contains]
    simp only [hbind]
    exact h.registered_iff c
  · rw [ha.index] at hc
    exact h.nonempty c buttons hc
  · rw [ha.buttonCount]
    exact h.count
  · obtain ⟨y, hy, hyx⟩ := ha.2.get? hc
    obtain ⟨hdev, hbound, hcount⟩ := h.controller c y hy
    exact ⟨hyx.device.trans hdev, hyx.2 hbound, by rw [hyx.buttonCount, ha.buttonCount, hcount]⟩
  · rw [ha.buttonCount]
    exact h.button id c b ((hbind id c b).mp hb)
  · exact h.stored id s (by rwa [hs] at hid)
  · exact h.recorded hd id s (by rwa [hs] at hid)

/-! ## Scenes that keep their buttons -/

def withScene (m : Manager) (s : Scene) : Manager := { m with scenes := m.scenes.insert s.id s }

theorem scene?_withScene (m : Manager) (s : Scene) (id : SceneId) :
    (m.withScene s).scene? id = if id = s.id then some s else m.scene? id :=
  ByteMap.get?_insert _ _ _ _

theorem binds_withScene (m : Manager) (s : Scene) (id : SceneId) (c : DeviceId) (b : ButtonId) :
    (m.withScene s).Binds id c b ↔ if id = s.id then s.button? c = some b else m.Binds id c b := by
  unfold Binds
  rw [scene?_withScene]
  split
  next => simp
  next => exact Iff.rfl

theorem Coherent.withScene (h : m.Coherent D) {s : Scene}
    (hb : ∀ c b, s.button? c = some b ↔ m.Binds s.id c b)
    (hd : (∀ d, D d → d.Honest) → Recorded D s.members) : (m.withScene s).Coherent D := by
  have hbind : ∀ id c b, (m.withScene s).Binds id c b ↔ m.Binds id c b := fun id c b => by
    rw [binds_withScene]
    split
    next hid => rw [hid, hb]
    next => exact Iff.rfl
  refine coherent_of_keyed h.keyed (fun c b id => ?_) h.count h.controller (fun id c b hidcb => ?_)
    (fun id t ht => ?_) fun honest id t ht => ?_
  · rw [hbind]
    exact h.index_iff c b id
  · exact h.button id c b ((hbind id c b).mp hidcb)
  · rw [scene?_withScene] at ht
    split at ht
    next hid => cases ht; exact hid.symm
    next => exact h.stored id t ht
  · rw [scene?_withScene] at ht
    split at ht
    next => cases ht; exact hd honest
    next => exact h.recorded honest id t ht

theorem Coherent.changeScene (h : m.Coherent D) {id : SceneId} {s t : Scene}
    (hs : m.scene? id = some s) (hid : t.id = s.id) (hc : t.controllers = s.controllers)
    (hd : (∀ d, D d → d.Honest) → Recorded D t.members) : (m.withScene t).Coherent D := by
  refine h.withScene (fun c b => ?_) hd
  have ht : t.id = id := hid.trans (h.stored id s hs)
  unfold Binds Scene.button?
  rw [hc, ht, hs]
  simp

/-! ## Scenes that lose buttons -/

theorem Coherent.unindexAll (h : m.Coherent D) {es : List (DeviceId × ButtonId)}
    {k : Manager} (hindex : k.index = m.index) (hcontrollers : k.controllers = m.controllers)
    (hcount : k.buttonCount = m.buttonCount)
    (hbind : ∀ id c b, k.Binds id c b ↔ m.Binds id c b ∧ (c, b) ∉ es)
    (hstored : ∀ id s, k.scene? id = some s → s.id = id)
    (hrecorded : (∀ d, D d → d.Honest) → ∀ id s, k.scene? id = some s → Recorded D s.members) :
    (k.unindexAll es).Coherent D := by
  -- the scenes are those of `k`, the index that of `m` without the buttons
  have hscene : ∀ id, (k.unindexAll es).scene? id = k.scene? id := fun id => by
    unfold Manager.scene?
    rw [scenes_unindexAll]
  have hbind' : ∀ id c b, (k.unindexAll es).Binds id c b ↔ m.Binds id c b ∧ (c, b) ∉ es :=
    fun id c b => by
    rw [← hbind]
    unfold Binds
    rw [hscene]
  have hfor : ∀ c b, k.sceneForButton? c b = m.sceneForButton? c b := fun c b => by
    unfold sceneForButton?
    rw [hindex]
  have hkeyed : k.Keyed := fun c => by
    have := h.keyed c
    unfold KeyedAt uses at this ⊢
    rwa [hindex, hcontrollers]
  refine coherent_of_keyed (keyed_unindexAll hkeyed es) (fun c b id => ?_) ?_ (fun c x hx => ?_)
    (fun id c b hb => ?_) (fun id s hs => ?_) fun honest id s hs => ?_
  · rw [sceneForButton?_unindexAll, hbind', hfor, ← h.index_iff]
    split
    next hmem => simp [hmem]
    next hmem => simp [hmem]
  · rw [buttonCount_unindexAll, hcount]
    exact h.count
  · rw [buttonCount_unindexAll, hcount]
    exact h.controller c x (hcontrollers ▸ get?_controllers_unindexAll hx)
  · rw [buttonCount_unindexAll, hcount]
    exact h.button id c b ((hbind' id c b).mp hb).1
  · exact hstored id s (by rwa [hscene] at hs)
  · exact hrecorded honest id s (by rwa [hscene] at hs)

/-! ## A scene that gets a button -/

/-- The manager after a button of a controller in the registry `r` was given to a scene. -/
def rebound (m : Manager) (r : Registry) (s : Scene) (c : DeviceId) (b : ButtonId) : Manager :=
  let entered :=
    (withScene { m with controllers := r }
      { s with controllers := s.controllers.insert c b }).enterButton c b s.id
  match s.button? c with
  | some p => if p ≠ b then entered.unindexed c p else entered
  | none => entered

section
variable (m : Manager) (r : Registry) (s : Scene) (c : DeviceId) (b : ButtonId)

theorem scenes_rebound :
    (m.rebound r s c b).scenes =
      (m.withScene { s with controllers := s.controllers.insert c b }).scenes := by
  unfold rebound
  split
  · split
    · rw [scenes_unindexed]; rfl
    · rfl
  · rfl

theorem buttonCount_rebound : (m.rebound r s c b).buttonCount = m.buttonCount := by
  unfold rebound
  split
  · split
    · rw [buttonCount_unindexed]; rfl
    · rfl
  · rfl

theorem binds_rebound (id : SceneId) (d : DeviceId) (e : ButtonId) :
    (m.rebound r s c b).Binds id d e ↔
      if id = s.id then (if d = c then e = b else s.button? d = some e) else m.Binds id d e := by
  have : (m.rebound r s c b).Binds id d e ↔
      (m.withScene { s with controllers := s.controllers.insert c b }).Binds id d e := by
    unfold Binds Manager.scene?
    rw [scenes_rebound]
  rw [this, binds_withScene]
  simp only [Scene.button?, ByteMap.get?_insert]
  by_cases hd : d = c
  · simp [hd, eq_comm]
  · simp [hd]

theorem sceneForButton?_rebound (d : DeviceId) (e : ButtonId) :
    (m.rebound r s c b).sceneForButton? d e =
      if d = c then (if e = b then some s.id else if s.button? c = some e then none
        else m.sceneForButton? d e)
      else m.sceneForButton? d e := by
  unfold rebound
  have entered : ∀ d e, ((withScene { m with controllers := r }
      { s with controllers := s.controllers.insert c b }).enterButton c b
        s.id).sceneForButton? d e =
      if d = c ∧ e = b then some s.id else m.sceneForButton? d e :=
    fun d e => sceneForButton?_enterButton _ c d b e s.id
  cases hp : s.button? c with
  | none =>
    simp only
    rw [entered]
    by_cases hd : d = c <;> by_cases he : e = b <;> simp [hd, he]
  | some p =>
    by_cases hpb : p = b
    · simp only [hpb, ne_eq, not_true_eq_false, ite_false]
      rw [entered]
      by_cases hd : d = c
      · by_cases he : e = b
        · simp [hd, he]
        · have he' : ¬ b = e := fun h => he h.symm
          simp [hd, he, he']
      · simp [hd]
    · simp only [ne_eq, hpb, not_false_eq_true, ite_true]
      rw [sceneForButton?_unindexed, entered]
      by_cases hd : d = c
      · by_cases hep : e = p
        · simp [hd, hep, hpb]
        · have hep' : ¬ p = e := fun h => hep h.symm
          simp [hd, hep, hep']
      · simp [hd]

theorem get?_controllers_rebound {d : DeviceId} {x : Controller}
    (h : (m.rebound r s c b).controllers.get? d = some x) : r.get? d = some x := by
  unfold rebound at h
  split at h
  · split at h
    · exact get?_controllers_unindexed h
    · exact h
  · exact h

theorem get?_controllers_rebound_of_uses {d : DeviceId} (h : (m.rebound r s c b).uses d = true) :
    (m.rebound r s c b).controllers.get? d = r.get? d := by
  unfold rebound at h ⊢
  cases hp : s.button? c with
  | none => rfl
  | some p =>
    simp only [hp] at h ⊢
    by_cases hpb : p = b
    · rw [if_neg (not_not_intro hpb)]
      rfl
    · rw [if_pos hpb] at h ⊢
      exact get?_controllers_unindexed_of_uses h

theorem keyed_rebound (h : m.Keyed) (hc : r.contains c = true)
    (hr : ∀ d, d ≠ c → r.get? d = m.controllers.get? d) :
    (m.rebound r s c b).Keyed := by
  have entered : ((withScene { m with controllers := r }
      { s with controllers := s.controllers.insert c b }).enterButton c b s.id).Keyed := by
    intro d
    by_cases hd : d = c
    · have hu : ((withScene { m with controllers := r }
          { s with controllers := s.controllers.insert c b }).enterButton c b s.id).uses c = true :=
        Manager.uses_iff.mpr ⟨b, s.id, by rw [sceneForButton?_enterButton, if_pos ⟨rfl, rfl⟩]⟩
      rw [hd]
      refine ⟨hc.trans hu.symm, ?_⟩
      rw [hu]
      unfold enterButton ByteMap.contains
      simp [ByteMap.get?_insert]
    · have := h d
      unfold KeyedAt uses ByteMap.contains at this ⊢
      unfold enterButton
      simp only [ByteMap.get?_insert, hd, ite_false]
      rw [← hr d hd] at this
      exact this
  unfold rebound
  split
  · split
    · exact keyed_unindexed entered c _
    · exact entered
  · exact entered

end

section
variable {id : SceneId} {s : Scene} {c : DeviceId} {b : ButtonId}

theorem Coherent.binds_iff (h : m.Coherent D) (hs : m.scene? id = some s) {d : DeviceId}
    {e : ButtonId} :
    m.Binds s.id d e ↔ s.button? d = some e := by
  unfold Binds
  rw [h.stored id s hs, hs]
  simp

theorem Coherent.index_rebound (h : m.Coherent D) (r : Registry) (hs : m.scene? id = some s)
    (hfree : ∀ other, m.sceneForButton? c b = some other → other = id) (d : DeviceId) (e : ButtonId)
    (k : SceneId) :
    (m.rebound r s c b).sceneForButton? d e = some k ↔ (m.rebound r s c b).Binds k d e := by
  have hid : s.id = id := h.stored id s hs
  rw [sceneForButton?_rebound, binds_rebound]
  by_cases hd : d = c
  · subst hd
    by_cases he : e = b
    · subst he
      by_cases hk : k = s.id
      · simp [hk]
      · have : ¬ m.Binds k d e :=
          fun hbk => hk (by rw [hid]; exact hfree k ((h.index_iff d e k).mpr hbk))
        simp [hk, this, Ne.symm hk]
    · by_cases hp : s.button? d = some e
      · have hm : m.sceneForButton? d e = some s.id :=
          (h.index_iff d e s.id).mpr ((h.binds_iff hs).mpr hp)
        by_cases hk : k = s.id
        · simp [he, hp, hk]
        · have : ¬ m.Binds k d e := fun hbk => by
            rw [(h.index_iff d e k).mpr hbk] at hm
            exact hk (Option.some.inj hm)
          simp [he, hp, hk, this]
      · by_cases hk : k = s.id
        · have : m.sceneForButton? d e ≠ some s.id := fun hm =>
            hp ((h.binds_iff hs).mp ((h.index_iff d e s.id).mp hm))
          simp [he, hp, hk, this]
        · simp only [he, hp, hk, ite_true, ite_false]
          exact h.index_iff d e k
  · rw [if_neg hd, h.index_iff]
    split
    next hk => rw [hk, h.binds_iff hs]
    next => exact Iff.rfl

theorem Coherent.rebound (h : m.Coherent D) {r : Registry} (hs : m.scene? id = some s)
    (hfree : ∀ other, m.sceneForButton? c b = some other → other = id) (hc : r.contains c = true)
    (hr : ∀ d, d ≠ c → r.get? d = m.controllers.get? d)
    (hx : ∀ x, r.get? c = some x → x.device = c ∧ x.isBound = true ∧ x.buttonCount = m.buttonCount)
    (hb : 1 ≤ b.byte ∧ b.byte < m.buttonCount) : (m.rebound r s c b).Coherent D := by
  refine coherent_of_keyed (keyed_rebound m r s c b h.keyed hc hr) (h.index_rebound r hs hfree) ?_
    (fun d x hdx => ?_)
    (fun k d e hk => ?_) (fun k t ht => ?_) fun honest k t ht => ?_
  · rw [buttonCount_rebound]
    exact h.count
  · rw [buttonCount_rebound]
    have hrx := get?_controllers_rebound m r s c b hdx
    by_cases hd : d = c
    · rw [hd] at hrx ⊢
      exact hx x hrx
    · exact h.controller d x (by rw [← hr d hd]; exact hrx)
  · rw [buttonCount_rebound]
    rw [binds_rebound] at hk
    split at hk
    · split at hk
      next => rw [hk]; exact hb
      next => exact h.button s.id d e ((h.binds_iff hs).mpr hk)
    · exact h.button k d e hk
  all_goals
    have ht' : (m.withScene { s with controllers := s.controllers.insert c b }).scene? k =
        some t := by
      unfold Manager.scene? at ht ⊢
      rwa [scenes_rebound] at ht
    rw [scene?_withScene] at ht'
    split at ht'
  next hk => cases ht'; exact hk.symm
  next => exact h.stored k t ht'
  next => cases ht'; exact h.recorded honest id s hs
  next => exact h.recorded honest k t ht'

end

end MeshScenes.Manager
