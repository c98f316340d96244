import Mathlib.Algebra.Order.BigOperators.Group.Finset
import Mathlib.Data.Fintype.Order
import MeshScenes.Proofs.ClosedHub.Quiet

/-!
# When the traffic dies out

Of its own accord a hub sends nothing but what a turned light makes it send. As long as every scene
turns one way only, each such report leaves fewer lights that can still turn, so the reports come to
an end. What keeps the traffic alive is a dispute: a scene that is told to go on and to go off,
again and again.
-/

namespace MeshScenes

/-! ## What is sent about lights -/

def Unsent (s t : Registry × Outlet Network) : Prop := t.1 = s.1 ∧ t.2.channel = s.2.channel

instance : IsPreorder (Registry × Outlet Network) Unsent where
  refl _ := ⟨rfl, rfl⟩
  trans _ _ _ h h' := ⟨h'.1.trans h.1, h'.2.trans h.2⟩

theorem unsent_note (s : Registry × Outlet Network) (e : Journal.Entry) :
    Unsent s (s.1, s.2.note e) := ⟨rfl, rfl⟩

/-- The reports of the controllers are the same, and the nodes were not pressed. -/
def Answered (s t : Registry × Outlet Network) : Prop :=
  (∀ d, (t.1.get? d).map (·.reported) = (s.1.get? d).map (·.reported)) ∧
    ∃ new, t.2.channel.published = s.2.channel.published ++ new ∧ ∀ g ∈ new, g.isPress = false

instance : IsPreorder (Registry × Outlet Network) Answered where
  refl _ := ⟨fun _ => rfl, [], (List.append_nil _).symm, by simp⟩
  trans := by
    rintro s t u ⟨h, new, hp, hnew⟩ ⟨h', new', hp', hnew'⟩
    refine ⟨fun d => (h' d).trans (h d), new ++ new',
      by rw [hp', hp, List.append_assoc], fun g hg => ?_⟩
    rcases List.mem_append.mp hg with hg | hg
    · exact hnew g hg
    · exact hnew' g hg

theorem answered_note (s : Registry × Outlet Network) (e : Journal.Entry) :
    Answered s (s.1, s.2.note e) :=
  refl_of Answered s

theorem answered_insert {r : Registry} {o o' : Outlet Network} {d : DeviceId} {c c' : Controller}
    {fs : List OutboundFrame} (hc : r.get? d = some c) (hreported : c'.reported = c.reported)
    (htook : Outlet.Took fs o o') : Answered (r, o) (r.insert d c', o') := by
  refine ⟨fun e => ?_, ?_⟩
  · rw [ByteMap.get?_insert]
    split
    next he => rw [he, hc]; exact congrArg some hreported
    next => rfl
  · rw [htook.channel]
    exact Network.published_sendAll fs o.channel

theorem answered_setButton (d : DeviceId) (b : ButtonId) (on : Bool) :
    (Registry.setButton d b on).Moves Answered := by
  rintro ⟨r, o⟩
  rcases Registry.took_setButton on d b (Network.accepts o.channel) with
    hafter | ⟨c, o', hc, -, htook, hafter⟩
  · rw [hafter]
    exact refl_of Answered (r, o)
  · rw [hafter]
    exact answered_insert hc (Controller.reported_switched c b on) htook

theorem answered_ask (d : DeviceId) :
    (Registry.react d (.ok ·.requestIndicator)).Moves Answered := by
  rintro ⟨r, o⟩
  rcases Registry.took_ask d (Network.accepts o.channel) with hafter | ⟨c, o', hc, htook, hafter⟩
  · rw [hafter]
    exact refl_of Answered (r, o)
  · rw [hafter]
    exact answered_insert hc (Controller.reported_requestIndicator c) htook

/-! ## Lights that can still turn -/

namespace Manager

variable {m n : Manager} {v : SceneId → Bool} {x : DeviceId} {c : Controller} {q : UInt8}

/-- The places of `x` whose last report is not what `v` has for the scene of the button. -/
def astray (m : Manager) (v : SceneId → Bool) (x : DeviceId) (p : UInt8) : Finset Nat :=
  (Finset.range 8).filter fun j => ∃ id, m.sceneForButton? x (.ofPlace j) = some id ∧
    lightAt p j ≠ v id

/-- How many reports of `x` can still turn a light while scenes turn as `v` has it. All eight lights
may be astray in the first report. -/
def turnsLeft (m : Manager) (v : SceneId → Bool) (x : DeviceId) : Nat :=
  match (m.controllers.get? x).map (·.reported) with
  | none => 0
  | some none => 8
  | some (some p) => (m.astray v x p).card

/-- How many reports can still turn a light. -/
def unrest (m : Manager) (v : SceneId → Bool) : Nat :=
  ∑ i ∈ Finset.range 256, m.turnsLeft v ⟨UInt8.ofNat i⟩

theorem unrest_congr (hindex : n.index = m.index)
    (hreported : ∀ d, (n.controllers.get? d).map (·.reported) =
      (m.controllers.get? d).map (·.reported)) :
    n.unrest v = m.unrest v := by
  apply Finset.sum_congr rfl
  intro i _
  unfold turnsLeft astray sceneForButton?
  rw [hindex, hreported]

theorem unrest_le (h : ∀ d, n.turnsLeft v d ≤ m.turnsLeft v d) : n.unrest v ≤ m.unrest v :=
  Finset.sum_le_sum fun _ _ => h _

theorem unrest_lt (h : ∀ d, n.turnsLeft v d ≤ m.turnsLeft v d)
    (hx : n.turnsLeft v x < m.turnsLeft v x) :
    n.unrest v < m.unrest v := by
  apply Finset.sum_lt_sum (fun i _ => h _)
  refine ⟨x.byte.toNat, Finset.mem_range.mpr x.byte.toNat_lt, ?_⟩
  rw [UInt8.ofNat_toNat]
  exact hx

theorem turnsLeft_of_reported {p : UInt8} (hc : m.controllers.get? x = some c)
    (hp : c.reported = some p) :
    m.turnsLeft v x = (m.astray v x p).card := by
  simp [turnsLeft, hc, hp]

theorem turnsLeft_reported_self (m : Manager) :
    (m.reported x c q).turnsLeft v x = (m.astray v x q).card := by
  have hget : (m.reported x c q).controllers.get? x = some (c.handleReport q).1 := by
    unfold reported
    simp only [ByteMap.get?_insert, ite_true]
  exact turnsLeft_of_reported hget rfl

theorem turnsLeft_reported_of_ne {d : DeviceId} (m : Manager) (hd : d ≠ x) :
    (m.reported x c q).turnsLeft v d = m.turnsLeft v d := by
  have hget : (m.reported x c q).controllers.get? d = m.controllers.get? d := by
    unfold reported
    simp only [ByteMap.get?_insert, if_neg hd]
  unfold turnsLeft
  rw [hget]
  rfl

theorem card_astray_le (m : Manager) (v : SceneId → Bool) (x : DeviceId) (p : UInt8) :
    (m.astray v x p).card ≤ 8 := by
  refine (Finset.card_filter_le _ _).trans ?_
  rw [Finset.card_range]

theorem astray_subset {p : UInt8} (hc : m.controllers.get? x = some c) (hp : c.reported = some p)
    (hv : ∀ id on, m.Turns x q id on → on = v id) : m.astray v x q ⊆ m.astray v x p := by
  intro j hj
  obtain ⟨hj, id, hid, hne⟩ := Finset.mem_filter.mp hj
  refine Finset.mem_filter.mpr ⟨hj, id, hid, fun hpv => hne ?_⟩
  -- a light that was right and is wrong now has turned, so it turned the right way
  have hpq : lightAt p j ≠ lightAt q j := fun h => hne (h ▸ hpv)
  exact hv id _ ⟨c, p, j, hc, hp, Finset.mem_range.mp hj, hid, hpq, rfl⟩

theorem astray_ssubset {p : UInt8} {id : SceneId} {on : Bool} (hc : m.controllers.get? x = some c)
    (hp : c.reported = some p) (hv : ∀ id on, m.Turns x q id on → on = v id)
    (hturn : m.Turns x q id on) :
    m.astray v x q ⊂ m.astray v x p := by
  have hon := hv id on hturn
  obtain ⟨c', p', j, hc', hp', hj, hid, hpq, hq⟩ := hturn
  rw [hc] at hc'
  cases hc'
  rw [hp] at hp'
  cases hp'
  refine (Finset.ssubset_iff_of_subset (astray_subset hc hp hv)).mpr ⟨j, ?_, fun hmem => ?_⟩
  · refine Finset.mem_filter.mpr ⟨Finset.mem_range.mpr hj, id, hid, fun h => hpq ?_⟩
    rw [h, hq, hon]
  · obtain ⟨-, id', hid', hne⟩ := Finset.mem_filter.mp hmem
    rw [hid] at hid'
    cases hid'
    exact hne (hq.trans hon)

theorem turnsLeft_reported_lt (hc : m.controllers.get? x = some c)
    (hv : ∀ id on, m.Turns x q id on → on = v id) {id : SceneId} {on : Bool}
    (hturn : m.Turns x q id on) :
    (m.reported x c q).turnsLeft v x < m.turnsLeft v x := by
  have hreported : ∃ p, c.reported = some p := by
    obtain ⟨c', p, -, hc', hp, -⟩ := hturn
    rw [hc] at hc'
    cases hc'
    exact ⟨p, hp⟩
  obtain ⟨p, hp⟩ := hreported
  rw [turnsLeft_reported_self, turnsLeft_of_reported hc hp]
  exact Finset.card_lt_card (astray_ssubset hc hp hv hturn)

theorem turnsLeft_reported_le (hc : m.controllers.get? x = some c)
    (hv : ∀ id on, m.Turns x q id on → on = v id) (d : DeviceId) :
    (m.reported x c q).turnsLeft v d ≤ m.turnsLeft v d := by
  by_cases hd : d = x
  · rw [hd, turnsLeft_reported_self]
    cases hp : c.reported with
    | none =>
      have height : m.turnsLeft v x = 8 := by simp [turnsLeft, hc, hp]
      rw [height]
      exact m.card_astray_le v x q
    | some p =>
      rw [turnsLeft_of_reported hc hp]
      exact Finset.card_le_card (astray_subset hc hp hv)
  · rw [turnsLeft_reported_of_ne m hd]

end Manager

/-! ## A delivery -/

namespace ClosedHub

variable {lossy : Prop} {h : ClosedHub} {v : SceneId → Bool}

def presses (h : ClosedHub) : Nat := h.waiting.countP InboundFrame.isPress

/-- There are fewer lights that can turn, or else fewer presses, or else fewer frames. -/
def Nearer (v : SceneId → Bool) (h k : ClosedHub) : Prop :=
  k.manager.unrest v < h.manager.unrest v ∨ k.manager.unrest v ≤ h.manager.unrest v ∧
    (k.presses < h.presses ∨ k.presses ≤ h.presses ∧ k.waiting.length < h.waiting.length)

variable {f : InboundFrame} {rest : List InboundFrame} {m : Manager} {t : Manager × Outlet Network}

theorem unrest_of_answered (ht : Manager.Through Answered (m, (h.popped rest).2) t) :
    t.1.unrest v = m.unrest v := by
  refine Manager.unrest_congr ?_ ht.2.1
  rw [ht.1]

theorem nearer_of_press (hw : h.waiting = f :: rest) (hf : f.isPress = true)
    (ht : Manager.Through Answered (h.popped rest) t) : Nearer v h (afterwards t) := by
  have hunrest : t.1.unrest v = h.manager.unrest v := unrest_of_answered ht
  obtain ⟨-, -, new, hnew, hpress⟩ := ht
  refine .inr ⟨Nat.le_of_eq hunrest, .inl ?_⟩
  have hnone : new.countP InboundFrame.isPress = 0 := List.countP_eq_zero.mpr fun g hg => by
    simp [hpress g hg]
  have hwaiting : (afterwards t).waiting = rest ++ new := hnew
  unfold presses
  rw [hwaiting, hw, List.countP_append, hnone, List.countP_cons_of_pos hf]
  omega

theorem nearer_of_turned (rest : List InboundFrame) (hm : m.unrest v < h.manager.unrest v)
    (ht : Manager.Through Answered (m, (h.popped rest).2) t) : Nearer v h (afterwards t) := by
  have hunrest : t.1.unrest v = m.unrest v := unrest_of_answered ht
  exact .inl (hunrest.trans_lt hm)

theorem nearer_of_unsent (hw : h.waiting = f :: rest) (hm : m.unrest v ≤ h.manager.unrest v)
    (ht : Manager.Through Unsent (m, (h.popped rest).2) t) : Nearer v h (afterwards t) := by
  obtain ⟨hconfig, hcontrollers, hchannel⟩ := ht
  change t.1.controllers = m.controllers at hcontrollers
  have hmanager : (afterwards t).manager = m := by
    show t.1 = m
    rw [hconfig, hcontrollers]
  have hwaiting : (afterwards t).waiting = rest := congrArg Network.published hchannel
  unfold Nearer presses
  rw [hmanager, hwaiting, hw]
  refine .inr ⟨hm, .inr ⟨?_, ?_⟩⟩
  · rw [List.countP_cons]
    omega
  · simp

theorem Reachable.plain (hr : h.Reachable lossy) (hw : h.waiting = f :: rest) : f.Plain := by
  apply hr.fit.sound.plain
  show f ∈ h.waiting
  rw [hw]
  exact List.mem_cons_self

/-- A delivery brings a hub nearer to silence while scenes turn as `v` has it. -/
theorem Reachable.nearer_deliver (hr : h.Reachable lossy) (hv : ∀ id on, h.Turns id on → on = v id)
    (hw : h.waiting = f :: rest) : Nearer v h h.deliver := by
  have hm := hr.manager.coherent
  have hf := hr.plain hw
  -- a press is used up, a light that turned is one less to turn, and else nothing is sent
  by_cases hquiet : f.isPress = false ∧ ∀ id on, ¬ h.Turns id on
  · obtain ⟨hpress, hturn⟩ := hquiet
    obtain ⟨t, heq, -, ht⟩ := through_deliver hm hf hw unsent_note
      (fun _ _ hbasic => by rw [hbasic] at hpress; cases hpress)
      (fun _ _ _ _ _ hactivation => by rw [hactivation] at hpress; cases hpress)
      (fun id on _ hid => absurd hid (hturn id on))
    rw [heq]
    rcases ht with ⟨-, ht⟩ | ⟨d, q, c, rfl, hc, ht⟩
    · exact nearer_of_unsent hw le_rfl ht
    · refine nearer_of_unsent hw
        (Manager.unrest_le (Manager.turnsLeft_reported_le hc fun id on hid => ?_)) ht
      exact hv id on ⟨d, q, rest, hw, hid⟩
  · obtain ⟨t, heq, -, ht⟩ := through_deliver hm hf hw answered_note (fun d _ _ => answered_ask d)
      (fun _ _ _ _ _ _ _ _ e b _ => answered_setButton e b true) (fun _ on _ _ _ e b _ =>
        answered_setButton e b on)
    rw [heq]
    rcases ht with ⟨hunused, ht⟩ | ⟨d, q, c, rfl, hc, ht⟩
    · refine nearer_of_press hw ?_ ht
      by_contra hpress
      refine hquiet ⟨by simpa using hpress, fun id on hid => ?_⟩
      obtain ⟨x, q, rest', hw', c, p, j, hc, -⟩ := hid
      rw [hw] at hw'
      cases hw'
      exact absurd ((hunused x q rfl).symm.trans hc).symm (Option.some_ne_none c)
    · have hturns : ∀ id on, h.manager.Turns d q id on → on = v id :=
        fun id on hid => hv id on ⟨d, q, rest, hw, hid⟩
      have hsome : ∃ id on, h.manager.Turns d q id on := by
        by_contra hnone
        refine hquiet ⟨rfl, fun id on hid => ?_⟩
        obtain ⟨x, q', rest', hw', hid⟩ := hid
        rw [hw] at hw'
        cases hw'
        exact hnone ⟨id, on, hid⟩
      obtain ⟨id, on, hturn⟩ := hsome
      exact nearer_of_turned rest (Manager.unrest_lt (Manager.turnsLeft_reported_le hc hturns)
        (Manager.turnsLeft_reported_lt hc hturns hturn)) ht

/-! ## All deliveries -/

/-- The waiting frames come to an end. -/
def DiesOut (h : ClosedHub) : Prop := ∃ n, (deliver^[n] h).waiting = []

/-- From every moment on, the scene is told again to go on, and again to go off. -/
def Disputed (h : ClosedHub) (id : SceneId) : Prop :=
  ∀ on n, ∃ k, n ≤ k ∧ (deliver^[k] h).Turns id on

theorem Reachable.dies_out {h : ClosedHub} (hr : h.Reachable lossy)
    (hv : ∀ n id on, (ClosedHub.deliver^[n] h).Turns id on → on = v id) : h.DiesOut := by
  cases hw : h.waiting with
  | nil => exact ⟨0, hw⟩
  | cons f rest =>
    have hnearer := hr.nearer_deliver (hv 0) hw
    obtain ⟨n, hn⟩ := Reachable.dies_out hr.deliver fun n id on hturn => hv (n + 1) id on (by
      rw [Function.iterate_succ_apply]
      exact hturn)
    refine ⟨n + 1, ?_⟩
    rw [Function.iterate_succ_apply]
    exact hn
termination_by (h.manager.unrest v, h.presses, h.waiting.length)
decreasing_by
  rcases hnearer with hlt | ⟨hle, hlt | ⟨hpresses, hlt⟩⟩
  · exact Prod.Lex.left _ _ hlt
  · exact Prod.Lex.right' _ hle (Prod.Lex.left _ _ hlt)
  · exact Prod.Lex.right' _ hle (Prod.Lex.right' _ hpresses hlt)

theorem waiting_iterate_of_nil {n k : Nat} (hn : (deliver^[n] h).waiting = []) (hk : n ≤ k) :
    (deliver^[k] h).waiting = [] := by
  obtain ⟨l, rfl⟩ := Nat.exists_eq_add_of_le hk
  rw [Nat.add_comm, Function.iterate_add_apply, Function.iterate_fixed (deliver_of_waiting_nil hn)]
  exact hn

/-- While something waits for ever, some scene is in dispute. -/
theorem Reachable.dies_out_of_undisputed (hr : h.Reachable lossy) (hid : ∀ id, ¬ h.Disputed id) :
    h.DiesOut := by
  have hlast : ∀ id, ∃ (on : Bool) (n : Nat), ∀ k, n ≤ k →
      ¬ (ClosedHub.deliver^[k] h).Turns id on := by
    intro id
    have := hid id
    unfold Disputed at this
    push Not at this
    exact this
  choose on last hlast using hlast
  have : Finite SceneId := Finite.of_injective (fun id : SceneId => id.byte.toFin) fun a b hab =>
    SceneId.ext (UInt8.toFin_inj.mp hab)
  obtain ⟨n, hn⟩ := Finite.exists_le last
  obtain ⟨k, hk⟩ :=
    Reachable.dies_out (v := fun id => !on id) (hr.iterate n) fun k id on' hturn => by
    rw [← Function.iterate_add_apply] at hturn
    by_contra hne
    have : on' = on id := by simpa using hne
    rw [this] at hturn
    exact hlast id (k + n) ((hn id).trans (Nat.le_add_left n k)) hturn
  refine ⟨k + n, ?_⟩
  rw [Function.iterate_add_apply]
  exact hk

theorem DiesOut.undisputed (hout : h.DiesOut) (id : SceneId) : ¬ h.Disputed id := by
  intro hid
  obtain ⟨n, hn⟩ := hout
  obtain ⟨k, hk, x, q, rest, hw, -⟩ := hid true n
  rw [waiting_iterate_of_nil hn hk] at hw
  cases hw

end ClosedHub

end MeshScenes
