import Mathlib.Data.List.Forall2
import MeshScenes.Scene.Programming

/-!
# What may be in the way of programming

Before a scene is programmed, its controllers are looked up and checked one by one. `plan_spec`: for
any scene and any registry this ends with a plan or with the error of an obstacle, and
`Obstacle.absurd`: no obstacle is overlooked.
-/

namespace MeshScenes.Scene

/-- Why a scene cannot be programmed. -/
inductive Obstacle (s : Scene) (r : Registry) : Error → Prop where
  | missing {d : DeviceId} {b : ButtonId} : s.button? d = some b → r.get? d = none →
      Obstacle s r (.notFound (.controller d))
  | unbound {d : DeviceId} {b : ButtonId} {c : Controller} : s.button? d = some b →
    r.get? d = some c →
      c.isBound = false → Obstacle s r (.validation (.controllerNotBound d))
  | noGroups {d : DeviceId} {b : ButtonId} {c : Controller} : s.button? d = some b →
    r.get? d = some c →
      c.supportsAssociation = false → Obstacle s r (.unsupported c.device .association)
  | noLevels {d : DeviceId} {b : ButtonId} {c : Controller} : s.button? d = some b →
    r.get? d = some c →
      s.groupedMembers ≠ [] → c.supportsConfiguration = false →
      Obstacle s r (.unsupported c.device .configuration)

theorem mapM_cases {ι κ : Type} {f : ι → Except Error κ} {R : κ → ι → Prop} {E : Error → Prop}
    {l : List ι} (hf : ∀ i ∈ l, (∃ k, f i = .ok k ∧ R k i) ∨ ∃ e, f i = .error e ∧ E e) :
    (∃ ks, l.mapM f = .ok ks ∧ List.Forall₂ R ks l) ∨ ∃ e, l.mapM f = .error e ∧ E e := by
  induction l with
  | nil => exact .inl ⟨[], rfl, .nil⟩
  | cons i l ih =>
    rw [List.mapM_cons]
    rcases hf i List.mem_cons_self with ⟨k, hk, hki⟩ | ⟨e, he, hcause⟩
    · rcases ih fun j hj => hf j (List.mem_cons_of_mem _ hj) with ⟨ks, hks, hkl⟩ | ⟨e, he, hcause⟩
      · refine .inl ⟨k :: ks, ?_, .cons hki hkl⟩
        rw [hk, hks]
        rfl
      · refine .inr ⟨e, ?_, hcause⟩
        rw [hk, he]
        rfl
    · refine .inr ⟨e, ?_, hcause⟩
      rw [he]
      rfl

theorem forM_cases {ι : Type} {f : ι → Except Error Unit} {R : ι → Prop} {E : Error → Prop}
    {l : List ι} (hf : ∀ i ∈ l, (f i = .ok () ∧ R i) ∨ ∃ e, f i = .error e ∧ E e) :
    (l.forM f = .ok () ∧ ∀ i ∈ l, R i) ∨ ∃ e, l.forM f = .error e ∧ E e := by
  induction l with
  | nil => exact .inl ⟨rfl, by simp⟩
  | cons i l ih =>
    rw [List.forM_eq_forM] at ih ⊢
    rw [List.forM_cons]
    rcases hf i List.mem_cons_self with ⟨hi, hri⟩ | ⟨e, he, hcause⟩
    · rw [hi]
      rcases ih fun j hj => hf j (List.mem_cons_of_mem _ hj) with ⟨hl, hrl⟩ | ⟨e, he, hcause⟩
      · exact .inl ⟨hl, List.forall_mem_cons.mpr ⟨hri, hrl⟩⟩
      · exact .inr ⟨e, he, hcause⟩
    · rw [he]
      exact .inr ⟨e, rfl, hcause⟩

theorem exists_mem_of_forall₂ {ι κ : Type} {R : κ → ι → Prop} {ks : List κ} {l : List ι}
    (h : List.Forall₂ R ks l) {i : ι} (hi : i ∈ l) : ∃ k ∈ ks, R k i := by
  induction h with
  | nil => cases hi
  | @cons k j ks l hk _ ih =>
    rcases List.mem_cons.mp hi with rfl | hi
    · exact ⟨k, List.mem_cons_self, hk⟩
    · obtain ⟨k', hk', hki⟩ := ih hi
      exact ⟨k', List.mem_cons_of_mem _ hk', hki⟩

section
variable (s : Scene) (r : Registry)

/-- The registered controllers of a scene, each with its button. -/
def Found (l : List (Controller × ButtonId)) : Prop :=
  List.Forall₂ (fun x e => s.button? e.1 = some e.2 ∧ r.get? e.1 = some x.1 ∧
    x.1.isBound = true ∧ x.2 = e.2) l s.controllers.toList

/-- The controller can be told its group and, if there are any, its levels. -/
def Programs (c : Controller) : Prop :=
  c.supportsAssociation = true ∧ (s.groupedMembers ≠ [] → c.supportsConfiguration = true)

theorem resolve_cases :
    (∃ l, s.resolve r = .ok l ∧ s.Found r l) ∨ ∃ e, s.resolve r = .error e ∧ s.Obstacle r e ∧
      ∃ d b, s.button? d = some b ∧ ∀ c, r.get? d = some c → c.isBound = false := by
  apply mapM_cases
  intro e he
  have hb : s.button? e.1 = some e.2 := ByteMap.get?_eq_some_iff.mpr he
  cases hc : r.get? e.1 with
  | none =>
    refine .inr ⟨_, ?_, .missing hb hc, e.1, e.2, hb, by simp [hc]⟩
    simp only [hc]
    rfl
  | some c =>
    cases hbound : c.isBound with
    | true =>
      refine .inl ⟨(c, e.2), ?_, hb, rfl, hbound, rfl⟩
      simp only [hc, hbound]
      rfl
    | false =>
      refine .inr ⟨_, ?_, .unbound hb hc hbound, e.1, e.2, hb, by simpa [hc] using hbound⟩
      simp only [hc, hbound]
      rfl

theorem check_cases {l : List (Controller × ButtonId)} (hl : s.Found r l) :
    ((l.forM fun x => s.checkSupport x.1) = .ok () ∧ ∀ x ∈ l, s.Programs x.1) ∨
      ∃ e, (l.forM fun x => s.checkSupport x.1) = .error e ∧ s.Obstacle r e := by
  apply forM_cases
  intro x hx
  obtain ⟨e, -, hb, hc, -, -⟩ := exists_mem_of_forall₂ hl.flip hx
  unfold checkSupport
  cases hassociation : x.1.supportsAssociation with
  | false => exact .inr ⟨_, rfl, .noGroups hb hc hassociation⟩
  | true =>
    by_cases hlevels : s.groupedMembers = []
    · refine .inl ⟨?_, hassociation, fun h => absurd hlevels h⟩
      simp [hlevels]
      rfl
    · cases hconfiguration : x.1.supportsConfiguration with
      | false =>
        refine .inr ⟨_, ?_, .noLevels hb hc hlevels hconfiguration⟩
        simp [hlevels]
        rfl
      | true =>
        refine .inl ⟨?_, hassociation, fun _ => hconfiguration⟩
        simp
        rfl

theorem plan_spec (coordinator : DeviceId) :
    (∃ l, s.plan r coordinator = .ok (s.planFor l coordinator) ∧ s.Found r l ∧
      ∀ x ∈ l, s.Programs x.1) ∨
      ∃ e, s.plan r coordinator = .error e ∧ s.Obstacle r e := by
  rcases s.resolve_cases r with ⟨l, hresolve, hl⟩ | ⟨e, hresolve, he, -⟩
  · rw [plan_of_resolve hresolve]
    rcases s.check_cases r hl with ⟨hchecked, hprograms⟩ | ⟨e, hchecked, he⟩
    · rw [hchecked]
      exact .inl ⟨l, rfl, hl, hprograms⟩
    · rw [hchecked]
      exact .inr ⟨e, rfl, he⟩
  · refine .inr ⟨e, ?_, he⟩
    unfold plan
    rw [hresolve]
    rfl

variable {s r}

theorem Obstacle.absurd {l : List (Controller × ButtonId)} {e : Error} (he : s.Obstacle r e)
    (hl : s.Found r l) (hprograms : ∀ x ∈ l, s.Programs x.1) : False := by
  have hfound : ∀ d b, s.button? d = some b →
      ∃ x ∈ l, r.get? d = some x.1 ∧ x.1.isBound = true := by
    intro d b hb
    obtain ⟨x, hx, -, hc, hbound, -⟩ := exists_mem_of_forall₂ hl (ByteMap.get?_eq_some_iff.mp hb)
    exact ⟨x, hx, hc, hbound⟩
  cases he with
  | missing hb hnone =>
    obtain ⟨x, -, hc, -⟩ := hfound _ _ hb
    rw [hnone] at hc
    cases hc
  | unbound hb hc hunbound =>
    obtain ⟨x, -, hc', hbound⟩ := hfound _ _ hb
    rw [hc] at hc'
    cases hc'
    rw [hunbound] at hbound
    cases hbound
  | noGroups hb hc hnot =>
    obtain ⟨x, hx, hc', -⟩ := hfound _ _ hb
    rw [hc] at hc'
    cases hc'
    rw [(hprograms x hx).1] at hnot
    cases hnot
  | noLevels hb hc hlevels hnot =>
    obtain ⟨x, hx, hc', -⟩ := hfound _ _ hb
    rw [hc] at hc'
    cases hc'
    rw [(hprograms x hx).2 hlevels] at hnot
    cases hnot

end

end MeshScenes.Scene
