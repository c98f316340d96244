import MeshScenes.Proofs.Programming

/-!
# How operations fail

`Throws` says for what reasons an operation can fail from the subjects of an invariant. Where the
controllers of a scene are registered and can be driven, none of the checks made on the way fails:
only the channel refuses frames, and controllers may lack what programming needs.
-/

namespace MeshScenes

namespace Act

variable {σ τ χ α β : Type} {I : σ → Prop} {P Q : Error → Prop}

def FailsBy (P : Error → Prop) : Except Error α → Prop
  | .ok _ => True
  | .error e => P e

/-- From a subject of `I` the operation leaves one of `I`, and it fails only for reasons of `P`. -/
def Throws (I : σ → Prop) (P : Error → Prop) (x : Act σ χ α) : Prop :=
  ∀ s, I s.1 → x.Ends s fun r t => I t.1 ∧ FailsBy P r

theorem Throws.error {x : Act σ χ α} (hx : x.Throws I P) {s : σ × Outlet χ} (hs : I s.1) {e : Error}
    (he : x.answer s = .error e) : P e := by
  have hfails := (ends_iff.mp (hx s hs)).2
  rw [he] at hfails
  exact hfails

theorem Throws.mono {x : Act σ χ α} (hx : x.Throws I P) (h : ∀ e, P e → Q e) : x.Throws I Q := by
  intro s hs
  apply (hx s hs).mono
  intro r t ht
  cases r with
  | ok a => exact ht
  | error e => exact ⟨ht.1, h e ht.2⟩

theorem throws_pure (a : α) : (pure a : Act σ χ α).Throws I P := fun _ hs => ⟨hs, trivial⟩

theorem throws_note (e : Journal.Entry) :
    (note e : Act σ χ Unit).Throws I P := fun _ hs => ⟨hs, trivial⟩

theorem throws_change {f : σ → σ} (hf : ∀ a, I a → I (f a)) :
    (change f : Act σ χ Unit).Throws I P :=
  fun s hs => ⟨hf s.1 hs, trivial⟩

theorem throws_replace {a : σ} (ha : I a) :
    (replace a : Act σ χ Unit).Throws I P := fun _ _ => ⟨ha, trivial⟩

theorem Throws.bind {x : Act σ χ β} {f : β → Act σ χ α} (hx : x.Throws I P)
    (hf : ∀ b, (f b).Throws I P) :
    (x >>= f).Throws I P := by
  intro s hs
  rw [ends_bind]
  apply (hx s hs).mono
  intro r t ht
  cases r with
  | error e => exact ht
  | ok b => exact hf b t ht.1

theorem Throws.after_note {e : Journal.Entry} {f : Unit → Act σ χ α} (hf : (f ()).Throws I P) :
    (note e >>= f).Throws I P := (throws_note e).bind fun _ => hf

theorem throws_subject_bind {f : σ → Act σ χ α} (hf : ∀ a, I a → (f a).Throws I P) :
    (subject >>= f).Throws I P := by
  intro s hs
  rw [ends_bind, ends_subject]
  exact hf s.1 hs s hs

theorem throws_of_bind {x : Except Error β} {f : β → Act σ χ α} (hx : ∀ e, x = .error e → P e)
    (hf : ∀ b, x = .ok b → (f b).Throws I P) : (of x >>= f).Throws I P := by
  cases x with
  | error e =>
    intro s hs
    exact ⟨hs, hx e rfl⟩
  | ok b => exact hf b rfl

theorem throws_forM {ι : Type} {f : ι → Act σ χ Unit} {l : List ι}
    (hf : ∀ i ∈ l, (f i).Throws I P) :
    (l.forM f).Throws I P := by
  induction l with
  | nil => exact throws_pure ()
  | cons i l ih =>
    apply (hf i List.mem_cons_self).bind
    intro _
    exact ih fun j hj => hf j (List.mem_cons_of_mem _ hj)

theorem throws_foldlM {ι : Type} {f : β → ι → Act σ χ β} {l : List ι}
    (hf : ∀ i ∈ l, ∀ b, (f b i).Throws I P) (b : β) :
    (l.foldlM f b).Throws I P := by
  induction l generalizing b with
  | nil => exact throws_pure b
  | cons i l ih =>
    rw [List.foldlM_cons]
    apply (hf i List.mem_cons_self b).bind
    intro c
    exact ih (fun j hj => hf j (List.mem_cons_of_mem _ hj)) c

theorem throws_outcome {x : Act σ χ α} (hx : x.Throws I Q) : (outcome x).Throws I P := by
  intro s hs
  rw [ends_outcome]
  apply (hx s hs).mono
  intro r t ht
  exact ⟨ht.1, trivial⟩

theorem throws_aside {fresh : τ} {x : Act τ χ α} (hx : x.Throws (fun _ => True) P) :
    (aside fresh x : Act σ χ (α × τ)).Throws I P := by
  intro s hs
  have hend := hx (fresh, s.2) trivial
  unfold Ends at hend ⊢
  unfold aside
  cases hrun : x (fresh, s.2) with
  | ok a t => exact ⟨hs, trivial⟩
  | error e t =>
    rw [hrun] at hend
    exact ⟨hs, hend.2⟩

end Act

/-! ## Refusals -/

section
variable {χ : Type} [Channel χ]

/-- The error of an operation whose frame the channel refused. -/
def Refused (χ : Type) [Channel χ] (e : Error) : Prop :=
  ∃ f, ∃ c : χ, ∃ cause, (Channel.send f c).refusal = some cause ∧ e = .transport cause

theorem Outlet.refused_sendAll {o o' : Outlet χ} {fs : List OutboundFrame}
    {cause : TransportFailure} (h : o.sendAll fs = (some cause, o')) :
    Refused χ (.transport cause) := by
  induction fs generalizing o with
  | nil => cases h
  | cons f fs ih =>
    unfold sendAll at h
    rcases hs : o.send f with ⟨_ | refusal, o''⟩
    · rw [hs] at h
      exact ih h
    · rw [hs] at h
      cases h
      exact ⟨f, o.channel, cause, congrArg Prod.fst hs, rfl⟩

variable {σ α : Type} {I : σ → Prop}

theorem Act.throws_requests {rs : List (DeviceId × Request)} {fs : List OutboundFrame}
    (h : List.Forall₂ (fun r f => r.2.frame r.1 = .ok f) rs fs) :
    (requests rs : Act σ χ Unit).Throws I (Refused χ) := by
  intro s hs
  unfold Ends
  rw [run_requests h]
  rcases hsend : s.2.sendAll fs with ⟨_ | cause, o⟩
  · exact ⟨hs, trivial⟩
  · exact ⟨hs, Outlet.refused_sendAll hsend⟩

theorem Registry.throws_react {r : Registry} {d : DeviceId} {c : Controller}
    {f : Controller → Except Error (Reaction α)}
    (hc : r.get? d = some c) (hf : ∀ b, c.Alike b → ∃ x fs, f b = .ok x ∧ b.Alike x.controller ∧
      List.Forall₂ (fun q f => q.frame x.controller.device = .ok f) x.requests fs) :
    (react d f : Act Registry χ α).Throws r.Alike (Refused χ) := by
  intro s hs
  obtain ⟨b, hb, hcb⟩ := hs.exists_get? hc
  obtain ⟨x, fs, hx, hbx, hfs⟩ := hf b hcb
  have hleft : r.Alike (s.1.insert d x.controller) := hs.trans (alike_insert hb hbx)
  unfold Act.Ends
  rw [run_react hb hx hfs]
  rcases hsend : (s.2.noted x.notes).sendAll fs with ⟨_ | cause, o⟩
  · exact ⟨hleft, trivial⟩
  · exact ⟨hleft, Outlet.refused_sendAll hsend⟩

theorem Registry.throws_setButton {r : Registry} {d : DeviceId} {c : Controller} {b : ButtonId}
    (hc : r.get? d = some c) (hb : Drivable c b) (on : Bool) :
    (setButton d b on : Act Registry χ Bool).Throws r.Alike (Refused χ) := by
  apply throws_react hc
  intro y hcy
  obtain ⟨hbound, haccepts, hcount⟩ := hb.of_alike hcy
  obtain ⟨x, hx⟩ := Controller.setButton_ok on hbound haccepts hcount
  obtain ⟨-, -, -, hcontroller, -⟩ := Controller.setButton_eq_ok hx
  refine ⟨x, y.switchFrames b on, hx, ?_, Controller.frames_setButton hx⟩
  rw [hcontroller]
  exact Controller.alike_switched y b on

theorem Registry.throws_requestIndicator {r : Registry} {d : DeviceId} {c : Controller}
    (hc : r.get? d = some c) :
    (react d (.ok ·.requestIndicator) : Act Registry χ Unit).Throws r.Alike (Refused χ) := by
  apply throws_react hc
  intro y _
  exact ⟨_, _, rfl, Controller.alike_requestIndicator y, Controller.frames_requestIndicator y⟩

theorem Registry.throws_refresh (r : Registry) :
    (refresh : Act Registry χ Unit).Throws r.Alike (Refused χ) := by
  apply Act.throws_subject_bind
  intro k hk
  apply Act.throws_forM
  intro d hd
  have hregistered : r.contains d = true := by
    rw [← hk.contains]
    exact ByteMap.mem_keys_iff.mp hd
  obtain ⟨c, hc⟩ := ByteMap.contains_iff.mp hregistered
  exact throws_requestIndicator hc

end

namespace Scene

variable {χ : Type} [Channel χ] {s : Scene} {r : Registry}

theorem throws_activate (h : s.Served r) :
    (s.activate : Act Registry χ Nat).Throws r.Alike (Refused χ) := by
  unfold activate
  by_cases hempty : s.controllers.isEmpty = true
  · rw [if_pos hempty]
    apply Act.Throws.after_note
    exact Act.throws_pure 0
  · rw [if_neg hempty]
    apply Act.throws_subject_bind
    intro k hk
    obtain ⟨l, hl, -⟩ := resolve_of_served (h.of_alike hk)
    apply Act.throws_of_bind
    · intro e he
      rw [hl] at he
      cases he
    intro _ _
    apply Act.Throws.bind
    · apply Act.throws_foldlM
      intro e he n
      obtain ⟨c, hc, hdrivable⟩ := h e.1 e.2 (ByteMap.get?_eq_some_iff.mpr he)
      apply (Registry.throws_setButton hc hdrivable true).bind
      intro _
      exact Act.throws_pure _
    · intro n
      apply Act.Throws.after_note
      exact Act.throws_pure n

theorem throws_sync (h : s.Served r) (origin : DeviceId) (on : Bool) :
    (s.sync origin on : Act Registry χ Nat).Throws r.Alike (Refused χ) := by
  unfold sync
  apply Act.Throws.bind
  · apply Act.throws_foldlM
    intro e he n
    obtain ⟨c, hc, hdrivable⟩ := h e.1 e.2 (ByteMap.get?_eq_some_iff.mpr (List.mem_filter.mp he).1)
    apply Act.throws_subject_bind
    intro k hk
    split
    · apply (Registry.throws_setButton hc hdrivable on).bind
      intro _
      exact Act.throws_pure _
    · apply Act.Throws.after_note
      exact Act.throws_pure n
  · intro n
    apply Act.Throws.after_note
    exact Act.throws_pure n

/-! ## Programming -/

theorem plan_cases (h : s.Served r) (hdevice : ∀ d c, r.get? d = some c → c.device = d)
    (coordinator : DeviceId) :
    (∃ d needed, s.plan r coordinator = .error (.unsupported d needed)) ∨
      ∃ l, s.plan r coordinator = .ok (s.planFor l coordinator) ∧
        List.Forall₂ (fun x e => x.1.device = e.1 ∧ x.2 = e.2) l s.controllers.toList := by
  rcases s.plan_spec r coordinator with ⟨l, hplan, hl, -⟩ | ⟨e, hplan, he⟩
  · right
    refine ⟨l, hplan, hl.imp ?_⟩
    rintro x e ⟨-, hc, -, hb⟩
    exact ⟨hdevice e.1 x.1 hc, hb⟩
  · left
    obtain ⟨-, -, c, needed, -, -, -, rfl⟩ := he.of_served h
    exact ⟨c.device, needed, hplan⟩

theorem throws_program {σ : Type} {I : σ → Prop} (h : s.Served r)
    (hdevice : ∀ d c, r.get? d = some c → c.device = d) (coordinator : DeviceId) :
    (s.program r coordinator : Act σ χ ProgramSummary).Throws I
      fun e => Refused χ e ∨ ∃ d needed, e = .unsupported d needed := by
  have phase {rs fs} (hrs : Asks rs fs) :
      (Act.requests rs : Act σ χ Unit).Throws I fun e => Refused χ e ∨ ∃ d needed,
        e = .unsupported d needed :=
    (Act.throws_requests hrs).mono fun e he => .inl he
  unfold program
  rcases plan_cases h hdevice coordinator with ⟨d, needed, hplan⟩ | ⟨l, hplan, hl⟩
  · apply Act.throws_of_bind
    · intro e he
      rw [hplan] at he
      cases he
      exact .inr ⟨d, needed, rfl⟩
    · intro plan hok
      rw [hplan] at hok
      cases hok
  · rw [hplan]
    apply Act.throws_of_bind
    · intro e he
      cases he
    intro plan hok
    cases hok
    -- once the plan stands, each phase fails for a refused frame only
    apply (phase (asks_resets hl coordinator)).bind
    intro _
    apply Act.Throws.after_note
    apply (phase (asks_grouped hl coordinator)).bind
    intro _
    apply Act.Throws.after_note
    apply (phase (asks_controllers hl coordinator)).bind
    intro _
    apply Act.Throws.after_note
    apply (phase (asks_capable coordinator)).bind
    intro _
    apply Act.Throws.after_note
    exact Act.throws_pure _

end Scene

/-! ## Attaching controllers -/

/-- Errors that speak of the manager's own state and not of what it was asked for. -/
def Error.Internal : Error → Prop
  | .validation (.buttonCountOutOfRange _) => True
  | .validation (.controllerNotBound _) => True
  | .notFound (.controller _) => True
  | .encoding _ => True
  | _ => False

section
variable {χ : Type} [Channel χ]

theorem Refused.not_internal {e : Error} (h : Refused χ e) : ¬ e.Internal := by
  obtain ⟨f, c, cause, -, rfl⟩ := h
  exact id

theorem Controller.not_internal_of_bind {c : Controller} {directory : Directory} {e : Error}
    (h : c.bind directory = .error e) : ¬ e.Internal := by
  rcases bind_eq_error h with rfl | rfl | rfl
  · exact id
  · exact id
  · exact id

theorem Reaction.throws_run {α : Type} {I : Controller → Prop} {r : Reaction α}
    {fs : List OutboundFrame} (hI : I r.controller)
    (h : List.Forall₂ (fun q f => q.frame r.controller.device = .ok f) r.requests fs) :
    (r.run : Act Controller χ α).Throws I (Refused χ) := by
  intro s hs
  unfold Act.Ends
  rw [run_run h]
  rcases hsend : (s.2.noted r.notes).sendAll fs with ⟨_ | cause, o⟩
  · exact ⟨hI, trivial⟩
  · exact ⟨hI, Outlet.refused_sendAll hsend⟩

theorem Registry.throws_getOrBind {count : UInt8} (hcount : 2 ≤ count ∧ count ≤ 8) (d : DeviceId)
    (directory : Directory) :
    (getOrBind d count directory : Act Registry χ Controller).Throws (fun _ => True)
      (¬ ·.Internal) := by
  unfold getOrBind
  apply Act.throws_subject_bind
  intro r _
  cases r.get? d with
  | some c => exact Act.throws_pure c
  | none =>
    apply Act.throws_of_bind
    · intro e he
      simp [Controller.setButtonCount, hcount, Except.mapError] at he
    intro c _
    apply Act.throws_of_bind
    · intro e he
      exact Controller.not_internal_of_bind he
    intro reaction hreaction
    apply Act.Throws.bind
    · apply Act.throws_aside
      exact (Reaction.throws_run trivial (frames_bind hreaction)).mono fun e he => he.not_internal
    intro bound
    apply (Act.throws_change fun _ _ => trivial).bind
    intro _
    exact Act.throws_pure _

end

end MeshScenes
