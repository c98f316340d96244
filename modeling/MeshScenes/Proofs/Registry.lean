import MeshScenes.Proofs.Controller

/-!
# The registry

What attaching a controller leaves behind, and the relation between registries that differ only by
what traffic does to pictures.
-/

namespace MeshScenes.Registry

def Alike (r r' : Registry) : Prop := ∀ d, Option.Rel Controller.Alike (r.get? d) (r'.get? d)

theorem alike_refl (r : Registry) : r.Alike r := by
  intro d
  cases r.get? d with
  | none => exact .none
  | some c => exact .some (Controller.Alike.refl c)

theorem Alike.trans {r s t : Registry} (h : r.Alike s) (h' : s.Alike t) : r.Alike t := by
  intro d
  have h := h d
  have h' := h' d
  generalize r.get? d = x at h ⊢
  generalize s.get? d = y at h h'
  generalize t.get? d = z at h' ⊢
  cases h with
  | none => exact h'
  | some h =>
    cases h' with
    | some h' => exact .some (h.trans h')

theorem Alike.contains {r s : Registry} (h : r.Alike s) (d : DeviceId) :
    s.contains d = r.contains d := by
  have h := h d
  unfold ByteMap.contains
  generalize r.get? d = x at h
  generalize s.get? d = y at h
  cases h <;> rfl

theorem Alike.get? {r s : Registry} (h : r.Alike s) {d : DeviceId} {c : Controller}
    (hc : s.get? d = some c) :
    ∃ b, r.get? d = some b ∧ b.Alike c := by
  have h := h d
  rw [hc] at h
  cases hr : r.get? d with
  | none => rw [hr] at h; cases h
  | some b => rw [hr] at h; cases h with | some h => exact ⟨b, rfl, h⟩

theorem Alike.exists_get? {r s : Registry} (h : r.Alike s) {d : DeviceId} {c : Controller}
    (hc : r.get? d = some c) :
    ∃ b, s.get? d = some b ∧ c.Alike b := by
  have h := h d
  rw [hc] at h
  cases hs : s.get? d with
  | none => rw [hs] at h; cases h
  | some b => rw [hs] at h; cases h with | some h => exact ⟨b, rfl, h⟩

theorem alike_insert {r : Registry} {d : DeviceId} {c c' : Controller} (hc : r.get? d = some c)
    (h : c.Alike c') : r.Alike (r.insert d c') := by
  intro e
  rw [ByteMap.get?_insert]
  split
  next he => rw [he, hc]; exact .some h
  next => exact alike_refl r e

theorem alike_handleReport {r : Registry} {d : DeviceId} {c : Controller} (bitmask : UInt8)
    (hc : r.get? d = some c) :
    r.Alike (r.insert d (c.handleReport bitmask).1) :=
  alike_insert hc (Controller.alike_handleReport c bitmask)

/-! ## Operations that keep registries alike -/

variable {χ : Type}

def Stays (s t : Registry × Outlet χ) : Prop := s.1.Alike t.1

instance : IsPreorder (Registry × Outlet χ) Stays where
  refl s := alike_refl s.1
  trans _ _ _ h h' := h.trans h'

variable [Channel χ] {α : Type}

theorem after_run_fst (r : Reaction α) (s : Controller × Outlet χ) :
    (r.run.after s).1 = r.controller := by
  have keep : (do
      Act.notes r.notes
      Act.requests (r.requests.map fun q => (r.controller.device, q))
      return r.answer : Act Controller χ α).Moves fun s t => t.1 = s.1 := by
    have : IsPreorder (Controller × Outlet χ) fun s t => t.1 = s.1 :=
      { refl := fun _ => rfl, trans := fun _ _ _ h h' => h'.trans h }
    refine Act.moves_bind (Act.moves_notes (fun _ _ => rfl) _) fun _ => ?_
    exact Act.moves_bind (Act.moves_requests fun _ _ _ _ _ => rfl) fun _ => Act.moves_pure _
  have h := keep (r.controller, s.2)
  unfold Reaction.run Act.after
  rw [Act.run_bind, Act.run_replace]
  exact h

theorem stays_react {d : DeviceId} {f : Controller → Except Error (Reaction α)}
    (hf : ∀ c r, f c = .ok r → c.Alike r.controller) :
    (react d f : Act Registry χ α).Moves Stays := by
  intro s
  cases hc : s.1.get? d with
  | none =>
    rw [after_react_error fun c h => by rw [hc] at h; cases h]
    exact alike_refl s.1
  | some c =>
    cases hr : f c with
    | error e =>
      rw [after_react_error fun b h => by rw [hc] at h; cases h; exact ⟨e, hr⟩]
      exact alike_refl s.1
    | ok r =>
      have : (react d f).after s = (s.1.insert d r.controller, (r.run.after (c, s.2)).2) := by
        rw [← after_run_fst r (c, s.2)]
        unfold react
        conv_lhs => unfold Act.after
        rw [Act.run_bind, Act.run_subject]
        simp only [hc, hr]
        rw [Act.run_bind, Act.run_of_ok]
        exact Act.after_within
      show s.1.Alike ((react d f).after s).1
      rw [this]
      exact alike_insert hc (hf c r hr)

theorem stays_setButton (d : DeviceId) (b : ButtonId) (on : Bool) :
    (setButton d b on : Act Registry χ Bool).Moves Stays := by
  refine stays_react fun c r h => ?_
  obtain ⟨-, -, -, hc, -⟩ := Controller.setButton_eq_ok h
  rw [hc]
  exact Controller.alike_switched c b on

theorem stays_requestIndicator (d : DeviceId) :
    (react d (.ok ·.requestIndicator) : Act Registry χ Unit).Moves Stays := by
  refine stays_react fun c r h => ?_
  cases h
  exact Controller.alike_requestIndicator c

/-! ## Attaching a controller -/

/-- A controller as it is attached to a device: nothing is known of its lights yet. -/
structure Attached (directory : Directory) (d : DeviceId) (count : UInt8) (c : Controller) :
    Prop where
  device : c.device = d
  isBound : c.isBound = true
  buttonCount : c.buttonCount = count
  indicator : c.indicator = 0
  reported : c.reported = none
  fits : ∃ x, directory d = some x ∧ c.Fits x

theorem frames_bind {c : Controller} {directory : Directory} {r : Reaction Unit}
    (h : c.bind directory = .ok r) :
    List.Forall₂ (fun q f => q.frame r.controller.device = .ok f) r.requests
      r.controller.askFrames := by
  obtain ⟨x, -, hfits, -, -, -, -, -, hrequests⟩ := Controller.bind_eq_ok h
  rw [hrequests, Controller.askFrames, hfits.indicator]
  split
  · exact .cons (Request.frame_indicatorGet _) .nil
  · exact .nil

theorem run_getOrBind {d : DeviceId} {count : UInt8} {directory : Directory} {c : Controller}
    {r : Reaction Unit} {s : Registry × Outlet χ} (hd : s.1.get? d = none)
    (hc : ((Controller.new d).setButtonCount count).mapError Error.validation = .ok c)
    (hr : c.bind directory = .ok r) :
    getOrBind d count directory s = match (s.2.noted r.notes).sendAll r.controller.askFrames with
      | (none, o) => .ok r.controller (s.1.insert d r.controller, o)
      | (some refusal, o) => .error (.transport refusal) (s.1, o) := by
  unfold getOrBind
  rw [Act.run_bind, Act.run_subject]
  simp only [hd, hc]
  rw [Act.run_bind, Act.run_of_ok]
  simp only
  rw [Act.run_bind, hr, Act.run_of_ok]
  simp only
  rw [Act.run_bind]
  unfold Act.aside
  simp only [Reaction.run_run (frames_bind hr)]
  rcases (s.2.noted r.notes).sendAll r.controller.askFrames with ⟨_ | refusal, o⟩ <;> rfl

/-- A controller is looked up, or else attached and asked for its lights; it is registered only when
that succeeds. -/
theorem ends_getOrBind (d : DeviceId) (count : UInt8) (directory : Directory)
    (s : Registry × Outlet χ) :
    (getOrBind d count directory).Ends s fun r t =>
      match r with
      | .ok c => s.1.get? d = some c ∧ t = s ∨
          s.1.get? d = none ∧ t.1 = s.1.insert d c ∧ Attached directory d count c ∧
            ∃ es, (s.2.noted es).sendAll c.askFrames = (none, t.2)
      | .error _ => t.1 = s.1 ∧ s.1.get? d = none ∧
          (t.2 = s.2 ∨ ∃ es fs refusal, (s.2.noted es).sendAll fs = (some refusal, t.2)) := by
  cases hd : s.1.get? d with
  | some c =>
    unfold getOrBind
    rw [Act.ends_bind, Act.ends_subject]
    simp only [hd]
    exact .inl ⟨rfl, rfl⟩
  | none =>
    -- the number of buttons may fail, then a check of the device, then the question for the lights
    cases hn : ((Controller.new d).setButtonCount count).mapError Error.validation with
    | error e =>
      unfold getOrBind
      rw [Act.ends_bind, Act.ends_subject]
      simp only [hd]
      rw [Act.ends_bind, Act.ends_of, hn]
      exact ⟨rfl, trivial, .inl rfl⟩
    | ok c =>
      have hc : c = { Controller.new d with buttonCount := count } := by
        unfold Controller.setButtonCount at hn
        split at hn <;> cases hn
        rfl
      cases hb : c.bind directory with
      | error e =>
        unfold getOrBind
        rw [Act.ends_bind, Act.ends_subject]
        simp only [hd]
        rw [Act.ends_bind, Act.ends_of, hn]
        simp only
        rw [Act.ends_bind, Act.ends_of, hb]
        exact ⟨rfl, trivial, .inl rfl⟩
      | ok r =>
        obtain ⟨x, hx, hfits, hdev, hbound, hcount, hind, hrep, hreq⟩ := Controller.bind_eq_ok hb
        have hattached : Attached directory d count r.controller := by
          rw [hc] at hdev hcount hind hx
          exact ⟨hdev, hbound, hcount, hind, hrep, x, hx, hfits⟩
        unfold Act.Ends
        rw [run_getOrBind hd hn hb]
        rcases hs : (s.2.noted r.notes).sendAll r.controller.askFrames with ⟨_ | refusal, o⟩
        · exact .inr ⟨rfl, rfl, hattached, r.notes, hs⟩
        · exact ⟨rfl, rfl, .inr ⟨r.notes, _, refusal, hs⟩⟩

end MeshScenes.Registry
