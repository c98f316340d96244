import MeshScenes.Proofs.Controller.History
import MeshScenes.Simulation.Dimmer

/-!
# Attaching in vain

Attaching a controller can fail at a check, or because the question for the lights is refused. The
checks come before anything is done; the question comes when the controller is attached already.
`failed_bind_unchanged_iff`: the controller is as it was exactly if a check failed.
-/

namespace MeshScenes.Controller

variable {χ : Type} [Channel χ] {c : Controller} {directory : Directory} {e : Error}

theorem answer_bind_of_error (h : c.bind directory = .error e) (o : Outlet χ) :
    (Operation.bind directory).run.answer (c, o) = .error e := by
  have hreaction : (Operation.bind directory).reaction c = .error e := h
  unfold Operation.run Act.answer
  rw [Act.run_bind, Act.run_subject]
  simp only [hreaction, Act.run_bind, Act.run_of_error]

theorem attachable?_of_bind {r : Reaction Unit} (h : c.bind directory = .ok r) :
    ∃ x, Operation.attachable? directory c.device = some x ∧ r.controller.isBound = true ∧
      r.controller.Fits x := by
  obtain ⟨x, hx, hfits, -, hbound, -⟩ := bind_eq_ok h
  refine ⟨x, ?_, hbound, hfits⟩
  exact Option.filter_eq_some_iff.mpr ⟨hx,
    Bool.and_eq_true_iff.mpr ⟨hfits.isController, hfits.configurable⟩⟩

theorem transport_of_answer_bind {r : Reaction Unit} (hr : c.bind directory = .ok r) {o : Outlet χ}
    (h : (Operation.bind directory).run.answer (c, o) = .error e) :
    ∃ cause, e = .transport cause := by
  have hreaction : (Operation.bind directory).reaction c = .ok r := hr
  unfold Operation.run Act.answer at h
  rw [Act.run_bind, Act.run_subject] at h
  simp only [hreaction] at h
  rw [Act.run_bind, Act.run_of_ok] at h
  simp only [Reaction.run_run (Registry.frames_bind hr)] at h
  rcases hsend : (o.noted r.notes).sendAll r.controller.askFrames with ⟨_ | cause, o'⟩
  · rw [hsend] at h
    cases h
  · rw [hsend] at h
    cases h
    exact ⟨cause, rfl⟩

/-- A controller that is not attached, and that could not be attached over some channel, is as it
was exactly if a check failed, the device not being attachable. Otherwise it is left attached. -/
theorem failed_bind_unchanged_iff (hunbound : c.isBound = false) {channel : χ}
    (hfails : (Operation.bind directory).run.answer (c, .opened channel) = .error e) :
    ((Turn.of (.bind directory) c channel).left = c ↔ ∀ cause, e ≠ .transport cause) ∧
      ((∀ cause, e ≠ .transport cause) ↔ Operation.attachable? directory c.device = none) ∧
      ∀ x, Operation.attachable? directory c.device = some x →
        (Turn.of (.bind directory) c channel).left.isBound = true ∧
          (Turn.of (.bind directory) c channel).left.Fits x := by
  -- a check that fails leaves the controller, and behind the checks only a refusal is left
  cases hr : c.bind directory with
  | error e' =>
    have hreaction : (Operation.bind directory).reaction c = .error e' := hr
    have hleft : (Turn.of (.bind directory) c channel).left = c := by
      rw [Turn.of_error hreaction]
    have hcheck : ∀ cause, e ≠ .transport cause := by
      rw [answer_bind_of_error hr] at hfails
      cases hfails
      rcases bind_eq_error hr with rfl | rfl | rfl
      all_goals exact fun cause h => by cases h
    have hnone := attachable?_of_bind_error hr
    refine ⟨iff_of_true hleft hcheck, iff_of_true hcheck hnone, fun x hx => ?_⟩
    rw [hnone] at hx
    cases hx
  | ok r =>
    obtain ⟨cause, rfl⟩ := transport_of_answer_bind hr hfails
    obtain ⟨x, hx, hbound, hfits⟩ := attachable?_of_bind hr
    have hreaction : (Operation.bind directory).reaction c = .ok r := hr
    have hleft : (Turn.of (.bind directory) c channel).left = r.controller := by
      rw [Turn.of_ok hreaction (Registry.frames_bind hr)]
    have hne : r.controller ≠ c := by
      rintro rfl
      rw [hbound] at hunbound
      cases hunbound
    have hrefused : ¬ ∀ cause', Error.transport cause ≠ .transport cause' := fun h => h cause rfl
    rw [hleft]
    refine ⟨iff_of_false hne hrefused, iff_of_false hrefused (by simp [hx]), fun y hy => ?_⟩
    rw [hx] at hy
    cases hy
    exact ⟨hbound, hfits⟩

def silent : FaultyChannel := ⟨ByteMap.empty, some 0⟩

/-- Node 2 is a dimmer, and nothing could be sent to it. -/
theorem failed_bind_unchanged_iff_dimmer :
    let c : Controller :=
  { Controller.new ⟨2⟩ with indicator := 5, reported := some 5, buttonCount := 7 }
    let directory : Directory := fun id => some (Dimmer.new id true).descriptor
    (Operation.bind directory).run.answer (c, .opened silent) =
      .error (.validation (.notASceneController ⟨2⟩)) ∧
      (Turn.of (.bind directory) c silent).left = c := by
  have hfails : (Operation.bind fun id => some (Dimmer.new id true).descriptor).run.answer
      (({ Controller.new ⟨2⟩ with
          indicator := 5, reported := some 5, buttonCount := 7 } : Controller), .opened silent) =
      .error (.validation (.notASceneController ⟨2⟩)) := by decide +kernel
  exact ⟨hfails, (failed_bind_unchanged_iff rfl hfails).1.mpr fun cause h => by cases h⟩

/-- A keypad with lights is left attached, though attaching it failed. -/
theorem silent_keypad_left_attached :
    (Controller.new ⟨2⟩).isBound = false ∧
      (Operation.bind (oneKeypad [.indicator])).run.answer (.new ⟨2⟩, .opened silent) =
        .error (.transport .channelDown) ∧
      (Turn.of (.bind (oneKeypad [.indicator])) (.new ⟨2⟩) silent).left =
        { Controller.new ⟨2⟩ with state := .boundPending, supportsIndicator := true } := by
  decide +kernel

end MeshScenes.Controller
