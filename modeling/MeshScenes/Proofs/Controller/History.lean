import MeshScenes.Channel.Faulty
import MeshScenes.Controller.Operation
import MeshScenes.Proofs.Registry

/-!
# The history of a controller

What happens to a controller is that it is attached, that a frame is handed to the channel, and that
a report is taken over. `history_decides`: its state is told by the last of these, what it was last
told by the reports since it was attached, and nothing is handed over for a device without lights.
-/

namespace MeshScenes

/-! ## One or two frames -/

namespace Outlet

variable {χ : Type} [Channel χ]

theorem attempts_sendAll_singleton (o : Outlet χ) (f : OutboundFrame) :
    ∃ accepted, (o.sendAll [f]).2.attempts = o.attempts ++ [⟨f, accepted⟩] := by
  have hf : (o.send f).2.attempts = o.attempts ++ [⟨f, (o.send f).1.isNone⟩] := rfl
  refine ⟨(o.send f).1.isNone, ?_⟩
  rw [← hf]
  unfold sendAll
  rcases o.send f with ⟨_ | refusal, o'⟩
  · rfl
  · rfl

theorem attempts_sendAll_pair (o : Outlet χ) (f g : OutboundFrame) :
    (o.sendAll [f, g]).2.attempts = o.attempts ++ [⟨f, false⟩] ∨
      ∃ accepted, (o.sendAll [f, g]).2.attempts = o.attempts ++ [⟨f, true⟩, ⟨g, accepted⟩] := by
  have hf : (o.send f).2.attempts = o.attempts ++ [⟨f, (o.send f).1.isNone⟩] := rfl
  rw [sendAll]
  rcases hs : o.send f with ⟨_ | refusal, o'⟩
  · rw [hs] at hf
    obtain ⟨accepted, hg⟩ := o'.attempts_sendAll_singleton g
    right
    refine ⟨accepted, ?_⟩
    simp only
    rw [hg, hf, List.append_assoc]
    rfl
  · rw [hs] at hf
    exact .inl hf

end Outlet

namespace Controller

/-! ## What happens to a controller -/

inductive Occurrence where
  /-- To a device that has lights, or none. -/
  | attached (lights : Bool)
  | handed (a : Attempt)
  | reported (bitmask : UInt8)
  deriving DecidableEq

namespace Operation

/-- The device that can be attached: it is known, is a scene controller and can be told its
scenes. -/
def attachable? (directory : Directory) (d : DeviceId) : Option Device :=
  (directory d).filter fun x => x.deviceClass.isSceneController && x.supports .sceneControllerConf

/-- What an operation brings about, the frames apart. -/
def occasion (d : DeviceId) : Operation → List Occurrence
  | bind directory =>
    (attachable? directory d).toList.map fun x => .attached (x.supports .indicator)
  | handleReport bitmask => [.reported bitmask]
  | _ => []

/-- The operation gives the picture lights that it has not. -/
def Rewrites (c : Controller) : Operation → Prop
  | setIndicator bitmask => c.indicator ≠ bitmask
  | setButton b on => c.isBound = true ∧ c.acceptsButton b = true ∧ c.isOn b ≠ on
  | _ => False

end Operation

/-- What an operation can do: the frames that it hands over, and the controller that it leaves. -/
inductive Course (c : Controller) : Operation → List Attempt → Controller → Prop where
  | idle {op : Operation} (count : UInt8) : op.occasion c.device = [] → ¬ op.Rewrites c →
    count ≤ 8 →
      Course c op [] { c with buttonCount := count }
  | pictured {op : Operation} (lights : UInt8) : op.occasion c.device = [] → op.Rewrites c →
      c.supportsIndicator = false → c.indicator ≠ lights →
      Course c op [] { c with indicator := lights }
  | asked {op : Operation} (accepted : Bool) : op.occasion c.device = [] →
    c.supportsIndicator = true →
      Course c op [⟨.askLights c.device, accepted⟩] { c with state := .boundPending }
  | unwritten {op : Operation} (lights : UInt8) : op.occasion c.device = [] →
    c.supportsIndicator = true →
      Course c op [⟨.setLights c.device lights, false⟩]
        { c with indicator := lights, state := .boundPending }
  | written {op : Operation} (lights : UInt8) (accepted : Bool) : op.occasion c.device = [] →
      c.supportsIndicator = true →
      Course c op [⟨.setLights c.device lights, true⟩, ⟨.askLights c.device, accepted⟩]
        { c with indicator := lights, state := .boundPending }
  | attachedDark {directory : Directory} (portable cooper association configuration : Bool) :
      (Operation.bind directory).occasion c.device = [.attached false] →
      Course c (.bind directory) []
        { c with portable, cooper, supportsIndicator := false, supportsAssociation := association,
                 supportsConfiguration := configuration, state := .boundUnknown, reported := none }
  | attachedLit {directory : Directory}
    (portable cooper association configuration accepted : Bool) :
      (Operation.bind directory).occasion c.device = [.attached true] →
      Course c (.bind directory) [⟨.askLights c.device, accepted⟩]
        { c with portable, cooper, supportsIndicator := true, supportsAssociation := association,
                 supportsConfiguration := configuration, state := .boundPending, reported := none }
  | reported (bitmask : UInt8) : Course c (.handleReport bitmask) [] (c.handleReport bitmask).1

section
variable {χ : Type} [Channel χ]

theorem Turn.of_error {op : Operation} {c : Controller} {e : Error} (h : op.reaction c = .error e)
    (channel : χ) :
    Turn.of op c channel = ⟨op, c, [], c⟩ := by
  unfold Turn.of Operation.run Act.after
  rw [Act.run_bind, Act.run_subject]
  simp only [h, Act.run_bind, Act.run_of_error]
  rfl

theorem Turn.of_ok {op : Operation} {c : Controller} {r : Reaction Unit} {fs : List OutboundFrame}
    (h : op.reaction c = .ok r)
    (hfs : List.Forall₂ (fun q f => q.frame r.controller.device = .ok f) r.requests fs)
    (channel : χ) :
    Turn.of op c channel =
      ⟨op, c, (((Outlet.opened channel).noted r.notes).sendAll fs).2.attempts, r.controller⟩ := by
  unfold Turn.of Operation.run Act.after
  rw [Act.run_bind, Act.run_subject]
  simp only [h]
  rw [Act.run_bind, Act.run_of_ok]
  simp only
  rw [Reaction.run_run hfs]
  rcases ((Outlet.opened channel).noted r.notes).sendAll fs with ⟨_ | refusal, o⟩
  · rfl
  · rfl

theorem Turn.of_silent {op : Operation} {c : Controller} {r : Reaction Unit}
    (h : op.reaction c = .ok r) (hsilent : r.requests = []) (channel : χ) :
    Turn.of op c channel = ⟨op, c, [], r.controller⟩ := by
  have hframes : List.Forall₂ (fun q f => q.frame r.controller.device = .ok f) r.requests [] := by
    rw [hsilent]
    exact .nil
  rw [Turn.of_ok h hframes]
  rfl

theorem course_ask {op : Operation} {c : Controller} (h : op.reaction c = .ok c.requestIndicator)
    (hoccasion : op.occasion c.device = []) (hrewrites : ¬ op.Rewrites c)
    (hcount : c.buttonCount ≤ 8) (channel : χ) :
    Course c op (Turn.of op c channel).attempts (Turn.of op c channel).left := by
  by_cases hlights : c.supportsIndicator = true
  · have hreaction : c.requestIndicator =
        ⟨{ c with state := .boundPending }, [], [.indicatorGet], ()⟩ := by
      unfold requestIndicator
      rw [if_pos hlights]
    rw [Turn.of_ok h (frames_requestIndicator c), hreaction, askFrames, if_pos hlights]
    obtain ⟨accepted, ha⟩ :=
      ((Outlet.opened channel).noted []).attempts_sendAll_singleton (.askLights c.device)
    rw [ha]
    exact .asked accepted hoccasion hlights
  · have hreaction : c.requestIndicator = ⟨c, [], [], ()⟩ := by
      unfold requestIndicator
      rw [if_neg hlights]
    rw [hreaction] at h
    rw [Turn.of_silent h rfl]
    exact .idle c.buttonCount hoccasion hrewrites hcount

theorem course_write {op : Operation} {c : Controller} {r : Reaction Unit} {lights : UInt8}
    (h : op.reaction c = .ok r)
    (hleft : r.controller = { c with
      indicator := lights, state := if c.supportsIndicator then .boundPending else c.state })
    (hrequests : r.requests =
      if c.supportsIndicator then [.indicatorSet lights.toUInt32, .indicatorGet] else [])
    (hoccasion : op.occasion c.device = []) (hrewrites : op.Rewrites c)
    (hne : c.indicator ≠ lights) (channel : χ) :
    Course c op (Turn.of op c channel).attempts (Turn.of op c channel).left := by
  by_cases hlights : c.supportsIndicator = true
  · rw [if_pos hlights] at hleft hrequests
    have hframes : List.Forall₂ (fun q f => q.frame r.controller.device = .ok f) r.requests
        [.setLights c.device lights, .askLights c.device] := by
      rw [hrequests, hleft]
      exact .cons (Request.frame_indicatorSet _ _) (.cons (Request.frame_indicatorGet _) .nil)
    rw [Turn.of_ok h hframes, hleft]
    rcases ((Outlet.opened channel).noted r.notes).attempts_sendAll_pair
      (.setLights c.device lights)
      (.askLights c.device) with ha | ⟨accepted, ha⟩
    · rw [ha]
      exact .unwritten lights hoccasion hlights
    · rw [ha]
      exact .written lights accepted hoccasion hlights
  · rw [if_neg hlights] at hleft hrequests
    rw [Turn.of_silent h hrequests, hleft]
    exact .pictured lights hoccasion hrewrites (by simpa using hlights) hne

theorem attachable?_of_bind_error {directory : Directory} {c : Controller} {e : Error}
    (h : c.bind directory = .error e) :
    Operation.attachable? directory c.device = none := by
  apply Option.eq_none_iff_forall_ne_some.mpr
  intro x hx
  obtain ⟨hd, hchecks⟩ := Option.filter_eq_some_iff.mp hx
  obtain ⟨hclass, hsupports⟩ := Bool.and_eq_true_iff.mp hchecks
  obtain ⟨r, hr⟩ := bind_ok hd hclass hsupports
  rw [h] at hr
  cases hr

theorem course_bind (directory : Directory) {c : Controller} (hcount : c.buttonCount ≤ 8)
    (channel : χ) :
    Course c (.bind directory) (Turn.of (.bind directory) c channel).attempts
      (Turn.of (.bind directory) c channel).left := by
  cases hr : c.bind directory with
  | error e =>
    have herror : (Operation.bind directory).reaction c = .error e := hr
    rw [Turn.of_error herror]
    have hoccasion : (Operation.bind directory).occasion c.device = [] := by
      rw [Operation.occasion, attachable?_of_bind_error hr]
      rfl
    exact .idle c.buttonCount hoccasion id hcount
  | ok r =>
    have hok : (Operation.bind directory).reaction c = .ok r := hr
    obtain ⟨x, hd, hfits, -⟩ := bind_eq_ok hr
    have hattachable : Operation.attachable? directory c.device = some x :=
      Option.filter_eq_some_iff.mpr ⟨hd,
        Bool.and_eq_true_iff.mpr ⟨hfits.isController, hfits.configurable⟩⟩
    have hoccasion : (Operation.bind directory).occasion c.device =
        [.attached (x.supports .indicator)] := by
      rw [Operation.occasion, hattachable]
      rfl
    rw [Turn.of_ok hok (Registry.frames_bind hr)]
    obtain ⟨accepted, ha⟩ :=
      ((Outlet.opened channel).noted r.notes).attempts_sendAll_singleton (.askLights c.device)
    simp only [bind, hd, hfits.isController, hfits.configurable] at hr
    cases hr
    by_cases hlights : x.supports .indicator = true
    · simp only [requestIndicator, askFrames, hlights, ite_true] at ha hoccasion ⊢
      rw [ha]
      exact .attachedLit _ _ _ _ accepted hoccasion
    · have hdark : x.supports .indicator = false := by simpa using hlights
      simp only [requestIndicator, askFrames, hdark] at hoccasion ⊢
      exact .attachedDark _ _ _ _ hoccasion

theorem course_setButtonCount (count : UInt8) {c : Controller} (hcount : c.buttonCount ≤ 8)
    (channel : χ) :
    Course c (.setButtonCount count) (Turn.of (.setButtonCount count) c channel).attempts
      (Turn.of (.setButtonCount count) c channel).left := by
  by_cases hrange : 2 ≤ count ∧ count ≤ 8
  · have hr : (Operation.setButtonCount count).reaction c =
        .ok ⟨{ c with buttonCount := count }, [], [], ()⟩ := by
      simp only [Operation.reaction, setButtonCount, if_pos hrange]
      rfl
    rw [Turn.of_silent hr rfl]
    exact .idle count rfl id hrange.2
  · have herror : (Operation.setButtonCount count).reaction c =
        .error (.validation (.buttonCountOutOfRange count)) := by
      simp only [Operation.reaction, setButtonCount, if_neg hrange]
      rfl
    rw [Turn.of_error herror]
    exact .idle c.buttonCount rfl id hcount

theorem course_setButton (b : ButtonId) (on : Bool) {c : Controller} (hcount : c.buttonCount ≤ 8)
    (channel : χ) :
    Course c (.setButton b on) (Turn.of (.setButton b on) c channel).attempts
      (Turn.of (.setButton b on) c channel).left := by
  cases hr : c.setButton b on with
  | error e =>
    have herror : (Operation.setButton b on).reaction c = .error e := by
      simp only [Operation.reaction, hr]
      rfl
    rw [Turn.of_error herror]
    refine .idle c.buttonCount rfl ?_ hcount
    rintro ⟨hbound, haccepts, -⟩
    obtain ⟨r, hok⟩ := setButton_ok on hbound haccepts hcount
    rw [hr] at hok
    cases hok
  | ok r =>
    have hok : (Operation.setButton b on).reaction c = .ok { r with answer := () } := by
      simp only [Operation.reaction, hr]
      rfl
    obtain ⟨hbound, haccepts, hbit, hcontroller, hrequests⟩ := setButton_eq_ok hr
    have hon := isOn_eq (c := c) hbit
    by_cases hlit : lightAt c.indicator b.place = on
    · have hsilent : r.requests = [] := by
        rw [hrequests, switchRequests, if_pos hlit]
      rw [Turn.of_silent hok hsilent]
      simp only [hcontroller, switched_of_lit hlit]
      exact .idle c.buttonCount rfl (fun hrewrites => hrewrites.2.2 (hon.trans hlit)) hcount
    · obtain ⟨h8, hplace, -⟩ := ButtonId.bit?_eq_some hbit
      have hne : c.indicator ≠ setLight c.indicator (b.byte - 1) on :=
        (setLight_ne h8 (by rwa [hplace])).symm
      refine course_write hok ?_ ?_ rfl ⟨hbound, haccepts, by rwa [hon]⟩ hne channel
      · simp only [hcontroller, switched, if_neg hlit]
      · simp only [hrequests, switchRequests, if_neg hlit, indicator_switched hbit]

theorem course_setIndicator (bitmask : UInt8) {c : Controller} (hcount : c.buttonCount ≤ 8)
    (channel : χ) :
    Course c (.setIndicator bitmask) (Turn.of (.setIndicator bitmask) c channel).attempts
      (Turn.of (.setIndicator bitmask) c channel).left := by
  by_cases hsame : c.indicator = bitmask
  · have hr : (Operation.setIndicator bitmask).reaction c = .ok ⟨c, [], [], ()⟩ := by
      simp [Operation.reaction, setIndicator, hsame]
    rw [Turn.of_silent hr rfl]
    exact .idle c.buttonCount rfl (fun hrewrites => hrewrites hsame) hcount
  · have hrewrites : (Operation.setIndicator bitmask).Rewrites c := hsame
    refine course_write (r := { c.setIndicator bitmask with answer := () }) rfl ?_ ?_ rfl hrewrites
      hsame channel
    · simp only [setIndicator, if_neg hsame]
      cases c.supportsIndicator <;> rfl
    · simp only [setIndicator, if_neg hsame]
      cases c.supportsIndicator <;> rfl

theorem course (op : Operation) {c : Controller} (hcount : c.buttonCount ≤ 8) (channel : χ) :
    Course c op (Turn.of op c channel).attempts (Turn.of op c channel).left := by
  cases op with
  | bind directory => exact course_bind directory hcount channel
  | setButtonCount count => exact course_setButtonCount count hcount channel
  | setButton b on => exact course_setButton b on hcount channel
  | setIndicator bitmask => exact course_setIndicator bitmask hcount channel
  | requestIndicator => exact course_ask rfl rfl id hcount channel
  | handleReport bitmask =>
    rw [Turn.of_silent (r := ⟨(c.handleReport bitmask).1, [], [], ()⟩) rfl rfl]
    exact .reported bitmask
  | handleBasic => exact course_ask rfl rfl id hcount channel

end

/-! ## Lives -/

variable {d : DeviceId} {c left : Controller} {op : Operation} {as : List Attempt}

theorem Course.device (h : Course c op as left) : left.device = c.device := by
  cases h <;> rfl

theorem Course.buttonCount (h : Course c op as left) (hcount : c.buttonCount ≤ 8) :
    left.buttonCount ≤ 8 := by
  cases h with
  | idle count _ _ h8 => exact h8
  | _ => exact hcount

theorem Lived.plain {ts : List Turn} (h : Lived d ts c) : c.device = d ∧ c.buttonCount ≤ 8 := by
  induction h with
  | new => exact ⟨rfl, (by decide : defaultButtonCount ≤ 8)⟩
  | turn op channel _ ih =>
    have hcourse := course op ih.2 channel
    exact ⟨hcourse.device.trans ih.1, hcourse.buttonCount ih.2⟩

theorem Lived.turn_inv {t : Turn} {ts : List Turn} (h : Lived d (t :: ts) c) :
    Lived d ts t.found ∧ c = t.left ∧ Course t.found t.operation t.attempts t.left := by
  cases h with
  | turn op channel h => exact ⟨h, rfl, course op h.plain.2 channel⟩

theorem Lived.earlier {later ts : List Turn} (h : Lived d (later ++ ts) c) : ∃ b, Lived d ts b := by
  induction later generalizing c with
  | nil => exact ⟨c, h⟩
  | cons t later ih => exact ih h.turn_inv.1

/-! ## Histories -/

def Turn.occurrences (t : Turn) : List Occurrence :=
  (t.attempts.map .handed).reverse ++ t.operation.occasion t.found.device

/-- What happened to a controller, the latest first. -/
def history (ts : List Turn) : List Occurrence := ts.flatMap (·.occurrences)

/-- What was handed to the channel, in order. -/
def tried (ts : List Turn) : List Attempt := ts.reverse.flatMap (·.attempts)

def Occurrence.leaves : Occurrence → IndicatorState
  | attached _ => .boundUnknown
  | handed _ => .boundPending
  | reported _ => .boundValid

/-- Whether the device had lights when the controller was last attached. -/
def lastAttached? : List Occurrence → Option Bool
  | [] => none
  | .attached lights :: _ => some lights
  | .handed _ :: es => lastAttached? es
  | .reported _ :: es => lastAttached? es

/-- The last report since the controller was attached. -/
def lastReport? : List Occurrence → Option UInt8
  | [] => none
  | .attached _ :: _ => none
  | .handed _ :: es => lastReport? es
  | .reported bitmask :: _ => some bitmask

theorem lastAttached?_eq_none_iff {es : List Occurrence} :
    lastAttached? es = none ↔ ∀ lights, .attached lights ∉ es := by
  induction es with
  | nil => simp [lastAttached?]
  | cons e es ih =>
    cases e with
    | attached lights =>
      constructor
      · intro h
        cases h
      · intro h
        exact absurd List.mem_cons_self (h lights)
    | handed a => simp [lastAttached?, ih]
    | reported bitmask => simp [lastAttached?, ih]

/-- The controller is as its history tells. -/
structure Told (es : List Occurrence) (c : Controller) : Prop where
  unbound : c.state = .unbound ↔ lastAttached? es = none
  latest : c.state ≠ .unbound → ∃ e earlier, es = e :: earlier ∧ c.state = e.leaves
  reported : c.reported = lastReport? es
  lights : c.supportsIndicator = true ↔ lastAttached? es = some true

theorem Told.handed {es : List Occurrence} (h : Told es c) (hlights : c.supportsIndicator = true)
    (a : Attempt) (lights : UInt8) :
    Told (.handed a :: es) { c with indicator := lights, state := .boundPending } := by
  have hattached : lastAttached? es = some true := h.lights.mp hlights
  refine ⟨?_, fun _ => ⟨_, es, rfl, rfl⟩, h.reported, h.lights⟩
  rw [lastAttached?, hattached]
  simp

theorem Told.handleReport {es : List Occurrence} (h : Told es c) (bitmask : UInt8) :
    Told (.reported bitmask :: es) (c.handleReport bitmask).1 := by
  by_cases hbound : c.isBound = true
  · have hstate : (c.handleReport bitmask).1.state = .boundValid := by
      unfold Controller.handleReport
      rw [if_pos hbound]
    have hattached : lastAttached? es ≠ none := fun hnone => by
      simp [isBound, h.unbound.mpr hnone] at hbound
    refine ⟨?_, fun _ => ⟨_, es, rfl, hstate⟩, rfl, h.lights⟩
    rw [hstate, lastAttached?]
    simp [hattached]
  · have hstate : (c.handleReport bitmask).1.state = c.state := by
      unfold Controller.handleReport
      rw [if_neg hbound]
    have hunbound : c.state = .unbound := by simpa [isBound] using hbound
    refine ⟨?_, fun hne => absurd (hstate.trans hunbound) hne, rfl, h.lights⟩
    rw [hstate, lastAttached?]
    exact h.unbound

theorem Course.told {es : List Occurrence} (hcourse : Course c op as left) (h : Told es c) :
    Told ((as.map .handed).reverse ++ op.occasion c.device ++ es) left := by
  cases hcourse with
  | idle count hoccasion _ _ =>
    rw [hoccasion]
    exact ⟨h.unbound, h.latest, h.reported, h.lights⟩
  | pictured lights hoccasion _ _ _ =>
    rw [hoccasion]
    exact ⟨h.unbound, h.latest, h.reported, h.lights⟩
  | asked accepted hoccasion hlights =>
    rw [hoccasion]
    exact h.handed hlights _ c.indicator
  | unwritten lights hoccasion hlights =>
    rw [hoccasion]
    exact h.handed hlights _ lights
  | written lights accepted hoccasion hlights =>
    rw [hoccasion]
    exact (h.handed hlights _ lights).handed hlights _ lights
  | attachedDark portable cooper association configuration hoccasion =>
    rw [hoccasion]
    exact ⟨by simp [lastAttached?], fun _ => ⟨_, es, rfl, rfl⟩, rfl, by simp [lastAttached?]⟩
  | attachedLit portable cooper association configuration accepted hoccasion =>
    rw [hoccasion]
    exact ⟨by simp [lastAttached?], fun _ => ⟨_, _, rfl, rfl⟩, rfl, by simp [lastAttached?]⟩
  | reported bitmask => exact h.handleReport bitmask

theorem Lived.told {ts : List Turn} (h : Lived d ts c) : Told (history ts) c := by
  induction h with
  | new =>
    exact ⟨by simp [history, lastAttached?, Controller.new], fun hne => absurd rfl hne, rfl,
      by simp [history, lastAttached?, Controller.new]⟩
  | turn op channel h ih => exact (course op h.plain.2 channel).told ih

/-! ## What is handed over -/

/-- A turn hands over at most one question for the lights, and before it the lights that the
controller has then. -/
def Turn.Speaks (d : DeviceId) (t : Turn) : Prop :=
  t.attempts = [] ∨ (∃ accepted, t.attempts = [⟨.askLights d, accepted⟩]) ∨
    t.attempts = [⟨.setLights d t.left.indicator, false⟩] ∨
      ∃ accepted, t.attempts = [⟨.setLights d t.left.indicator, true⟩, ⟨.askLights d, accepted⟩]

theorem Course.speaks (hcourse : Course c op as left) (hdevice : c.device = d) :
    Turn.Speaks d ⟨op, c, as, left⟩ := by
  subst hdevice
  cases hcourse with
  | asked accepted => exact .inr (.inl ⟨accepted, rfl⟩)
  | unwritten lights => exact .inr (.inr (.inl rfl))
  | written lights accepted => exact .inr (.inr (.inr ⟨accepted, rfl⟩))
  | attachedLit _ _ _ _ accepted => exact .inr (.inl ⟨accepted, rfl⟩)
  | _ => exact .inl rfl

theorem Course.lights (hcourse : Course c op as left) (h : as ≠ []) :
    left.supportsIndicator = true := by
  cases hcourse with
  | asked _ _ hlights => exact hlights
  | unwritten _ _ hlights => exact hlights
  | written _ _ _ hlights => exact hlights
  | attachedLit => rfl
  | _ => exact absurd rfl h

theorem Lived.speaks {ts : List Turn} (h : Lived d ts c) : ∀ t ∈ ts, t.Speaks d := by
  induction h with
  | new => simp
  | turn op channel h ih =>
    intro t ht
    rcases List.mem_cons.mp ht with rfl | ht
    · exact (course op h.plain.2 channel).speaks h.plain.1
    · exact ih t ht

theorem Turn.Speaks.asked {t : Turn} (h : t.Speaks d) {i : Nat} {lights : UInt8}
    (hi : t.attempts[i]? = some ⟨.setLights d lights, true⟩) :
    ∃ accepted, t.attempts[i + 1]? = some ⟨.askLights d, accepted⟩ := by
  have hask : ∀ accepted, (⟨.askLights d, accepted⟩ : Attempt) ≠ ⟨.setLights d lights, true⟩ := by
    simp [OutboundFrame.askLights, OutboundFrame.setLights]
  rcases h with h | ⟨accepted, h⟩ | h | ⟨accepted, h⟩
  · simp [h] at hi
  · rw [h] at hi
    cases i with
    | zero => exact absurd (Option.some.inj hi) (hask accepted)
    | succ i => simp at hi
  · rw [h] at hi
    cases i with
    | zero => simp at hi
    | succ i => simp at hi
  · rw [h] at hi ⊢
    rcases i with _ | _ | i
    · exact ⟨accepted, rfl⟩
    · exact absurd (Option.some.inj hi) (hask accepted)
    · simp at hi

theorem asked_of_tried {ts : List Turn} (h : ∀ t ∈ ts, t.Speaks d) {i : Nat} {lights : UInt8}
    (hi : (tried ts)[i]? = some ⟨.setLights d lights, true⟩) :
    ∃ accepted, (tried ts)[i + 1]? = some ⟨.askLights d, accepted⟩ := by
  induction ts with
  | nil => simp [tried] at hi
  | cons t ts ih =>
    have hsplit : tried (t :: ts) = tried ts ++ t.attempts := by simp [tried]
    rw [hsplit] at hi ⊢
    by_cases hlt : i < (tried ts).length
    · rw [List.getElem?_append_left hlt] at hi
      obtain ⟨accepted, hnext⟩ := ih (fun u hu => h u (List.mem_cons_of_mem _ hu)) hi
      obtain ⟨hlt', -⟩ := List.getElem?_eq_some_iff.mp hnext
      exact ⟨accepted, (List.getElem?_append_left hlt').trans hnext⟩
    · have hge : (tried ts).length ≤ i := Nat.le_of_not_lt hlt
      rw [List.getElem?_append_right hge] at hi
      obtain ⟨accepted, hnext⟩ := (h t List.mem_cons_self).asked hi
      refine ⟨accepted, ?_⟩
      rw [List.getElem?_append_right (Nat.le_succ_of_le hge), Nat.succ_sub hge]
      exact hnext

/-- Of any operations on a controller, whatever the channel does: it is unbound exactly if no
attachment passed its checks, and otherwise its state is told by what happened last; it holds the
last report since it was attached; lights are written as the controller has them then, and the
question for them follows; and nothing is handed over unless the device had lights when the
controller was last attached. -/
theorem history_decides {ts : List Turn} (h : Lived d ts c) :
    (c.state = .unbound ↔ ∀ lights, .attached lights ∉ history ts) ∧
      (c.state ≠ .unbound → ∃ e earlier, history ts = e :: earlier ∧ c.state = e.leaves) ∧
      c.reported = lastReport? (history ts) ∧
      (∀ t ∈ ts, t.Speaks d) ∧
      (∀ i lights, (tried ts)[i]? = some ⟨.setLights d lights, true⟩ →
        ∃ accepted, (tried ts)[i + 1]? = some ⟨.askLights d, accepted⟩) ∧
      ∀ later t earlier, ts = later ++ t :: earlier →
        lastAttached? (history (t :: earlier)) ≠ some true →
        t.attempts = [] := by
  have htold := h.told
  refine ⟨htold.unbound.trans lastAttached?_eq_none_iff, htold.latest, htold.reported, h.speaks,
    fun i lights hi => asked_of_tried h.speaks hi, ?_⟩
  rintro later t earlier rfl hdark
  obtain ⟨b, hb⟩ := h.earlier
  obtain ⟨-, rfl, hcourse⟩ := hb.turn_inv
  by_contra hne
  exact hdark (hb.told.lights.mp (hcourse.lights hne))

/-! ## A keypad -/

/-- Node 2 is the only one, a scene controller that implements some classes besides. -/
def oneKeypad (classes : List CommandClass) : Directory := fun id =>
  if id = ⟨2⟩ then
    some ⟨id, .sceneController, none, ByteSet.ofList (.sceneControllerConf :: classes)⟩
  else none

/-- One more operation, over a channel that accepts so many frames if there is an end to them. -/
def oneMore (l : List Turn × Controller) (step : Operation × Option Nat) : List Turn × Controller :=
  let t := Turn.of step.1 l.2 (⟨ByteMap.empty, step.2⟩ : FaultyChannel)
  (t :: l.1, t.left)

def turns (d : DeviceId) (steps : List (Operation × Option Nat)) : List Turn × Controller :=
  steps.foldl oneMore ([], .new d)

theorem lived_turns (d : DeviceId) (steps : List (Operation × Option Nat)) :
    Lived d (turns d steps).1 (turns d steps).2 := by
  have step : ∀ (steps : List (Operation × Option Nat)) (l : List Turn × Controller),
      Lived d l.1 l.2 →
      Lived d (steps.foldl oneMore l).1 (steps.foldl oneMore l).2 := by
    intro steps
    induction steps with
    | nil => exact fun l h => h
    | cons s steps ih => exact fun l h => ih _ (h.turn s.1 _)
  exact step steps _ .new

/-- The first button is switched on, and the question for the new lights is refused. A report comes
all the same. -/
def unasked : List (Operation × Option Nat) :=
  [(.bind (oneKeypad [.indicator]), none), (.setButton ⟨1⟩ true, some 1), (.handleReport 1, none)]

theorem history_decides_unasked :
    ∃ ts c, Lived ⟨2⟩ ts c ∧
      history ts = [.reported 1, .handed ⟨.askLights ⟨2⟩, false⟩, .handed ⟨.setLights ⟨2⟩ 1, true⟩,
        .handed ⟨.askLights ⟨2⟩, true⟩, .attached true] ∧
      c.state = .boundValid ∧ c.reported = some 1 ∧
        ∃ accepted, (tried ts)[2]? = some ⟨.askLights ⟨2⟩, accepted⟩ := by
  have h : Lived ⟨2⟩ (turns ⟨2⟩ unasked).1 (turns ⟨2⟩ unasked).2 := lived_turns ⟨2⟩ unasked
  have hhistory : history (turns ⟨2⟩ unasked).1 = [.reported 1, .handed ⟨.askLights ⟨2⟩, false⟩,
      .handed ⟨.setLights ⟨2⟩ 1, true⟩, .handed ⟨.askLights ⟨2⟩, true⟩, .attached true] := by
        decide +kernel
  have htried : (tried (turns ⟨2⟩ unasked).1)[1]? = some ⟨.setLights ⟨2⟩ 1, true⟩ := by
    decide +kernel
  obtain ⟨hunbound, hlatest, hreported, -, hasked, -⟩ := history_decides h
  rw [hhistory] at hunbound hlatest hreported
  obtain ⟨e, earlier, hhead, hstate⟩ := hlatest fun hnone => hunbound.mp hnone true (by simp)
  cases hhead
  exact ⟨_, _, h, hhistory, hstate, hreported, hasked 1 1 htried⟩

end Controller

end MeshScenes
