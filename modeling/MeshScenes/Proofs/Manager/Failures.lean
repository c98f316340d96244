import MeshScenes.Proofs.Failures
import MeshScenes.Proofs.Manager.Presses

/-!
# How calls and events fail

Calls and events check for controllers that are not registered or not bound, for buttons that a
controller does not have and for fields that do not fit. In a reachable manager none of these checks
ever fails, so what is left are the refusals of the channel and, where a scene is programmed, of the
devices.
-/

namespace MeshScenes.Manager

variable {χ : Type} [Channel χ] {D : Directory → Prop} {m : Manager}

/-! ## Activating and refreshing -/

omit [Channel χ] in
theorem throws_onControllers {α : Type} {P : Error → Prop} {x : Act Registry χ α}
    (hx : x.Throws m.controllers.Alike P) :
    (onControllers x).Throws m.Alike P := by
  intro s hs
  rw [ends_onControllers]
  apply (hx (s.1.controllers, s.2) hs.2).mono
  intro r t ht
  refine ⟨⟨?_, ht.1⟩, ht.2⟩
  rw [hs.1]

omit [Channel χ] in
theorem throws_sceneNamed {α : Type} {P : Error → Prop} {id : SceneId} {s : Scene}
    {f : Scene → Act Manager χ α} (hs : m.scene? id = some s) (hf : (f s).Throws m.Alike P) :
    (sceneNamed id >>= f).Throws m.Alike P := by
  intro t ht
  rw [Act.ends_bind, ends_sceneNamed, ht.scene?, hs]
  exact hf t ht

theorem Coherent.throws_activateScene (h : m.Coherent D) {id : SceneId} {s : Scene}
    (hs : m.scene? id = some s) :
    (activateScene id : Act Manager χ Nat).Throws m.Alike (Refused χ) :=
  throws_sceneNamed hs (throws_onControllers (Scene.throws_activate (h.served hs)))

theorem throws_refreshIndicators :
    (refreshIndicators : Act Manager χ Unit).Throws m.Alike (Refused χ) :=
  throws_onControllers (Registry.throws_refresh m.controllers)

theorem Coherent.throws_programScene (h : m.Coherent D) {id : SceneId} {s : Scene}
    (hs : m.scene? id = some s) :
    (programScene id : Act Manager χ ProgramSummary).Throws m.Alike
      fun e => Refused χ e ∨ ∃ d needed, e = .unsupported d needed := by
  apply throws_sceneNamed hs
  apply Act.throws_subject_bind
  intro k hk
  apply Scene.throws_program ((h.served hs).of_alike hk.2)
  intro d c hc
  exact ((h.of_alike hk).controller d c hc).1

/-! ## Received reports -/

theorem Coherent.throws_handleActivation (h : m.Coherent D) (source : DeviceId)
    (activation : Activation) :
    (handleActivation source activation : Act Manager χ Unit).Throws m.Alike (Refused χ) := by
  unfold handleActivation
  cases SceneId.ofByte? activation.scene with
  | none => exact Act.throws_note _
  | some id =>
    apply Act.throws_subject_bind
    intro k hk
    split
    next hid =>
      obtain ⟨s, hs⟩ := ByteMap.contains_iff.mp hid
      have hs : m.scene? id = some s := (hk.scene? id).symm.trans hs
      apply Act.Throws.after_note
      apply (h.throws_activateScene hs).bind
      intro _
      exact Act.throws_pure ()
    next => exact Act.throws_note _

theorem Coherent.throws_syncScene (h : m.Coherent D) (source : DeviceId) (id : SceneId)
    (b : ButtonId) (on : Bool) {P : Error → Prop} :
    (syncScene source id b on : Act Manager χ Unit).Throws m.Alike P := by
  unfold syncScene
  apply Act.throws_subject_bind
  intro k hk
  cases hs : k.scene? id with
  | none => exact Act.throws_pure ()
  | some s =>
    have hs : m.scene? id = some s := (hk.scene? id).symm.trans hs
    simp only
    split
    · apply Act.Throws.after_note
      apply (Act.throws_outcome
        (throws_onControllers (Scene.throws_sync (h.served hs) source on))).bind
      intro r
      split
      · exact Act.throws_pure ()
      · exact Act.throws_note _
    · exact Act.throws_pure ()

theorem Coherent.throws_handleIndicator (h : m.Coherent D) (source : DeviceId) (bitmask : UInt8)
    {P : Error → Prop} :
    (handleIndicator source bitmask : Act Manager χ Unit).Throws m.Alike P := by
  unfold handleIndicator
  apply Act.throws_subject_bind
  intro k hk
  cases k.index.get? source with
  | none => exact Act.throws_note _
  | some buttons =>
    cases hc : k.controllers.get? source with
    | none => exact Act.throws_pure ()
    | some c =>
      have hleft : m.Alike (k.reported source c bitmask) :=
        hk.trans (alike_controllers (Registry.alike_handleReport bitmask hc))
      apply (Act.throws_replace hleft).bind
      intro _
      split
      · exact Act.throws_note _
      · apply Act.throws_forM
        intro e _
        exact h.throws_syncScene source e.1 e.2.1 e.2.2

theorem throws_handleBasic (source : DeviceId) (value : UInt8) :
    (handleBasic source value : Act Manager χ Unit).Throws m.Alike (Refused χ) := by
  unfold handleBasic
  apply Act.throws_subject_bind
  intro k hk
  split
  next hregistered =>
    rw [hk.2.contains] at hregistered
    obtain ⟨c, hc⟩ := ByteMap.contains_iff.mp hregistered
    apply Act.Throws.after_note
    exact throws_onControllers (Registry.throws_requestIndicator hc)
  next => exact Act.throws_pure ()

omit [Channel χ] in
theorem throws_handleControllerReport (source : DeviceId) (report : ControllerReport)
    {P : Error → Prop} :
    (handleControllerReport source report : Act Manager χ Unit).Throws m.Alike P := by
  unfold handleControllerReport
  apply Act.throws_subject_bind
  intro k _
  simp only
  split
  · split
    · exact Act.throws_note _
    · exact Act.throws_note _
  · exact Act.throws_note _

theorem Coherent.throws_handleEvent (h : m.Coherent D) (e : Event) :
    (handleEvent e : Act Manager χ Unit).Throws m.Alike (Refused χ) := by
  unfold handleEvent
  split
  · exact h.throws_handleActivation _ _
  · exact h.throws_handleIndicator _ _
  · exact throws_handleBasic _ _
  · exact Act.throws_note _
  · exact throws_handleControllerReport _ _
  · exact Act.throws_note _

/-! ## Adding a controller -/

omit [Channel χ] in
theorem throws_unindex (c : DeviceId) (b : ButtonId) {P : Error → Prop} :
    (unindex c b : Act Manager χ Unit).Throws (fun _ => True) P := by
  intro s _
  obtain ⟨es, he⟩ := run_unindex c b s
  unfold Act.Ends
  rw [he]
  exact ⟨trivial, trivial⟩

omit [Channel χ] in
theorem throws_giveButton (id : SceneId) (c : DeviceId) {y : Controller} (hy : y.isBound = true)
    (b : ButtonId) :
    (giveButton id c y b : Act Manager χ Unit).Throws (fun _ => True) (¬ ·.Internal) := by
  unfold giveButton
  apply Act.Throws.bind
  · intro s _
    rw [ends_sceneNamed]
    cases s.1.scene? id with
    | none => exact ⟨trivial, fun h => h⟩
    | some x => exact ⟨trivial, trivial⟩
  intro x
  apply Act.throws_of_bind
  · intro e he
    cases hp : x.putController y b with
    | ok p =>
      rw [hp] at he
      cases he
    | error cause =>
      rw [hp] at he
      cases he
      rw [(putController_eq_error hy hp).2]
      exact fun h => h
  intro p _
  apply (Act.throws_change fun _ _ => trivial).bind
  intro _
  apply (Act.throws_change fun _ _ => trivial).bind
  intro _
  split
  · split
    · apply (throws_unindex c _).bind
      intro _
      exact Act.throws_note _
    · exact Act.throws_note _
  · exact Act.throws_note _

theorem Coherent.throws_addController {s : Manager × Outlet χ} (h : s.1.Coherent D)
    (directory : Directory) (id : SceneId) (c : DeviceId) (b : ButtonId) :
    (addController directory id c b).Ends s fun r _ => Act.FailsBy (¬ ·.Internal) r := by
  apply ends_addController
  · intro _ h
    exact h
  · intro other _ h
    exact h
  · intro x hs _
    unfold bindButton
    rw [Act.ends_bind, Act.ends_subject]
    simp only
    rw [Act.ends_bind, ends_onControllers]
    have hfound := Registry.ends_getOrBind c s.1.buttonCount directory (s.1.controllers, s.2)
    have hfailed := Registry.throws_getOrBind h.count c directory (s.1.controllers, s.2) trivial
    apply (hfound.and hfailed).mono
    intro r t ⟨hfound, _, hfailed⟩
    cases r with
    | error e => exact fun _ => hfailed
    | ok y =>
      have hy : y.isBound = true := by
        rcases hfound with ⟨hy, -⟩ | ⟨-, -, hattached, -⟩
        · exact (h.controller c y hy).2.1
        · exact hattached.isBound
      apply (throws_giveButton id c hy b _ trivial).mono
      intro r t ⟨_, hfailed⟩
      cases r with
      | ok u => exact trivial
      | error e => exact fun _ => hfailed

/-! ## What is left -/

/-- Whatever the channel does, activating a scene, refreshing and handling an event fail only where
the channel refuses a frame; programming fails also where a controller lacks support; and adding a
controller never fails for a reason of the manager's own. Synchronising a scene, at any moment while
an event is handled, fails only where a frame is refused, though that goes no further than the
journal. -/
theorem only_refusals_are_left (h : Reachable D m) (o : Outlet χ) {e : Error} :
    (∀ id s, m.scene? id = some s → (activateScene id).answer (m, o) = .error e → Refused χ e) ∧
      (refreshIndicators.answer (m, o) = .error e → Refused χ e) ∧
      (∀ event, (handleEvent event).answer (m, o) = .error e → Refused χ e) ∧
      (∀ id s, m.scene? id = some s → (programScene id).answer (m, o) = .error e →
        Refused χ e ∨ ∃ d needed, e = .unsupported d needed) ∧
      (∀ directory id c b, (addController directory id c b).answer (m, o) = .error e →
        ¬ e.Internal) ∧
      ∀ k id s origin on, m.Alike k → m.scene? id = some s →
        (s.sync origin on).answer (k.controllers, o) = .error e → Refused χ e := by
  have hm := h.coherent
  refine ⟨?_, ?_, ?_, ?_, ?_, ?_⟩
  · intro id s hs he
    exact (hm.throws_activateScene hs).error (s := (m, o)) (alike_refl m) he
  · intro he
    exact throws_refreshIndicators.error (s := (m, o)) (alike_refl m) he
  · intro event he
    exact (hm.throws_handleEvent event).error (s := (m, o)) (alike_refl m) he
  · intro id s hs he
    exact (hm.throws_programScene hs).error (s := (m, o)) (alike_refl m) he
  · intro directory id c b he
    have hfails := Act.ends_iff.mp (hm.throws_addController (s := (m, o)) directory id c b)
    rw [he] at hfails
    exact hfails
  · intro k id s origin on hk hs he
    exact (Scene.throws_sync (hm.served hs) origin on).error (s := (k.controllers, o)) hk.2 he

theorem only_refusals_are_left_channel_down :
    ∃ m, Reachable Directory.Honest m ∧
      (activateScene ⟨7, by decide⟩).answer
        (m, Outlet.opened (⟨ByteMap.empty, some 0⟩ : FaultyChannel)) =
        .error (.transport .channelDown) ∧ Refused FaultyChannel (.transport .channelDown) := by
  have h : Reachable Directory.Honest (afterCalls twoKeypads evening).1 :=
    reachable_afterCalls honest_twoKeypads evening
  have hscene : ((afterCalls twoKeypads evening).1.scene? ⟨7, by decide⟩).isSome = true := by
    decide +kernel
  obtain ⟨s, hs⟩ := Option.isSome_iff_exists.mp hscene
  have hfails : (activateScene ⟨7, by decide⟩).answer
      ((afterCalls twoKeypads evening).1, Outlet.opened (⟨ByteMap.empty, some 0⟩ : FaultyChannel)) =
        .error (.transport .channelDown) := by decide +kernel
  exact ⟨_, h, hfails, (only_refusals_are_left h _).1 _ s hs hfails⟩

end MeshScenes.Manager
