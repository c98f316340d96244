import MeshScenes.Proofs.Manager.Reachable

/-!
# What calls do to controllers

Seen from the registry and the outlet, every call is made of a few steps: controllers are forgotten
or attached, lights are switched or asked for, and frames of other classes are sent. A preorder that
has these steps has every call.
-/

namespace MeshScenes.Manager

variable {χ : Type} [Channel χ]

/-- `R` has the steps of the calls that program nothing. -/
structure Steps (directory : Directory) (R : Registry × Outlet χ → Registry × Outlet χ → Prop) :
    Prop where
  note : ∀ s e, R s (s.1, s.2.note e)
  forget : ∀ r r' o es, (∀ d c, r'.get? d = some c → r.get? d = some c) → R (r, o) (r', o.noted es)
  attach : ∀ r o o' d count c es, r.get? d = none → Registry.Attached directory d count c →
    (o.noted es).sendAll c.askFrames = (none, o') → R (r, o) (r.insert d c, o')
  refused : ∀ r o o' es fs refusal, (o.noted es).sendAll fs = (some refusal, o') → R (r, o) (r, o')
  ask : ∀ d, (Registry.react d (.ok ·.requestIndicator)).Moves R

/-- `R` has the steps that calls are made of. -/
structure Follows (directory : Directory) (R : Registry × Outlet χ → Registry × Outlet χ → Prop) :
    Prop
    extends Steps directory R where
  send : ∀ s f, f.commandClass ≠ .indicator → R s (s.1, (s.2.send f).2)

/-- The controllers and the outlet are related by `R`. -/
def On (R : Registry × Outlet χ → Registry × Outlet χ → Prop) (s t : Manager × Outlet χ) : Prop :=
  R (s.1.controllers, s.2) (t.1.controllers, t.2)

variable {directory : Directory} {R : Registry × Outlet χ → Registry × Outlet χ → Prop}
  [IsPreorder _ R]

instance : IsPreorder (Manager × Outlet χ) (On R) where
  refl _ := refl_of R _
  trans _ _ _ h h' := trans_of R h h'

omit [Channel χ] [IsPreorder _ R] in
theorem on_of_through {α : Type} {x : Act Manager χ α} (hx : x.Moves (Through R)) :
    x.Moves (On R) :=
  hx.mono fun _ _ h => h.2

section
variable (hR : Steps directory R)
include hR

omit [IsPreorder _ R] in
theorem Steps.on_note (e : Journal.Entry) : (Act.note e : Act Manager χ Unit).Moves (On R) :=
  fun _ => hR.note _ e

omit [Channel χ] hR in
theorem on_sceneNamed (id : SceneId) : (sceneNamed id : Act Manager χ Scene).Moves (On R) :=
  on_of_through (through_sceneNamed id)

omit [Channel χ] hR in
theorem on_putScene (s : Scene) :
    (putScene s : Act Manager χ Unit).Moves (On R) := fun _ => refl_of R _

omit [IsPreorder _ R] in
theorem Steps.on_unindex (c : DeviceId) (b : ButtonId) :
    (unindex c b : Act Manager χ Unit).Moves (On R) := by
  intro s
  obtain ⟨es, he⟩ := run_unindex c b s
  unfold Act.after
  rw [he]
  exact hR.forget _ _ _ _ fun d x hx => get?_controllers_unindexed hx

omit [IsPreorder _ R] in
theorem Steps.on_unindexAll (l : List (DeviceId × ButtonId)) :
    (l.forM fun e => unindex e.1 e.2 : Act Manager χ Unit).Moves (On R) := by
  intro s
  obtain ⟨es, he⟩ := run_unindexAll l s
  unfold Act.after
  rw [he]
  exact hR.forget _ _ _ _ fun d x hx => get?_controllers_unindexAll hx

theorem Steps.on_newSceneWithId (number : UInt32) (name : String) :
    (newSceneWithId number name : Act Manager χ SceneId).Moves (On R) := by
  intro s
  unfold Act.after
  rcases run_newSceneWithId number name s with ⟨e, he⟩ | ⟨id, -, -, he⟩
  · rw [he]
    exact refl_of (On R) s
  · rw [he]
    exact hR.note (s.1.controllers, s.2) _

theorem Steps.on_removeScene (id : SceneId) :
    (removeScene id : Act Manager χ Scene).Moves (On R) := by
  refine Act.moves_bind (on_sceneNamed id) fun s =>
    Act.moves_bind (fun t => refl_of R _) fun _ => ?_
  refine Act.moves_bind (hR.on_unindexAll s.controllers.toList) fun _ => ?_
  exact Act.moves_bind (hR.on_note _) fun _ => Act.moves_pure _

omit [Channel χ] hR in
theorem on_changeScene (id : SceneId) (f : Scene → Scene) :
    (do putScene (f (← sceneNamed id)) : Act Manager χ Unit).Moves (On R) :=
  Act.moves_bind (on_sceneNamed id) fun s => on_putScene (f s)

theorem Steps.on_addDevice (id : SceneId) (device : DeviceId) (value : UInt8) :
    (addDevice directory id device value : Act Manager χ Unit).Moves (On R) := by
  refine Act.moves_bind (on_sceneNamed id) fun s => Act.moves_bind (Act.moves_of _) fun t => ?_
  exact Act.moves_bind (on_putScene t) fun _ => hR.on_note _

omit [Channel χ] hR in
theorem on_removeDevice (id : SceneId) (device : DeviceId) :
    (removeDevice id device : Act Manager χ Bool).Moves (On R) :=
  Act.moves_bind (on_sceneNamed id) fun _ => Act.moves_bind (on_putScene _) fun _ =>
    Act.moves_pure _

omit [Channel χ] hR in
theorem on_setValue (id : SceneId) (device : DeviceId) (value : UInt8) :
    (setValue id device value : Act Manager χ Unit).Moves (On R) :=
  Act.moves_bind (on_sceneNamed id) fun _ => Act.moves_bind (Act.moves_of _) fun t => on_putScene t

theorem Steps.moves_getOrBind (d : DeviceId) (count : UInt8) :
    (Registry.getOrBind d count directory : Act Registry χ Controller).Moves R := by
  refine Act.moves_iff_ends.mpr fun s =>
    (Registry.ends_getOrBind d count directory s).mono fun r t ht => ?_
  cases r with
  | ok c =>
    rcases ht with ⟨-, rfl⟩ | ⟨hnone, ht, hc, es, hs⟩
    · exact refl_of R _
    · have := hR.attach s.1 s.2 t.2 d count c es hnone hc hs
      rw [← ht] at this
      exact this
  | error e =>
    obtain ⟨ht, -, ho | ⟨es, fs, refusal, hs⟩⟩ := ht
    · rw [show t = s from Prod.ext ht ho]
      exact refl_of R s
    · rw [show t = (s.1, t.2) from Prod.ext ht rfl]
      exact hR.refused s.1 s.2 t.2 es fs refusal hs

theorem Steps.on_addController (id : SceneId) (c : DeviceId) (b : ButtonId) :
    (addController directory id c b : Act Manager χ Unit).Moves (On R) := by
  intro s
  have give : ∀ y, (giveButton id c y b : Act Manager χ Unit).Moves (On R) := by
    intro y
    refine Act.moves_bind (on_sceneNamed id) fun s => Act.moves_bind (Act.moves_of _) fun p => ?_
    refine Act.moves_bind (on_putScene p.1) fun _ =>
      Act.moves_bind (fun t => refl_of R _) fun _ => ?_
    split
    · split
      · exact Act.moves_bind (hR.on_unindex c _) fun _ => hR.on_note _
      · exact hR.on_note _
    · exact hR.on_note _
  have bind : (bindButton directory id c b : Act Manager χ Unit).Moves (On R) := by
    refine Act.moves_bind Act.moves_subject fun m => ?_
    exact Act.moves_bind (on_of_through (through_onControllers (hR.moves_getOrBind c _))) give
  have key : (addController directory id c b : Act Manager χ Unit).Ends s fun _ t => On R s t := by
    apply ends_addController
    · intro _
      exact refl_of (On R) s
    · intro _ _
      exact refl_of (On R) s
    · intro x _ _
      apply (Act.moves_iff_ends.mp bind s).mono
      intro r t ht
      cases r with
      | ok u => exact ht
      | error e =>
        intro es
        have hreleased : On R t (t.1.release c, t.2.noted es) :=
          hR.forget _ _ _ es fun d y hy => get?_controllers_of_release hy
        exact trans_of (On R) ht hreleased
  exact Act.ends_iff.mp key

theorem Steps.on_removeController (id : SceneId) (c : DeviceId) :
    (removeController id c : Act Manager χ (Option ButtonId)).Moves (On R) := by
  refine Act.moves_bind (on_sceneNamed id) fun s => ?_
  simp only
  refine Act.moves_bind (on_putScene _) fun _ => ?_
  split
  · exact Act.moves_bind (hR.on_unindex c _) fun _ => Act.moves_pure _
  · exact Act.moves_pure _

theorem Steps.on_restore (snapshot : Snapshot) :
    (restore directory snapshot : Act Manager χ Nat).Moves (On R) := by
  have device : ∀ id record,
      (restoreDevice directory id record : Act Manager χ Unit).Moves (On R) := by
    intro id record
    refine Act.moves_bind (Act.moves_outcome (hR.on_addDevice id _ _)) fun r => ?_
    split
    · exact Act.moves_pure _
    · exact hR.on_note _
  have controller : ∀ id record,
      (restoreController directory id record : Act Manager χ Unit).Moves (On R) := by
    intro id record
    refine Act.moves_bind (Act.moves_outcome (hR.on_addController id _ _)) fun r => ?_
    split
    · exact Act.moves_pure _
    · exact hR.on_note _
  have scene : ∀ record, (restoreScene directory record : Act Manager χ Bool).Moves (On R) := by
    intro record
    refine Act.moves_bind (Act.moves_outcome (hR.on_newSceneWithId _ _)) fun r => ?_
    split
    · exact Act.moves_bind (hR.on_note _) fun _ => Act.moves_pure _
    · refine Act.moves_bind (on_changeScene _ _) fun _ =>
        Act.moves_bind (on_changeScene _ _) fun _ => ?_
      refine Act.moves_bind (Act.moves_forM fun d _ => device _ d) fun _ => ?_
      exact Act.moves_bind (Act.moves_forM fun c _ => controller _ c) fun _ => Act.moves_pure _
  unfold restore
  refine Act.moves_bind (Act.moves_foldlM (fun record _ n => ?_) 0) fun n => ?_
  · exact Act.moves_bind (scene record) fun _ => Act.moves_pure _
  · exact Act.moves_bind (hR.on_note _) fun _ => Act.moves_pure _

/-- A preorder with these steps has every call; lights are switched by activations only. -/
theorem Steps.on_call (c : Call)
    (hprogram : ∀ id, c = .program id →
      (programScene id : Act Manager χ ProgramSummary).Moves (On R))
    (hset : ∀ id, c = .activate id → ∀ d b, (Registry.setButton d b true).Moves R) :
    (c.run directory : Act Manager χ Unit).Moves (On R) := by
  cases c with
  | newScene number name => exact Act.moves_discard (hR.on_newSceneWithId number name)
  | removeScene id => exact Act.moves_discard (hR.on_removeScene id)
  | setName id name => exact on_changeScene id fun s => { s with name }
  | setDuration id duration => exact on_changeScene id fun s => { s with duration }
  | setOverride id overrideLevel => exact on_changeScene id fun s => { s with overrideLevel }
  | addDevice id device value => exact hR.on_addDevice id device value
  | removeDevice id device => exact Act.moves_discard (on_removeDevice id device)
  | setValue id device value => exact on_setValue id device value
  | addController id controller button => exact hR.on_addController id controller button
  | removeController id controller => exact Act.moves_discard (hR.on_removeController id controller)
  | program id => exact Act.moves_discard (hprogram id rfl)
  | activate id =>
    exact Act.moves_discard <| on_of_through fun _ => through_activateScene hR.note fun _ _ d b _ =>
      hset id rfl d b
  | refresh => exact on_of_through (through_refreshIndicators hR.ask)
  | restore snapshot => exact Act.moves_discard (hR.on_restore snapshot)

end

theorem Follows.on_call (hR : Follows directory R) (c : Call)
    (hset : ∀ id, c = .activate id → ∀ d b, (Registry.setButton d b true).Moves R) :
    (c.run directory : Act Manager χ Unit).Moves (On R) :=
  hR.toSteps.on_call c (fun id _ => on_of_through (through_program hR.note hR.send id)) hset

end MeshScenes.Manager
