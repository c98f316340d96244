import MeshScenes.Proofs.Manager.Allocation

/-!
# The same operation over two channels

All that an operation learns of its channel is whether a frame was refused. So over two channels
that refuse the same frames it does the same to its subject and has the same frames tried, whatever
else tells the channels apart (`agrees_call`, `agrees_handleFrame`).
-/

namespace MeshScenes

variable {χ χ' : Type} {S : χ → χ' → Prop}

/-- Channels that `S` relates refuse the same frames, and stay related. -/
def Channel.Agree [Channel χ] [Channel χ'] (S : χ → χ' → Prop) : Prop :=
  ∀ f c c', S c c' →
    (Channel.send f c).refusal = (Channel.send f c').refusal ∧
      S (Channel.send f c).channel (Channel.send f c').channel

/-- The journals are left out: channels may note what they like. -/
structure Outlet.Alike (S : χ → χ' → Prop) (o : Outlet χ) (o' : Outlet χ') : Prop where
  channel : S o.channel o'.channel
  attempts : o.attempts = o'.attempts

namespace Act

variable {σ τ α β ι : Type}

inductive EndAlike (S : χ → χ' → Prop) :
    EStateM.Result Error (σ × Outlet χ) α → EStateM.Result Error (σ × Outlet χ') α → Prop where
  | ok (a : α) (t : σ) {o : Outlet χ} {o' : Outlet χ'} :
      o.Alike S o' → EndAlike S (.ok a (t, o)) (.ok a (t, o'))
  | error (e : Error) (t : σ) {o : Outlet χ} {o' : Outlet χ'} :
      o.Alike S o' → EndAlike S (.error e (t, o)) (.error e (t, o'))

def Agrees (S : χ → χ' → Prop) (x : Act σ χ α) (y : Act σ χ' α) : Prop :=
  ∀ t {o o'}, Outlet.Alike S o o' → EndAlike S (x (t, o)) (y (t, o'))

/-! ## Steps of operations -/

theorem agrees_pure (a : α) : Agrees S (pure a : Act σ χ α) (pure a) := fun t _ _ h => .ok a t h

theorem agrees_throw (e : Error) : Agrees S (throw e : Act σ χ α) (throw e) :=
  fun t _ _ h => .error e t h

theorem agrees_subject : Agrees S (subject : Act σ χ σ) subject := fun t _ _ h => .ok t t h

theorem agrees_change (f : σ → σ) : Agrees S (change f : Act σ χ Unit) (change f) :=
  fun t _ _ h => .ok () (f t) h

theorem agrees_replace (u : σ) : Agrees S (replace u : Act σ χ Unit) (replace u) :=
  fun _ _ _ h => .ok () u h

theorem agrees_note (e : Journal.Entry) : Agrees S (note e : Act σ χ Unit) (note e) :=
  fun t _ _ h => .ok () t ⟨h.channel, h.attempts⟩

theorem agrees_of (x : Except Error α) : Agrees S (of x : Act σ χ α) (of x) := by
  cases x with
  | ok a => exact agrees_pure a
  | error e => exact agrees_throw e

theorem Agrees.bind {x : Act σ χ α} {y : Act σ χ' α} {f : α → Act σ χ β} {g : α → Act σ χ' β}
    (hx : Agrees S x y) (hf : ∀ a, Agrees S (f a) (g a)) : Agrees S (x >>= f) (y >>= g) := by
  intro t o o' h
  rw [run_bind, run_bind]
  match x (t, o), y (t, o'), hx t h with
  | _, _, .ok a u hu => exact hf a u hu
  | _, _, .error e u hu => exact .error e u hu

theorem Agrees.discard {x : Act σ χ α} {y : Act σ χ' α} (h : Agrees S x y) :
    Agrees S (discard x) (discard y) :=
  h.bind fun _ => agrees_pure _

theorem Agrees.within {x : Act τ χ α} {y : Act τ χ' α} (h : Agrees S x y) (part : τ)
    (put : τ → σ → σ) : Agrees S (within part put x) (within part put y) := by
  intro t o o' ho
  unfold Act.within
  match x (part, o), y (part, o'), h part ho with
  | _, _, .ok a u hu => exact .ok a (put u t) hu
  | _, _, .error e u hu => exact .error e (put u t) hu

theorem Agrees.aside {x : Act τ χ α} {y : Act τ χ' α} (h : Agrees S x y) (fresh : τ) :
    Agrees S (aside fresh x : Act σ χ (α × τ)) (aside fresh y) := by
  intro t o o' ho
  unfold Act.aside
  match x (fresh, o), y (fresh, o'), h fresh ho with
  | _, _, .ok a u hu => exact .ok (a, u) t hu
  | _, _, .error e u hu => exact .error e t hu

theorem Agrees.outcome {x : Act σ χ α} {y : Act σ χ' α} (h : Agrees S x y) :
    Agrees S (outcome x) (outcome y) := by
  intro t o o' ho
  unfold Act.outcome
  match x (t, o), y (t, o'), h t ho with
  | _, _, .ok a u hu => exact EndAlike.ok (Except.ok a) u hu
  | _, _, .error e u hu => exact EndAlike.ok (Except.error e) u hu

theorem agrees_forM {f : ι → Act σ χ Unit} {g : ι → Act σ χ' Unit}
    (hf : ∀ i, Agrees S (f i) (g i)) (l : List ι) : Agrees S (l.forM f) (l.forM g) := by
  induction l with
  | nil => exact agrees_pure ()
  | cons i l ih => exact (hf i).bind fun _ => ih

theorem agrees_foldlM {f : β → ι → Act σ χ β} {g : β → ι → Act σ χ' β}
    (hf : ∀ b i, Agrees S (f b i) (g b i)) (l : List ι) :
    ∀ b, Agrees S (l.foldlM f b) (l.foldlM g b) := by
  induction l with
  | nil => exact agrees_pure
  | cons i l ih => exact fun b => (hf b i).bind ih

theorem agrees_notes (es : List Journal.Entry) : Agrees S (notes es : Act σ χ Unit) (notes es) :=
  agrees_forM agrees_note es

variable [Channel χ] [Channel χ'] (hS : Channel.Agree S)
include hS

theorem agrees_send (f : OutboundFrame) : Agrees S (send f : Act σ χ Unit) (send f) := by
  intro t o o' h
  obtain ⟨hrefusal, hchannel⟩ := hS f _ _ h.channel
  have hsent : (o.send f).2.Alike S (o'.send f).2 := by
    refine ⟨hchannel, ?_⟩
    unfold Outlet.send
    dsimp only
    rw [h.attempts, hrefusal]
  have hfirst : (o.send f).1 = (o'.send f).1 := hrefusal
  unfold send
  dsimp only
  generalize o.send f = r at hsent hfirst
  generalize o'.send f = r' at hsent hfirst
  obtain ⟨refusal, o₁⟩ := r
  obtain ⟨refusal', o₁'⟩ := r'
  cases hfirst
  cases refusal with
  | none => exact .ok () t hsent
  | some refusal => exact .error (.transport refusal) t hsent

theorem agrees_requests (rs : List (DeviceId × Request)) :
    Agrees S (requests rs : Act σ χ Unit) (requests rs) :=
  agrees_forM (fun _ => (agrees_of _).bind (agrees_send hS)) rs

end Act

open Act

variable {α : Type}

/-! ## Operations on controllers -/

theorem Reaction.agrees_run [Channel χ] [Channel χ'] (hS : Channel.Agree S) (r : Reaction α) :
    Agrees S (r.run : Act Controller χ α) r.run :=
  (agrees_replace _).bind fun _ => (agrees_notes _).bind fun _ =>
    (agrees_requests hS _).bind fun _ => agrees_pure _

namespace Registry

variable [Channel χ] [Channel χ'] (hS : Channel.Agree S)
include hS

theorem agrees_getOrBind (d : DeviceId) (count : UInt8) (directory : Directory) :
    Agrees S (getOrBind d count directory : Act Registry χ Controller)
      (getOrBind d count directory) := by
  refine agrees_subject.bind fun r => ?_
  cases r.get? d with
  | some c => exact agrees_pure c
  | none =>
    refine (agrees_of _).bind fun c => (agrees_of _).bind fun x => ?_
    exact ((x.agrees_run hS).aside c).bind fun p => (agrees_change _).bind fun _ => agrees_pure p.2

theorem agrees_react (d : DeviceId) (f : Controller → Except Error (Reaction α)) :
    Agrees S (react d f : Act Registry χ α) (react d f) := by
  refine agrees_subject.bind fun r => ?_
  cases r.get? d with
  | none => exact agrees_of _
  | some c => exact (agrees_of _).bind fun x => (x.agrees_run hS).within c _

theorem agrees_refresh : Agrees S (refresh : Act Registry χ Unit) refresh :=
  agrees_subject.bind fun r => agrees_forM (fun d => agrees_react hS d _) r.keys

end Registry

namespace Scene

variable [Channel χ] [Channel χ'] (hS : Channel.Agree S)
include hS

theorem agrees_activate (s : Scene) : Agrees S (s.activate : Act Registry χ Nat) s.activate := by
  unfold activate
  cases s.controllers.isEmpty with
  | true => exact (agrees_note _).bind fun _ => agrees_pure 0
  | false =>
    refine agrees_subject.bind fun r => (agrees_of _).bind fun _ => Agrees.bind ?_ fun n => ?_
    · apply agrees_foldlM
      exact fun n e => (Registry.agrees_react hS e.1 _).bind fun _ => agrees_pure _
    · exact (agrees_note _).bind fun _ => agrees_pure n

theorem agrees_sync (s : Scene) (origin : DeviceId) (on : Bool) :
    Agrees S (s.sync origin on : Act Registry χ Nat) (s.sync origin on) := by
  refine Agrees.bind ?_ fun n => (agrees_note _).bind fun _ => agrees_pure n
  apply agrees_foldlM
  intro n e
  refine agrees_subject.bind fun r => ?_
  split
  · exact (Registry.agrees_react hS e.1 _).bind fun _ => agrees_pure _
  · exact (agrees_note _).bind fun _ => agrees_pure n

theorem agrees_program {σ : Type} (s : Scene) (r : Registry) (coordinator : DeviceId) :
    Agrees S (s.program r coordinator : Act σ χ ProgramSummary) (s.program r coordinator) := by
  refine (agrees_of _).bind fun plan => ?_
  refine (agrees_requests hS _).bind fun _ => (agrees_note _).bind fun _ => ?_
  refine (agrees_requests hS _).bind fun _ => (agrees_note _).bind fun _ => ?_
  refine (agrees_requests hS _).bind fun _ => (agrees_note _).bind fun _ => ?_
  exact (agrees_requests hS _).bind fun _ => (agrees_note _).bind fun _ => agrees_pure _

end Scene

namespace Manager

/-! ## Configuration calls -/

theorem agrees_onControllers {x : Act Registry χ α} {y : Act Registry χ' α} (h : Agrees S x y) :
    Agrees S (onControllers x) (onControllers y) :=
  agrees_subject.bind fun m => h.within m.controllers _

theorem agrees_sceneNamed (id : SceneId) :
    Agrees S (sceneNamed id : Act Manager χ Scene) (sceneNamed id) := by
  refine agrees_subject.bind fun m => ?_
  cases m.scene? id with
  | some s => exact agrees_pure s
  | none => exact agrees_throw _

theorem agrees_releaseController (d : DeviceId) :
    Agrees S (releaseController d : Act Manager χ Unit) (releaseController d) :=
  agrees_subject.bind fun _ => (agrees_replace _).bind fun _ => agrees_notes _

theorem agrees_unindex (d : DeviceId) (b : ButtonId) :
    Agrees S (unindex d b : Act Manager χ Unit) (unindex d b) :=
  (agrees_change _).bind fun _ => agrees_releaseController d

theorem agrees_editScene (id : SceneId) (f : Scene → Scene) :
    Agrees S (do putScene (f (← sceneNamed id)) : Act Manager χ Unit)
      (do putScene (f (← sceneNamed id))) :=
  (agrees_sceneNamed id).bind fun _ => agrees_change _

theorem agrees_newSceneWithId (number : UInt32) (name : String) :
    Agrees S (newSceneWithId number name : Act Manager χ SceneId) (newSceneWithId number name) := by
  intro m o o' h
  obtain ⟨r, hr⟩ := exists_allots m number
  rw [run_of_allots name o r hr, run_of_allots name o' r hr]
  cases r with
  | ok id => exact .ok id _ ⟨h.channel, h.attempts⟩
  | error e => exact .error e m h

theorem agrees_removeScene (id : SceneId) :
    Agrees S (removeScene id : Act Manager χ Scene) (removeScene id) := by
  refine (agrees_sceneNamed id).bind fun s => (agrees_change _).bind fun _ => ?_
  refine Agrees.bind ?_ fun _ => (agrees_note _).bind fun _ => agrees_pure s
  apply agrees_forM
  exact fun e => agrees_unindex e.1 e.2

theorem agrees_addDevice (directory : Directory) (id : SceneId) (device : DeviceId)
    (value : UInt8) :
    Agrees S (addDevice directory id device value : Act Manager χ Unit)
      (addDevice directory id device value) :=
  (agrees_sceneNamed id).bind fun _ => (agrees_of _).bind fun _ => (agrees_change _).bind fun _ =>
    agrees_note _

theorem agrees_removeDevice (id : SceneId) (device : DeviceId) :
    Agrees S (removeDevice id device : Act Manager χ Bool) (removeDevice id device) :=
  (agrees_sceneNamed id).bind fun _ => (agrees_change _).bind fun _ => agrees_pure _

theorem agrees_setValue (id : SceneId) (device : DeviceId) (value : UInt8) :
    Agrees S (setValue id device value : Act Manager χ Unit) (setValue id device value) :=
  (agrees_sceneNamed id).bind fun _ => (agrees_of _).bind fun _ => agrees_change _

theorem agrees_giveButton (id : SceneId) (d : DeviceId) (c : Controller) (b : ButtonId) :
    Agrees S (giveButton id d c b : Act Manager χ Unit) (giveButton id d c b) := by
  refine (agrees_sceneNamed id).bind fun s => (agrees_of _).bind fun p => ?_
  refine (agrees_change _).bind fun _ => (agrees_change _).bind fun _ => ?_
  split
  · split
    · exact (agrees_unindex d _).bind fun _ => agrees_note _
    · exact agrees_note _
  · exact agrees_note _

theorem agrees_removeController (id : SceneId) (d : DeviceId) :
    Agrees S (removeController id d : Act Manager χ (Option ButtonId)) (removeController id d) := by
  refine (agrees_sceneNamed id).bind fun s => (agrees_change _).bind fun _ => ?_
  split
  · exact (agrees_unindex d _).bind fun _ => agrees_pure _
  · exact agrees_pure _

theorem agrees_restoreDevice (directory : Directory) (id : SceneId) (record : DeviceRecord) :
    Agrees S (restoreDevice directory id record : Act Manager χ Unit)
      (restoreDevice directory id record) := by
  refine (agrees_addDevice directory id _ _).outcome.bind fun r => ?_
  cases r with
  | ok u => exact agrees_pure ()
  | error e => exact agrees_note _

variable [Channel χ] [Channel χ'] (hS : Channel.Agree S)
include hS

theorem agrees_addController (directory : Directory) (id : SceneId) (d : DeviceId) (b : ButtonId) :
    Agrees S (addController directory id d b : Act Manager χ Unit)
      (addController directory id d b) := by
  have hbind : Agrees S (bindButton directory id d b : Act Manager χ Unit)
      (bindButton directory id d b) :=
    agrees_subject.bind fun m =>
      (agrees_onControllers (Registry.agrees_getOrBind hS d _ directory)).bind fun c =>
        agrees_giveButton id d c b
  refine (agrees_sceneNamed id).bind fun _ => agrees_subject.bind fun m => ?_
  -- where the button is another scene's the call stops; what follows is the same for a free button
  -- and for one that the scene has already
  split
  on_goal 1 => split
  on_goal 1 => refine (agrees_throw _).bind fun _ => ?_
  all_goals
    refine hbind.outcome.bind fun r => ?_
    cases r with
    | ok u => exact agrees_pure ()
    | error e =>
      refine (agrees_note _).bind fun _ => ?_
      exact (agrees_releaseController d).bind fun _ => agrees_throw e

theorem agrees_restoreController (directory : Directory) (id : SceneId)
    (record : ControllerRecord) :
    Agrees S (restoreController directory id record : Act Manager χ Unit)
      (restoreController directory id record) := by
  refine (agrees_addController hS directory id _ _).outcome.bind fun r => ?_
  cases r with
  | ok u => exact agrees_pure ()
  | error e => exact agrees_note _

theorem agrees_restoreScene (directory : Directory) (record : SceneRecord) :
    Agrees S (restoreScene directory record : Act Manager χ Bool)
      (restoreScene directory record) := by
  refine (agrees_newSceneWithId _ _).outcome.bind fun r => ?_
  cases r with
  | error e => exact (agrees_note _).bind fun _ => agrees_pure false
  | ok id =>
    refine (agrees_editScene id _).bind fun _ => (agrees_editScene id _).bind fun _ => ?_
    refine (agrees_forM (agrees_restoreDevice directory id) _).bind fun _ => ?_
    refine (agrees_forM (agrees_restoreController hS directory id) _).bind fun _ => ?_
    exact agrees_pure true

theorem agrees_restore (directory : Directory) (snapshot : Snapshot) :
    Agrees S (restore directory snapshot : Act Manager χ Nat) (restore directory snapshot) := by
  refine Agrees.bind ?_ fun n => (agrees_note _).bind fun _ => agrees_pure n
  apply agrees_foldlM
  exact fun n record => (agrees_restoreScene hS directory record).bind fun _ => agrees_pure _

theorem agrees_programScene (id : SceneId) :
    Agrees S (programScene id : Act Manager χ ProgramSummary) (programScene id) :=
  (agrees_sceneNamed id).bind fun s => agrees_subject.bind fun _ => s.agrees_program hS _ _

theorem agrees_activateScene (id : SceneId) :
    Agrees S (activateScene id : Act Manager χ Nat) (activateScene id) :=
  (agrees_sceneNamed id).bind fun s => agrees_onControllers (s.agrees_activate hS)

theorem agrees_refreshIndicators :
    Agrees S (refreshIndicators : Act Manager χ Unit) refreshIndicators :=
  agrees_onControllers (Registry.agrees_refresh hS)

theorem agrees_call (directory : Directory) (c : Call) :
    Agrees S (c.run directory : Act Manager χ Unit) (c.run directory) := by
  cases c with
  | newScene number name => exact (agrees_newSceneWithId number name).discard
  | removeScene id => exact (agrees_removeScene id).discard
  | setName id name => exact agrees_editScene id _
  | setDuration id duration => exact agrees_editScene id _
  | setOverride id overrideLevel => exact agrees_editScene id _
  | addDevice id device value => exact agrees_addDevice directory id device value
  | removeDevice id device => exact (agrees_removeDevice id device).discard
  | setValue id device value => exact agrees_setValue id device value
  | addController id d b => exact agrees_addController hS directory id d b
  | removeController id d => exact (agrees_removeController id d).discard
  | program id => exact (agrees_programScene hS id).discard
  | activate id => exact (agrees_activateScene hS id).discard
  | refresh => exact agrees_refreshIndicators hS
  | restore snapshot => exact (agrees_restore hS directory snapshot).discard

/-! ## Received frames -/

theorem agrees_syncScene (source : DeviceId) (id : SceneId) (b : ButtonId) (on : Bool) :
    Agrees S (syncScene source id b on : Act Manager χ Unit) (syncScene source id b on) := by
  refine agrees_subject.bind fun m => ?_
  cases m.scene? id with
  | none => exact agrees_pure ()
  | some s =>
    dsimp only
    split
    · refine (agrees_note _).bind fun _ => ?_
      refine (agrees_onControllers (s.agrees_sync hS source on)).outcome.bind fun r => ?_
      cases r with
      | ok n => exact agrees_pure ()
      | error e => exact agrees_note _
    · exact agrees_pure ()

theorem agrees_handleIndicator (source : DeviceId) (bitmask : UInt8) :
    Agrees S (handleIndicator source bitmask : Act Manager χ Unit)
      (handleIndicator source bitmask) := by
  refine agrees_subject.bind fun m => ?_
  cases m.index.get? source with
  | none => exact agrees_note _
  | some buttons =>
    dsimp only
    cases m.controllers.get? source with
    | none => exact agrees_pure ()
    | some c =>
      refine (agrees_replace _).bind fun _ => ?_
      cases (c.handleReport bitmask).2 with
      | none => exact agrees_note _
      | some previous =>
        apply agrees_forM
        exact fun e => agrees_syncScene hS source e.1 e.2.1 e.2.2

theorem agrees_handleEvent (e : Event) :
    Agrees S (handleEvent e : Act Manager χ Unit) (handleEvent e) := by
  unfold handleEvent
  cases e.report with
  | activation a =>
    dsimp only
    unfold handleActivation
    cases SceneId.ofByte? a.scene with
    | none => exact agrees_note _
    | some id =>
      refine agrees_subject.bind fun m => ?_
      split
      · refine (agrees_note _).bind fun _ => ?_
        exact (agrees_activateScene hS id).bind fun _ => agrees_pure ()
      · exact agrees_note _
  | indicator bitmask => exact agrees_handleIndicator hS e.source bitmask
  | basic value =>
    refine agrees_subject.bind fun m => ?_
    split
    · exact (agrees_note _).bind fun _ => agrees_onControllers (Registry.agrees_react hS e.source _)
    · exact agrees_pure ()
  | actuator report => exact agrees_note _
  | controller report =>
    refine agrees_subject.bind fun m => ?_
    dsimp only
    repeat' split
    all_goals exact agrees_note _
  | transfer transfer => exact agrees_note _

theorem agrees_handleFrame (f : InboundFrame) :
    Agrees S (handleFrame f : Act Manager χ Unit) (handleFrame f) := by
  unfold handleFrame
  match Event.decode f with
  | .error e => exact agrees_note _
  | .ok none => exact agrees_pure ()
  | .ok (some event) =>
    refine (agrees_handleEvent hS event).outcome.bind fun r => ?_
    cases r with
    | ok u => exact agrees_pure ()
    | error e => exact agrees_note _

end Manager

end MeshScenes
