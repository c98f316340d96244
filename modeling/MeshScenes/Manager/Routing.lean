import MeshScenes.Manager.Scenes
import MeshScenes.Scene.Lights
import MeshScenes.Wire.Event

/-!
# Scenes and the network

Programming, activating and refreshing scenes, and what the manager does with the frames it
receives. Nobody waits for the result of a received frame, so its failures end in the journal.
-/

namespace MeshScenes.Manager

open Journal (Field)

variable {χ : Type} [Channel χ]

/-! ## Calls to the network -/

def programScene (id : SceneId) : Act Manager χ ProgramSummary := do
  let s ← sceneNamed id
  let m ← Act.subject
  s.program m.controllers m.coordinator

/-- Turns the scene's light on at every controller. The answer is how many lights changed. -/
def activateScene (id : SceneId) : Act Manager χ Nat := do
  let s ← sceneNamed id
  onControllers s.activate

/-- Asks every controller for its lights. That mends the picture where a report was lost. -/
def refreshIndicators : Act Manager χ Unit := onControllers Registry.refresh

/-! ## Reports -/

/-- The buttons, among those that trigger a scene, whose light differs between two reports: the
scene, the button, and whether it is on now. -/
def transitions (buttons : ByteMap ButtonId SceneId) (previous current : UInt8) :
    List (SceneId × ButtonId × Bool) :=
  (List.range 8).filterMap fun i =>
    let bit := UInt8.ofNat i
    let button : ButtonId := ⟨bit + 1⟩
    if (previous ^^^ current) &&& (1 <<< bit) = 0 then none
    else (buttons.get? button).map fun scene => (scene, button, current &&& (1 <<< bit) ≠ 0)

/-- Carries the change of a button over to the scene's other controllers. -/
def syncScene (source : DeviceId) (id : SceneId) (button : ButtonId) (on : Bool) :
    Act Manager χ Unit := do
  let m ← Act.subject
  match m.scene? id with
  | none => pure ()
  | some s =>
    if s.isBoundTo source button then
      Act.note (.debug "indicator changed" [
        ("source", .show source), ("button", .show button), ("on", .flag on), ("scene", .show id)])
      match ← Act.outcome (onControllers (s.sync source on)) with
      | .ok _ => pure ()
      | .error e =>
        Act.note (.warn "unable to sync controllers" [
          ("source", .show source), ("button", .show button), ("scene", .show id),
          ("err", .text e.summary)])

/-- Takes over the lights of a controller, and carries over what it changed itself since its last
report. The first report has nothing to compare with. -/
def handleIndicator (source : DeviceId) (bitmask : UInt8) : Act Manager χ Unit := do
  let m ← Act.subject
  match m.index.get? source with
  | none => Act.note (.debug "indicator report from unindexed device" [("source", .show source)])
  | some buttons =>
    match m.controllers.get? source with
    | none => pure ()
    | some c =>
      let (c, previous) := c.handleReport bitmask
      Act.replace { m with controllers := m.controllers.insert source c }
      match previous with
      | none =>
        Act.note (.debug "first indicator report, nothing to compare" [
          ("source", .show source), ("bitmask", .number bitmask.toNat)])
      | some previous =>
        (transitions buttons previous bitmask).forM fun (id, button, on) =>
          syncScene source id button on

def handleActivation (source : DeviceId) (activation : Activation) : Act Manager χ Unit := do
  match SceneId.ofByte? activation.scene with
  | none => Act.note (.debug "ignoring activation of scene 0" [("source", .show source)])
  | some id =>
    let m ← Act.subject
    if m.scenes.contains id then
      Act.note (.info "scene activation received" [("source", .show source), ("scene", .show id)])
      let _ ← activateScene id
    else
      Act.note (.debug "ignoring activation of unknown scene" [
        ("source", .show source), ("scene", .show id)])

/-- A press: the controller is asked which button it was. -/
def handleBasic (source : DeviceId) (value : UInt8) : Act Manager χ Unit := do
  let m ← Act.subject
  if m.controllers.contains source then
    Act.note (.debug "button press, refreshing indicator" [
      ("source", .show source), ("value", .number value.toNat)])
    onControllers (Registry.react source fun c => .ok c.handleBasic)

/-- Warns of a group that does not hold the scene it should. -/
def handleControllerReport (source : DeviceId) (report : ControllerReport) :
    Act Manager χ Unit := do
  let m ← Act.subject
  let expected := (m.sceneForButton? source ⟨report.group⟩).map SceneId.byte
  let reported : Journal.Entry := .debug "scene controller configuration reported" [
    ("source", .show source), ("group", .number report.group.toNat),
    ("scene", .number report.scene.toNat)]
  match expected with
  | some scene =>
    if scene ≠ report.scene then
      Act.note (.warn "controller group bound to a different scene, reprogram needed" [
        ("source", .show source), ("group", .number report.group.toNat),
        ("expected", .number scene.toNat), ("reported", .number report.scene.toNat)])
    else Act.note reported
  | none => Act.note reported

def handleEvent (e : Event) : Act Manager χ Unit :=
  match e.report with
  | .activation activation => handleActivation e.source activation
  | .indicator bitmask => handleIndicator e.source bitmask
  | .basic value => handleBasic e.source value
  | .actuator report =>
    Act.note (.debug "scene actuator configuration reported" [
      ("source", .show e.source), ("scene", .number report.scene.toNat),
      ("level", .number report.level.toNat), ("duration", .show report.duration)])
  | .controller report => handleControllerReport e.source report
  | .transfer transfer =>
    Act.note (.debug "controller replication received" [
      ("source", .show e.source), ("report", .text transfer.describe),
      ("name", .text (Quoted.quoteOption transfer.name?))])

/-- Handles a received frame. Malformed frames are dropped, and failures only noted. -/
def handleFrame (f : InboundFrame) : Act Manager χ Unit := do
  match Event.decode f with
  | .ok none => pure ()
  | .error e =>
    Act.note (.warn "dropping malformed frame" [
      ("source", .show f.source), ("err", .text e.message)])
  | .ok (some event) =>
    match ← Act.outcome (handleEvent event) with
    | .ok () => pure ()
    | .error e =>
      Act.note (.warn "failed to handle event" [
        ("source", .show f.source), ("err", .text e.summary)])

end MeshScenes.Manager
