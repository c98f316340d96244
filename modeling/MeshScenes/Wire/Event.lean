import MeshScenes.Frame
import MeshScenes.Wire.Transfer

/-!
# Events

The reports that scenes react to, read from received frames. Frames of other classes are no events.
-/

namespace MeshScenes

inductive Report where
  | activation (activation : Activation)
  | indicator (bitmask : UInt8)
  | basic (value : UInt8)
  | actuator (report : ActuatorReport)
  | controller (report : ControllerReport)
  | transfer (transfer : Transfer)
  deriving DecidableEq, Repr

structure Event where
  source : DeviceId
  report : Report
  deriving DecidableEq, Repr

/-- Reads a payload of a class; classes that only carry requests have no reports. -/
def Report.decode (c : CommandClass) (payload : List UInt8) :
    Except EncodingError (Option Report) :=
  match c with
  | .sceneActivation => (Activation.decode payload).map (some ∘ Report.activation)
  | .indicator => (decodeIndicator payload).map (some ∘ Report.indicator)
  | .basic => (decodeBasic payload).map (some ∘ Report.basic)
  | .sceneActuatorConf => (ActuatorReport.decode payload).map (some ∘ Report.actuator)
  | .sceneControllerConf => (ControllerReport.decode payload).map (some ∘ Report.controller)
  | .controllerReplication => (Transfer.decode payload).map (some ∘ Report.transfer)
  | .association | .configuration => .ok none

/-- Reads a frame; there is no event in a frame of a class that is not handled. -/
def Event.decode (f : InboundFrame) : Except EncodingError (Option Event) :=
  match CommandClass.ofId? f.commandClass with
  | none => .ok none
  | some c => (Report.decode c f.payload).map (·.map (Event.mk f.source))

end MeshScenes
