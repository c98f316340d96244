import MeshScenes.Hub.Basic

/-!
# Scenes for demonstrations

Two scenes for the installation of `Network.demo`: one for the evening, and one that turns all off.
-/

namespace MeshScenes

/-- Creates the two scenes and writes them to the network. -/
def Manager.populate {χ : Type} [Channel χ] (directory : Directory) : Act Manager χ Unit := do
  let evening ← newScene "evening"
  setDuration evening ⟨5⟩
  addDevice directory evening ⟨10⟩ 60
  addDevice directory evening ⟨11⟩ 30
  addDevice directory evening ⟨12⟩ 80
  addController directory evening ⟨2⟩ ⟨1⟩
  addController directory evening ⟨3⟩ ⟨1⟩
  let allOff ← newScene "all off"
  setDuration allOff Duration.instant
  [10, 11, 12].forM fun device => addDevice directory allOff ⟨device⟩ 0
  addController directory allOff ⟨2⟩ ⟨2⟩
  addController directory allOff ⟨4⟩ ⟨1⟩
  let _ ← programScene evening
  let _ ← programScene allOff
  let m ← Act.subject
  Act.note (.info "demo scenes created" [("scenes", .number m.scenes.size)])

def Hub.populate (h : Hub) : Except Error Unit × Hub :=
  h.call (Manager.populate h.network.directory)

end MeshScenes
