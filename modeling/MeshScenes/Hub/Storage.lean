import MeshScenes.Hub.Basic

/-!
# The hub and its store

Saves the scenes of the hub's manager to its file, and restores them from there.
-/

namespace MeshScenes.Hub

/-- Saves the scenes as they are, stamped with the time. -/
def save (h : Hub) (now : Timestamp) : Except Error Unit × Hub :=
  let snapshot := h.manager.snapshot now
  let saved := Store.save none h.files storePath snapshot
  let h := { h with files := saved.files }
  match saved.failure with
  | some failure => (.error (.storage failure), h)
  | none =>
    let count : Journal.Field := .number snapshot.scenes.length
    (.ok (), (h.note (.debug "snapshot written" [("scenes", count)])).note
      (.info "scenes saved" [("scenes", count)]))

/-- Restores the stored scenes, if there are any; the answer is how many were restored. -/
def load (h : Hub) : Except Error Nat × Hub :=
  match Store.load h.files storePath with
  | .error failure => (.error (.storage failure), h)
  | .ok stored =>
    let h := h.note (.debug "snapshot read" [("found", .flag stored.isSome)])
    match stored with
    | none => (.ok 0, h.note (.info "no stored scenes" []))
    | some snapshot =>
      let h := if snapshot.savedAt.isSome then h.note (.info "restoring stored scenes" []) else h
      h.call (Manager.restore h.network.directory snapshot)

end MeshScenes.Hub
