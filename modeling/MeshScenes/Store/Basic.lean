import MeshScenes.Json.Records
import MeshScenes.Store.FileSystem

/-!
# The store of snapshots

A snapshot is kept as one pretty-printed JSON file. To save one, it is written to a file beside the
live one and then renamed over it, so a reader sees the old snapshot or the new one and never a
part.
-/

namespace MeshScenes

/-- A step of a save that goes wrong by itself: some directories are made, or a part of the file is
written, before it does. -/
inductive Mishap where
  | directories (made : Nat)
  | writing (written : Nat)
  | renaming
  deriving DecidableEq, Repr

/-- What became of a save, and the files it leaves behind. -/
structure Saved where
  failure : Option StorageFailure
  files : FileSystem

namespace Store

def encode (snapshot : Snapshot) : List UInt8 := Utf8.encode snapshot.toJson.pretty

def decode? (content : List UInt8) : Option Snapshot :=
  (JsonValue.ofBytes? content).bind Snapshot.ofJson?

/-- Saves a snapshot in four steps; any of them may fail, by itself or for what is in its way. -/
def save (mishap : Option Mishap) (files : FileSystem) (p : Path) (snapshot : Snapshot) : Saved :=
  let made : Disk Unit := match mishap with
    | some (.directories n) => ⟨none, (files.createDirectories (p.parent.first n)).files⟩
    | _ => files.createDirectories p.parent
  if made.result.isNone then ⟨some .io, made.files⟩
  else
    let content := encode snapshot
    let written : Disk Unit := match mishap with
      | some (.writing n) => ⟨none, (made.files.write p.staging (content.take n)).files⟩
      | _ => made.files.write p.staging content
    if written.result.isNone then ⟨some .io, written.files⟩
    else
      let renamed : Disk Unit := match mishap with
        | some .renaming => ⟨none, written.files⟩
        | _ => written.files.rename p.staging p
      if renamed.result.isNone then ⟨some .io, renamed.files⟩ else ⟨none, renamed.files⟩

/-- The stored snapshot; where there is no file, nothing was saved yet. -/
def load (files : FileSystem) (p : Path) : Except StorageFailure (Option Snapshot) :=
  match files.read p with
  | none => .error .io
  | some none => .ok none
  | some (some content) =>
    match decode? content with
    | some snapshot => .ok (some snapshot)
    | none => .error .json

end Store

end MeshScenes
