import MeshScenes.ByteMap
import MeshScenes.Text.Decimal

/-!
# Identifiers

Nodes, buttons and scenes are each named by one byte. A button is also the number of the
association group that its controller sends to. Scene 0 is reserved, so a `SceneId` is never 0.
-/

namespace MeshScenes

/-- A node of the mesh. -/
structure DeviceId where
  byte : UInt8
  deriving DecidableEq, Repr, Inhabited

/-- A button of a scene controller. -/
structure ButtonId where
  byte : UInt8
  deriving DecidableEq, Repr, Inhabited

structure SceneId where
  byte : UInt8
  ne_zero : byte ≠ 0
  deriving DecidableEq, Repr

theorem SceneId.ext {a b : SceneId} (h : a.byte = b.byte) : a = b := by
  cases a; cases b; cases h; rfl

instance : ByteKey DeviceId := ⟨DeviceId.byte, fun {a b} h => by cases a; cases b; cases h; rfl⟩
instance : ByteKey ButtonId := ⟨ButtonId.byte, fun {a b} h => by cases a; cases b; cases h; rfl⟩
instance : ByteKey SceneId := ⟨SceneId.byte, SceneId.ext⟩

theorem DeviceId.map_mk (ds : List DeviceId) : (ds.map DeviceId.byte).map DeviceId.mk = ds := by
  rw [List.map_map]
  exact List.map_id ds

instance : ToString DeviceId := ⟨fun d => toString d.byte⟩
instance : ToString ButtonId := ⟨fun b => toString b.byte⟩
instance : ToString SceneId := ⟨fun s => toString s.byte⟩

def DeviceId.parse (text : String) : Except NumberError DeviceId :=
  (Decimal.parseByte text).map DeviceId.mk

def ButtonId.parse (text : String) : Except NumberError ButtonId :=
  (Decimal.parseByte text).map ButtonId.mk

/-- The zero-based place of the button in an indicator bitmask, which has room for eight. -/
def ButtonId.bit? (b : ButtonId) : Option UInt8 :=
  if b.byte = 0 then none else if b.byte - 1 < 8 then some (b.byte - 1) else none

def SceneId.ofByte? (n : UInt8) : Option SceneId :=
  if h : n ≠ 0 then some ⟨n, h⟩ else none

@[simp] theorem SceneId.ofByte?_byte (id : SceneId) :
    ofByte? id.byte = some id := dif_pos id.ne_zero

/-- Every scene id, ascending. -/
def SceneId.all : List SceneId := ((List.range 256).map UInt8.ofNat).filterMap SceneId.ofByte?

theorem ascending_bytes : ((List.range 256).map UInt8.ofNat).Pairwise (· < ·) := by
  rw [List.pairwise_map]
  apply List.Pairwise.imp_of_mem _ List.pairwise_lt_range
  intro i j hi hj hlt
  have hi := List.mem_range.mp hi
  have hj := List.mem_range.mp hj
  rw [UInt8.lt_iff_toNat_lt, UInt8.toNat_ofNat', UInt8.toNat_ofNat', Nat.mod_eq_of_lt hi,
    Nat.mod_eq_of_lt hj]
  exact hlt

theorem SceneId.ofByte?_eq_some_iff {n : UInt8} {id : SceneId} :
    ofByte? n = some id ↔ id.byte = n := by
  constructor
  · intro h
    unfold ofByte? at h
    split at h
    · cases h
      rfl
    · cases h
  · rintro rfl
    exact ofByte?_byte id

theorem toUInt32_le (b : UInt8) : b.toUInt32 ≤ 255 := by
  rw [UInt32.le_iff_toNat_le]
  simpa using Nat.le_of_lt_succ b.toNat_lt

theorem exists_byte {n : UInt32} (h : n ≤ 255) : ∃ b : UInt8, b.toUInt32 = n := by
  have hlt : n < 256 := UInt32.lt_of_le_of_lt h (by decide)
  exact ⟨n.toUInt8, by rw [UInt32.toUInt32_toUInt8, UInt32.mod_eq_of_lt hlt]⟩

/-- How many scenes a network can have. -/
def maxScenes : Nat := 255

end MeshScenes
