import MeshScenes.Proofs.Text.Pieces
import MeshScenes.Wire.Transfer

/-!
# Names in transfers

A name transfer keeps the bytes of its name, and the name is the text that these bytes hold: the
text that was encoded, or, from any bytes, their characters in order with one replacement character
for each damaged part.
-/

namespace MeshScenes.Transfer

open Utf8

theorem decode_groupName (sequence group : UInt8) (name : List UInt8) :
    decode (0x32 :: sequence :: group :: name) = .ok (groupName sequence group name) := rfl

theorem decode_sceneName (sequence scene : UInt8) (name : List UInt8) :
    decode (0x34 :: sequence :: scene :: name) = .ok (sceneName sequence scene name) := rfl

theorem lossy_encoded (s : String) : lossy s.toByteArray.data.toList = s := by
  unfold lossy
  rw [← encode_eq_toByteArray, spots_encode, List.map_map]
  exact (congrArg String.ofList (List.map_id s.toList)).trans String.ofList_toList

/-- Both name transfers are decoded with all their fields, whatever the bytes of the name. A name
that was encoded is that name again. Any name falls into characters and maximal damaged parts in one
way only, and is shown as these. -/
theorem name_survives (sequence id : UInt8) (name : List UInt8) :
    decode (0x32 :: sequence :: id :: name) = .ok (groupName sequence id name) ∧
      decode (0x34 :: sequence :: id :: name) = .ok (sceneName sequence id name) ∧
      ∀ t ∈ [groupName sequence id name, sceneName sequence id name],
        (∀ s : String, name = s.toByteArray.data.toList → t.name? = some s) ∧
        ∃ ps, Cut name ps ∧ (∀ qs, Cut name qs → qs = ps) ∧ ps.flatMap Piece.bytes = name ∧
          t.name? = some (String.ofList (ps.map Piece.shown)) := by
  refine ⟨decode_groupName sequence id name, decode_sceneName sequence id name, fun t ht => ?_⟩
  have hname : t.name? = some (lossy name) := by
    simp only [List.mem_cons, List.not_mem_nil, or_false] at ht
    rcases ht with rfl | rfl <;> rfl
  obtain ⟨ps, hps⟩ := exists_cut name
  refine ⟨?_, ps, hps, fun qs hqs => hqs.unique hps, hps.bytes, by rw [hname, hps.lossy]⟩
  rintro s rfl
  rw [hname, lossy_encoded]

/-- A cut-off character, then half of a surrogate pair, of which each byte is a part of its own. -/
def damagedName : List UInt8 := [0x6B, 0xE2, 0x82, 0x6E, 0xED, 0xA0, 0x80, 0xC3, 0xA9]

theorem name_survives_damaged :
    (∃ t, decode (0x32 :: 3 :: 5 :: "café".toByteArray.data.toList) = .ok t ∧
      t.name? = some "café") ∧
      ∃ t ps, decode (0x34 :: 3 :: 5 :: damagedName) = .ok t ∧ Cut damagedName ps ∧
        ps.map Piece.shown = ['k', '\uFFFD', 'n', '\uFFFD', '\uFFFD', '\uFFFD', 'é'] := by
  obtain ⟨hdecode, -, hnames⟩ := name_survives 3 5 "café".toByteArray.data.toList
  refine ⟨⟨_, hdecode, (hnames _ (by simp)).1 "café" rfl⟩, ?_⟩
  obtain ⟨-, hdecode, hnames⟩ := name_survives 3 5 damagedName
  obtain ⟨-, ps, hps, -, -, hname⟩ := hnames (sceneName 3 5 damagedName) (by simp)
  refine ⟨_, ps, hdecode, hps, ?_⟩
  have hshown : (sceneName 3 5 damagedName).name? =
      some (String.ofList ['k', '\uFFFD', 'n', '\uFFFD', '\uFFFD', '\uFFFD', 'é']) :=
    by decide
  rw [hname] at hshown
  exact String.ofList_injective (Option.some.inj hshown)

end MeshScenes.Transfer
