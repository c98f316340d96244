import MeshScenes.Text.Utf8

/-!
# Reading what was encoded

The bytes of a character take the reader from the beginning of one character to the beginning of the
next. The ranges for the second byte, which rule out overlong forms and surrogates, hold for every
character.
-/

namespace MeshScenes.Utf8

/-! ## One byte -/

theorem read_cons (begun : Option Begun) (b : UInt8) (bs : List UInt8) :
    read begun (b :: bs) = (step begun b.toNat).1 ++ read (step begun b.toNat).2 bs := rfl

theorem read_begin {b : UInt8} {c : Begun} (h : start b.toNat = ([], some c)) (bs : List UInt8) :
    read none (b :: bs) = read (some c) bs := by
  rw [read_cons, show step none b.toNat = ([], some c) from h]
  rfl

theorem read_more {b : UInt8} {bits low high n : Nat} (hlow : low ≤ b.toNat)
    (hhigh : b.toNat ≤ high) (bs : List UInt8) :
    read (some ⟨bits, low, high, n + 1⟩) (b :: bs) =
      read (some ⟨64 * bits + (b.toNat - 0x80), 0x80, 0xBF, n⟩) bs := by
  have hstep : step (some ⟨bits, low, high, n + 1⟩) b.toNat =
      ([], some ⟨64 * bits + (b.toNat - 0x80), 0x80, 0xBF, n⟩) := if_pos ⟨hlow, hhigh⟩
  rw [read_cons, hstep]
  rfl

theorem read_last {b : UInt8} {bits low high : Nat} (hlow : low ≤ b.toNat) (hhigh : b.toNat ≤ high)
    (bs : List UInt8) :
    read (some ⟨bits, low, high, 0⟩) (b :: bs) =
      some (Char.ofNat (64 * bits + (b.toNat - 0x80))) :: read none bs := by
  have hstep : step (some ⟨bits, low, high, 0⟩) b.toNat =
      ([some (Char.ofNat (64 * bits + (b.toNat - 0x80)))], none) := if_pos ⟨hlow, hhigh⟩
  rw [read_cons, hstep]
  rfl

/-! ## First bytes -/

theorem start_of_two {b : Nat} (h : 0xC2 ≤ b) (h' : b < 0xE0) :
    start b = ([], some ⟨b - 0xC0, 0x80, 0xBF, 0⟩) := by
  unfold start
  rw [if_neg (by omega), if_neg (by omega), if_pos h']

theorem start_of_three {b : Nat} (h : 0xE0 ≤ b) (h' : b < 0xF0) :
    ∃ low high, start b = ([], some ⟨b - 0xE0, low, high, 1⟩) ∧
      ∀ x, 0x80 ≤ x → x ≤ 0xBF → (b = 0xE0 → 0xA0 ≤ x) → (b = 0xED → x ≤ 0x9F) →
      low ≤ x ∧ x ≤ high := by
  unfold start
  rw [if_neg (by omega), if_neg (by omega), if_neg (by omega)]
  by_cases h0 : b = 0xE0
  · rw [if_pos h0, h0]
    exact ⟨_, _, rfl, fun x _ hhigh hlow _ => ⟨hlow rfl, hhigh⟩⟩
  · rw [if_neg h0]
    by_cases hd : b = 0xED
    · rw [if_pos hd, hd]
      exact ⟨_, _, rfl, fun x hlow _ _ hhigh => ⟨hlow, hhigh rfl⟩⟩
    · rw [if_neg hd, if_pos h']
      exact ⟨_, _, rfl, fun x hlow hhigh _ _ => ⟨hlow, hhigh⟩⟩

theorem start_of_four {b : Nat} (h : 0xF0 ≤ b) (h' : b ≤ 0xF4) :
    ∃ low high, start b = ([], some ⟨b - 0xF0, low, high, 2⟩) ∧
      ∀ x, 0x80 ≤ x → x ≤ 0xBF → (b = 0xF0 → 0x90 ≤ x) → (b = 0xF4 → x ≤ 0x8F) →
      low ≤ x ∧ x ≤ high := by
  unfold start
  rw [if_neg (by omega), if_neg (by omega), if_neg (by omega), if_neg (by omega), if_neg (by omega),
    if_neg (by omega)]
  by_cases h0 : b = 0xF0
  · rw [if_pos h0, h0]
    exact ⟨_, _, rfl, fun x _ hhigh hlow _ => ⟨hlow rfl, hhigh⟩⟩
  · rw [if_neg h0]
    by_cases h4 : b = 0xF4
    · rw [if_neg (by omega), if_pos h4, h4]
      exact ⟨_, _, rfl, fun x hlow _ _ hhigh => ⟨hlow, hhigh rfl⟩⟩
    · rw [if_pos (by omega)]
      exact ⟨_, _, rfl, fun x hlow hhigh _ _ => ⟨hlow, hhigh⟩⟩

/-! ## Characters -/

variable {v : Nat} (bs : List UInt8)

theorem read_one (h : v ≤ 127) :
    read none (UInt8.ofNat v :: bs) = some (Char.ofNat v) :: read none bs := by
  have hv := UInt8.toNat_ofNat_of_lt' (n := v) (show _ < 256 by omega)
  have hstep : step none (UInt8.ofNat v).toNat = ([some (Char.ofNat v)], none) := by
    unfold step start
    rw [hv]
    exact if_pos (by omega)
  rw [read_cons, hstep]
  rfl

theorem read_two (h : 127 < v) (h' : v ≤ 2047) :
    read none (UInt8.ofNat (v / 64 % 32 + 192) :: UInt8.ofNat (v % 64 + 128) :: bs) =
      some (Char.ofNat v) :: read none bs := by
  have hfirst := UInt8.toNat_ofNat_of_lt' (n := v / 64 % 32 + 192) (show _ < 256 by omega)
  have hlast := UInt8.toNat_ofNat_of_lt' (n := v % 64 + 128) (show _ < 256 by omega)
  have hstart := start_of_two (b := (UInt8.ofNat (v / 64 % 32 + 192)).toNat) (by omega) (by omega)
  rw [read_begin hstart, read_last (by omega) (by omega), hfirst, hlast]
  rw [show 64 * (v / 64 % 32 + 192 - 0xC0) + (v % 64 + 128 - 0x80) = v by omega]

theorem read_three (h : 2047 < v) (h' : v ≤ 65535) (hvalid : v < 0xD800 ∨ 0xDFFF < v) :
    read none (UInt8.ofNat (v / 4096 % 16 + 224) :: UInt8.ofNat (v / 64 % 64 + 128) ::
      UInt8.ofNat (v % 64 + 128) :: bs) = some (Char.ofNat v) :: read none bs := by
  have hfirst := UInt8.toNat_ofNat_of_lt' (n := v / 4096 % 16 + 224) (show _ < 256 by omega)
  have hsecond := UInt8.toNat_ofNat_of_lt' (n := v / 64 % 64 + 128) (show _ < 256 by omega)
  have hlast := UInt8.toNat_ofNat_of_lt' (n := v % 64 + 128) (show _ < 256 by omega)
  obtain ⟨low, high, hstart, hrange⟩ :=
    start_of_three (b := (UInt8.ofNat (v / 4096 % 16 + 224)).toNat) (by omega) (by omega)
  obtain ⟨hlow, hhigh⟩ :=
    hrange (UInt8.ofNat (v / 64 % 64 + 128)).toNat (by omega) (by omega) (by omega) (by omega)
  rw [read_begin hstart, read_more hlow hhigh, read_last (by omega) (by omega), hfirst,
    hsecond, hlast]
  rw [show 64 * (64 * (v / 4096 % 16 + 224 - 0xE0) + (v / 64 % 64 + 128 - 0x80)) +
    (v % 64 + 128 - 0x80) = v by omega]

theorem read_four (h : 65535 < v) (h' : v < 0x110000) :
    read none (UInt8.ofNat (v / 262144 % 8 + 240) :: UInt8.ofNat (v / 4096 % 64 + 128) ::
      UInt8.ofNat (v / 64 % 64 + 128) :: UInt8.ofNat (v % 64 + 128) :: bs) =
        some (Char.ofNat v) :: read none bs := by
  have hfirst := UInt8.toNat_ofNat_of_lt' (n := v / 262144 % 8 + 240) (show _ < 256 by omega)
  have hsecond := UInt8.toNat_ofNat_of_lt' (n := v / 4096 % 64 + 128) (show _ < 256 by omega)
  have hthird := UInt8.toNat_ofNat_of_lt' (n := v / 64 % 64 + 128) (show _ < 256 by omega)
  have hlast := UInt8.toNat_ofNat_of_lt' (n := v % 64 + 128) (show _ < 256 by omega)
  obtain ⟨low, high, hstart, hrange⟩ :=
    start_of_four (b := (UInt8.ofNat (v / 262144 % 8 + 240)).toNat) (by omega) (by omega)
  obtain ⟨hlow, hhigh⟩ :=
    hrange (UInt8.ofNat (v / 4096 % 64 + 128)).toNat (by omega) (by omega) (by omega) (by omega)
  rw [read_begin hstart, read_more hlow hhigh, read_more (by omega) (by omega),
    read_last (by omega) (by omega), hfirst, hsecond, hthird, hlast]
  rw [show 64 * (64 * (64 * (v / 262144 % 8 + 240 - 0xF0) + (v / 4096 % 64 + 128 - 0x80)) +
    (v / 64 % 64 + 128 - 0x80)) + (v % 64 + 128 - 0x80) = v by omega]

theorem read_utf8EncodeChar (c : Char) :
    read none (String.utf8EncodeChar c ++ bs) = some c :: read none bs := by
  have hvalid : c.val.toNat < 0xD800 ∨ 0xDFFF < c.val.toNat ∧ c.val.toNat < 0x110000 := c.valid
  have hc : Char.ofNat c.val.toNat = c := c.ofNat_toNat
  unfold String.utf8EncodeChar
  dsimp only
  by_cases h1 : c.val.toNat ≤ 127
  · rw [if_pos h1]
    exact (read_one bs h1).trans (by rw [hc])
  · rw [if_neg h1]
    by_cases h2 : c.val.toNat ≤ 2047
    · rw [if_pos h2]
      exact (read_two bs (by omega) h2).trans (by rw [hc])
    · rw [if_neg h2]
      by_cases h3 : c.val.toNat ≤ 65535
      · rw [if_pos h3]
        exact (read_three bs (by omega) h3 (by omega)).trans (by rw [hc])
      · rw [if_neg h3]
        exact (read_four bs (by omega) (by omega)).trans (by rw [hc])

theorem spots_encode (s : String) : spots (encode s) = s.toList.map some := by
  unfold spots encode
  induction s.toList with
  | nil => rfl
  | cons c cs ih => rw [List.flatMap_cons, read_utf8EncodeChar, ih, List.map_cons]

end MeshScenes.Utf8
