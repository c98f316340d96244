import MeshScenes.Controller.Basic

/-!
# Indicator lights as bits

A bitmask is read light by light: `lightAt` is the view through which the switching of one light is
stated, and `setLight` touches no other light.
-/

namespace MeshScenes

def lightAt (lights : UInt8) (i : Nat) : Bool := lights.toBitVec.getLsbD i

def setLight (lights bit : UInt8) (on : Bool) : UInt8 :=
  if on then lights ||| (1 <<< bit) else lights &&& ~~~(1 <<< bit)

def ofLights (f : Nat → Bool) : UInt8 :=
  ⟨(BitVec.ofBoolListLE ((List.range 8).map f)).cast (by simp)⟩

theorem lightAt_ext {x y : UInt8} (h : ∀ i < 8, lightAt x i = lightAt y i) : x = y := by
  apply UInt8.toBitVec_inj.mp
  apply BitVec.eq_of_getLsbD_eq
  intro i hi
  exact h i hi

theorem lightAt_of_le (x : UInt8) {i : Nat} (hi : 8 ≤ i) : lightAt x i = false :=
  BitVec.getLsbD_of_ge _ _ hi

@[simp] theorem lightAt_zero (i : Nat) : lightAt 0 i = false := by
  simp [lightAt]

theorem lightAt_or (x y : UInt8) (i : Nat) :
    lightAt (x ||| y) i = (lightAt x i || lightAt y i) := by
  simp [lightAt]

theorem lightAt_and (x y : UInt8) (i : Nat) :
    lightAt (x &&& y) i = (lightAt x i && lightAt y i) := by
  simp [lightAt]

theorem lightAt_xor (x y : UInt8) (i : Nat) :
    lightAt (x ^^^ y) i = (lightAt x i != lightAt y i) := by
  simp [lightAt]

theorem lightAt_not (x : UInt8) {i : Nat} (hi : i < 8) : lightAt (~~~x) i = !lightAt x i := by
  simp [lightAt, hi]

theorem lightAt_bit {bit : UInt8} (hb : bit < 8) (i : Nat) :
    lightAt (1 <<< bit) i = decide (i = bit.toNat) := by
  have hn : bit.toNat < 8 := hb
  have hm : (bit.toBitVec % 8).toNat = bit.toNat := by
    rw [BitVec.toNat_umod]
    exact Nat.mod_eq_of_lt hn
  rw [lightAt, UInt8.toBitVec_shiftLeft, BitVec.shiftLeft_eq', BitVec.getLsbD_shiftLeft, hm]
  show (_ && BitVec.getLsbD 1#8 _) = _
  rw [BitVec.getLsbD_one]
  by_cases h : i = bit.toNat
  · simp [h, hn]
  · simp only [h, decide_false, Bool.and_eq_false_iff, decide_eq_false_iff_not, Bool.not_eq_false',
      decide_eq_true_eq]
    omega

theorem and_bit_ne_zero_iff {bit : UInt8} (hb : bit < 8) (x : UInt8) :
    x &&& (1 <<< bit) ≠ 0 ↔ lightAt x bit.toNat = true := by
  constructor
  · intro h
    by_cases hx : lightAt x bit.toNat = true
    · exact hx
    · refine absurd (lightAt_ext fun i _ => ?_) h
      rw [lightAt_and, lightAt_bit hb, lightAt_zero]
      by_cases hi : i = bit.toNat
      · simpa [hi] using hx
      · simp [hi]
  · intro h h0
    have := congrArg (lightAt · bit.toNat) h0
    simp [lightAt_and, lightAt_bit hb, h] at this

theorem lightAt_setLight {bit : UInt8} (hb : bit < 8) (x : UInt8) (on : Bool) (i : Nat) :
    lightAt (setLight x bit on) i = if i = bit.toNat then on else lightAt x i := by
  by_cases hi : i < 8
  · by_cases h : i = bit.toNat
    · subst h
      cases on <;> simp [setLight, lightAt_or, lightAt_and, lightAt_not _ hi, lightAt_bit hb]
    · cases on <;> simp [setLight, lightAt_or, lightAt_and, lightAt_not _ hi, lightAt_bit hb, h]
  · have hn : bit.toNat < 8 := hb
    have h : i ≠ bit.toNat := by omega
    rw [if_neg h, lightAt_of_le _ (by omega), lightAt_of_le _ (by omega)]

theorem lightAt_ofLights (f : Nat → Bool) {i : Nat} (hi : i < 8) :
    lightAt (ofLights f) i = f i := by
  simp only [lightAt, ofLights, BitVec.getLsbD_cast, BitVec.getLsbD_ofBoolListLE]
  simp [List.getD_eq_getElem?_getD, hi]

theorem setLight_ne {bit x : UInt8} {on : Bool} (hb : bit < 8) (h : lightAt x bit.toNat ≠ on) :
    setLight x bit on ≠ x := by
  intro hx
  apply h
  rw [← hx, lightAt_setLight hb, if_pos rfl]

theorem lightAt_turned {bit : UInt8} (hb : bit < 8) (x : UInt8) (i : Nat) :
    lightAt (x ^^^ (1 <<< bit)) i = if i = bit.toNat then !lightAt x i else lightAt x i := by
  rw [lightAt_xor, lightAt_bit hb]
  by_cases hi : i = bit.toNat
  · simp [hi]
  · simp [hi]

theorem turned_eq_setLight {bit : UInt8} (hb : bit < 8) {x : UInt8} {on : Bool}
    (h : lightAt x bit.toNat ≠ on) :
    x ^^^ (1 <<< bit) = setLight x bit on := by
  apply lightAt_ext
  intro i _
  rw [lightAt_turned hb, lightAt_setLight hb]
  split
  next hi => rw [hi, Bool.eq_not_of_ne h, Bool.not_not]
  next => rfl

/-! ## Buttons -/

def ButtonId.place (b : ButtonId) : Nat := b.byte.toNat - 1

theorem ButtonId.bit?_eq_some {b : ButtonId} {bit : UInt8} (h : b.bit? = some bit) :
    bit < 8 ∧ bit.toNat = b.place ∧ 1 ≤ b.byte := by
  unfold ButtonId.bit? at h
  split at h
  next => cases h
  next h0 =>
    split at h
    next hlt =>
      cases h
      have h1 : 1 ≤ b.byte := by
        rw [UInt8.le_iff_toNat_le]
        exact Nat.one_le_iff_ne_zero.mpr fun h => h0 (UInt8.toNat_inj.mp h)
      exact ⟨hlt, by rw [UInt8.toNat_sub_of_le _ _ h1]; rfl, h1⟩
    next => cases h

theorem ButtonId.bit?_of_le {b : ButtonId} (h1 : 1 ≤ b.byte) (h8 : b.byte ≤ 8) :
    b.bit? = some (b.byte - 1) := by
  rw [UInt8.le_iff_toNat_le] at h1 h8
  have h0 : b.byte ≠ 0 := by
    intro h
    rw [h] at h1
    exact absurd h1 (by decide)
  have hlt : b.byte - 1 < 8 := by
    rw [UInt8.lt_iff_toNat_lt, UInt8.toNat_sub_of_le _ _ (UInt8.le_iff_toNat_le.mpr h1)]
    exact Nat.lt_of_lt_of_le (Nat.sub_lt h1 Nat.one_pos) h8
  rw [ButtonId.bit?, if_neg h0, if_pos hlt]

theorem ButtonId.place_inj {a b : ButtonId} (ha : 1 ≤ a.byte) (hb : 1 ≤ b.byte)
    (h : a.place = b.place) :
    a = b := by
  have : a.byte.toNat = b.byte.toNat := by
    rw [UInt8.le_iff_toNat_le] at ha hb
    unfold ButtonId.place at h
    have h1 : (1 : UInt8).toNat = 1 := rfl
    omega
  cases a; cases b; cases UInt8.toNat_inj.mp this; rfl

def ButtonId.ofPlace (i : Nat) : ButtonId := ⟨UInt8.ofNat i + 1⟩

theorem ButtonId.byte_ofPlace {i : Nat} (hi : i < 8) : (ofPlace i).byte.toNat = i + 1 := by
  unfold ofPlace
  rw [UInt8.toNat_add, UInt8.toNat_ofNat_of_lt' (Nat.lt_trans hi (by decide))]
  have : (1 : UInt8).toNat = 1 := rfl
  omega

theorem ButtonId.place_ofPlace {i : Nat} (hi : i < 8) : (ofPlace i).place = i := by
  rw [place, byte_ofPlace hi]
  omega

theorem ButtonId.ofPlace_place {b : ButtonId} (h1 : 1 ≤ b.byte) (h8 : b.byte ≤ 8) :
    ofPlace b.place = b := by
  have h1' : 1 ≤ b.byte.toNat := UInt8.le_iff_toNat_le.mp h1
  have h8' : b.byte.toNat ≤ 8 := UInt8.le_iff_toNat_le.mp h8
  have hp : b.place < 8 := by
    unfold place
    omega
  refine place_inj (UInt8.le_iff_toNat_le.mpr ?_) h1 (place_ofPlace hp)
  rw [byte_ofPlace hp]
  exact Nat.le_add_left 1 _

theorem ButtonId.ofPlace_inj {i j : Nat} (hi : i < 8) (hj : j < 8) (h : ofPlace i = ofPlace j) :
    i = j := by
  rw [← place_ofPlace hi, ← place_ofPlace hj, h]

theorem Controller.isOn_eq {c : Controller} {b : ButtonId} {bit : UInt8} (h : b.bit? = some bit) :
    c.isOn b = lightAt c.indicator b.place := by
  obtain ⟨hb, hp, -⟩ := ButtonId.bit?_eq_some h
  unfold Controller.isOn
  rw [h, ← hp, Bool.eq_iff_iff, decide_eq_true_iff]
  exact and_bit_ne_zero_iff hb c.indicator

end MeshScenes
