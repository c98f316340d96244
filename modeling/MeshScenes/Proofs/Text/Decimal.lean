import MeshScenes.Text.Decimal

/-!
# Padded numbers

What the printers of numbers leave for the readers: digits only, as many as were asked for where
these suffice, with the value of the number.
-/

namespace MeshScenes.Decimal

theorem value_eq_ofDigitChars (digits : List Char) :
    value digits = Nat.ofDigitChars 10 digits 0 := by
  rw [Nat.ofDigitChars_eq_foldl]
  rfl

theorem toList_padded (width n : Nat) :
    (padded width n).toList = List.replicate (width - (Nat.toDigits 10 n).length) '0' ++
      Nat.toDigits 10 n := by
  unfold padded
  rw [Nat.toString_eq_ofList_toDigits, String.toList_append, String.toList_ofList,
    String.toList_ofList, String.length_ofList]

theorem isDigit_of_mem_padded {width n : Nat} {c : Char} (hc : c ∈ (padded width n).toList) :
    c.isDigit = true := by
  rw [toList_padded] at hc
  rcases List.mem_append.mp hc with hc | hc
  · rw [List.eq_of_mem_replicate hc]
    rfl
  · exact Nat.isDigit_of_mem_toDigits (by decide) (by decide) hc

theorem length_padded {width n : Nat} (hwidth : 0 < width) (h : n < tenTo width) :
    (padded width n).toList.length = width := by
  have hlength : (Nat.toDigits 10 n).length ≤ width :=
    (Nat.length_toDigits_le_iff (by decide) hwidth).mpr h
  rw [toList_padded, List.length_append, List.length_replicate]
  omega

theorem padded_ne_nil {width n : Nat} (hwidth : 0 < width) : (padded width n).toList ≠ [] := by
  intro h
  have hlength := congrArg List.length h
  rw [toList_padded, List.length_append, List.length_replicate, List.length_nil] at hlength
  omega

theorem value_padded (width n : Nat) : value (padded width n).toList = n := by
  have hzeros : ∀ k, Nat.ofDigitChars 10 (List.replicate k '0') 0 = 0 := by
    intro k
    induction k with
    | zero => rfl
    | succ k ih => exact ih
  rw [value_eq_ofDigitChars, toList_padded, Nat.ofDigitChars_append, hzeros]
  exact Nat.ofDigitChars_toDigits (by decide) (by decide)

end MeshScenes.Decimal
