import MeshScenes.Proofs.Text.Decimal
import MeshScenes.Timestamp.Reader

/-!
# Reading instants that were printed

Each reader takes exactly what was printed for it, because a mark that is no digit stands behind
every number. So the reader gets every instant back, with its fraction and leap second and in any
year.
-/

namespace MeshScenes.Timestamp.Reader

open Reading

variable {α β : Type} {digits rest : List Char} {n : Nat}

theorem run_bind {x : Reading α} {f : α → Reading β} {cs : List Char} {a : α}
    (h : x cs = some (a, rest)) :
    (x >>= f) cs = f a rest := by
  show (x cs).bind (fun p => f p.1 p.2) = _
  rw [h]
  rfl

/-! ## Marks -/

def Stops (rest : List Char) : Prop := ∀ c ∈ rest.head?, c.isDigit = false

theorem not_isBlank_of_isDigit {c : Char} (h : c.isDigit = true) : isBlank c = false := by
  have hbounds : 48 ≤ c.toNat ∧ c.toNat ≤ 57 := Char.isDigit_iff_toNat.mp h
  unfold isBlank
  simp only [Bool.or_eq_false_iff, Bool.and_eq_false_iff, decide_eq_false_iff_not]
  omega

theorem run_blanks {c : Char} (h : isBlank c = false) :
    blanks (c :: rest) = some ((), c :: rest) := by
  show some ((), skipBlanks (c :: rest)) = _
  unfold skipBlanks
  rw [List.dropWhile_cons_of_neg (by simp [h])]

theorem run_separator {c : Char} (h : isBlank c = false) :
    separator c (c :: rest) = some ((), rest) := by
  unfold separator
  rw [run_bind (run_blanks h)]
  exact if_pos rfl

/-! ## Numbers -/

theorem takeWhile_digits (hdigits : ∀ c ∈ digits, c.isDigit = true) (hrest : Stops rest) :
    (digits ++ rest).takeWhile Char.isDigit = digits := by
  have hnil : rest.takeWhile Char.isDigit = [] := by
    cases rest with
    | nil => rfl
    | cons c rest => exact List.takeWhile_cons_of_neg (by simp [hrest c rfl])
  rw [List.takeWhile_append_of_pos hdigits, hnil, List.append_nil]

theorem run_number (width : Option Nat) (hdigits : ∀ c ∈ digits, c.isDigit = true)
    (hne : digits ≠ []) (hwidth : ∀ w ∈ width, digits.length ≤ w) (hrest : Stops rest) :
    number width (digits ++ rest) = some (Decimal.value digits, rest) := by
  have hempty : digits.isEmpty ≠ true := by simpa using hne
  unfold number
  cases width with
  | none =>
    simp only [takeWhile_digits hdigits hrest]
    rw [if_neg hempty, List.drop_left]
  | some w =>
    simp only [takeWhile_digits hdigits hrest, List.take_of_length_le (hwidth w rfl)]
    rw [if_neg hempty, List.drop_left]

theorem run_blanks_digits (hdigits : ∀ c ∈ digits, c.isDigit = true) (hne : digits ≠ []) :
    blanks (digits ++ rest) = some ((), digits ++ rest) := by
  cases digits with
  | nil => exact absurd rfl hne
  | cons c digits => exact run_blanks (not_isBlank_of_isDigit (hdigits c List.mem_cons_self))

theorem run_twoDigits (h : n < 100) (hrest : Stops rest) :
    twoDigits ((Decimal.padded 2 n).toList ++ rest) = some (n, rest) := by
  have hdigits : ∀ c ∈ (Decimal.padded 2 n).toList, c.isDigit = true :=
    fun c hc => Decimal.isDigit_of_mem_padded hc
  have hne : (Decimal.padded 2 n).toList ≠ [] := Decimal.padded_ne_nil (by decide)
  unfold twoDigits
  rw [run_bind (run_blanks_digits hdigits hne), run_number _ hdigits hne ?_ hrest,
    Decimal.value_padded]
  intro w hw
  cases hw
  exact Nat.le_of_eq (Decimal.length_padded (by decide) h)

/-! ## Years -/

theorem run_year_signed {c : Char} (hc : c = '-' ∨ c = '+')
    (hdigits : ∀ c ∈ digits, c.isDigit = true) (hne : digits ≠ []) (hrest : Stops rest) :
    year (c :: (digits ++ rest)) =
      some (if c = '-' then -(Decimal.value digits : Int) else Decimal.value digits, rest) := by
  have hnumber := run_number none hdigits hne (fun w hw => by cases hw) hrest
  unfold year
  rcases hc with rfl | rfl
  · rw [run_bind (run_blanks (by decide))]
    show (number none (digits ++ rest)).bind _ = _
    rw [hnumber]
    rfl
  · rw [run_bind (run_blanks (by decide))]
    show (number none (digits ++ rest)).bind _ = _
    rw [hnumber]
    rfl

theorem run_year_unsigned (hdigits : ∀ c ∈ digits, c.isDigit = true) (hlength : digits.length = 4)
    (hrest : Stops rest) :
    year (digits ++ rest) = some ((Decimal.value digits : Int), rest) := by
  have hne : digits ≠ [] := fun h => by rw [h] at hlength; cases hlength
  have hnumber := run_number (some 4) hdigits hne (fun w hw => by cases hw; omega) hrest
  unfold year
  rw [run_bind (run_blanks_digits hdigits hne)]
  cases digits with
  | nil => exact absurd rfl hne
  | cons c digits =>
    have hc : c.isDigit = true := hdigits c List.mem_cons_self
    have hminus : c ≠ '-' := fun h => by rw [h] at hc; cases hc
    have hplus : c ≠ '+' := fun h => by rw [h] at hc; cases hc
    have hget : (get : Reading (List Char)) ((c :: digits) ++ rest) =
        some ((c :: digits) ++ rest, (c :: digits) ++ rest) := rfl
    rw [run_bind hget]
    simp only [List.cons_append, List.cons.injEq, hminus, hplus, false_and, false_implies,
      implies_true]
    exact (run_bind hnumber).trans rfl

theorem run_year (y : Int) (hrest : Stops rest) :
    year ((yearText y).toList ++ rest) = some (y, rest) := by
  have hdigits : ∀ n, ∀ c ∈ (Decimal.padded 4 n).toList, c.isDigit = true :=
    fun n c hc => Decimal.isDigit_of_mem_padded hc
  unfold yearText
  by_cases h : 0 ≤ y ∧ y ≤ 9999
  · have hbound : y.toNat < 10000 := by omega
    rw [if_pos h, run_year_unsigned (hdigits _) (Decimal.length_padded (by decide) hbound) hrest,
      Decimal.value_padded, Int.toNat_of_nonneg h.1]
  · have hne : (Decimal.padded 4 y.natAbs).toList ≠ [] := Decimal.padded_ne_nil (by decide)
    rw [if_neg h, String.toList_append]
    by_cases hneg : y < 0
    · rw [if_pos hneg]
      refine (run_year_signed (c := '-') (.inl rfl) (hdigits _) hne hrest).trans ?_
      rw [Decimal.value_padded, if_pos rfl, show -(y.natAbs : Int) = y by omega]
    · rw [if_neg hneg]
      refine (run_year_signed (c := '+') (.inr rfl) (hdigits _) hne hrest).trans ?_
      rw [Decimal.value_padded, if_neg (by decide), show (y.natAbs : Int) = y by omega]

/-! ## Days and times -/

theorem run_of {a : α} (x : Option α) (h : x = some a) (cs : List Char) :
    (of x : Reading α) cs = some (a, cs) := by
  rw [h]
  rfl

theorem stops_cons {c : Char} (h : c.isDigit = false) : Stops (c :: rest) := by
  intro d hd
  cases hd
  exact h

theorem daysInMonth_le (year : Int) (month : Nat) : daysInMonth year month ≤ 31 := by
  unfold daysInMonth
  split
  · split <;> decide
  · split <;> decide

theorem run_date (d : Date) (hrest : Stops rest) :
    date ((yearText d.year).toList ++ '-' :: ((Decimal.padded 2 d.month).toList ++ '-' ::
      ((Decimal.padded 2 d.day).toList ++ rest))) = some (d, rest) := by
  obtain ⟨-, -, -, hmonth, -, hday⟩ := d.isDate
  have hbound := daysInMonth_le d.year d.month
  unfold date
  rw [run_bind (run_year d.year (stops_cons (by decide))), run_bind (run_separator (by decide)),
    run_bind (run_twoDigits (by omega) (stops_cons (by decide))),
    run_bind (run_separator (by decide)), run_bind (run_twoDigits (by omega) hrest)]
  exact run_of _ (dif_pos d.isDate) rest

theorem fraction_digits (width : Nat) (hpos : 0 < width) (hwidth : width ≤ 9)
    (h : n < Decimal.tenTo width) (hrest : Stops rest) :
    fraction ('.' :: ((Decimal.padded width n).toList ++ rest)) =
      some (n * Decimal.tenTo (9 - width), rest) := by
  have hdigits : ∀ c ∈ (Decimal.padded width n).toList, c.isDigit = true :=
    fun c hc => Decimal.isDigit_of_mem_padded hc
  have hlength := Decimal.length_padded hpos h
  have htake : (Decimal.padded width n).toList.take 9 = (Decimal.padded width n).toList :=
    List.take_of_length_le (by omega)
  unfold fraction
  simp only [takeWhile_digits hdigits hrest, htake]
  rw [if_neg (by simpa using Decimal.padded_ne_nil (n := n) hpos), List.drop_left, hlength,
    Decimal.value_padded]

theorem run_fraction (h : n < 1000000000) (hrest : Stops rest) (hdot : ∀ c ∈ rest.head?, c ≠ '.') :
    fraction ((Timestamp.fraction n).toList ++ rest) = some (n, rest) := by
  unfold Timestamp.fraction
  by_cases h0 : n = 0
  · rw [if_pos h0, h0]
    unfold fraction
    split
    next cs hcs => exact absurd rfl (hdot '.' (by rw [show rest = '.' :: cs from hcs]; rfl))
    next => rfl
  · rw [if_neg h0]
    by_cases h3 : n % 1000000 = 0
    · rw [if_pos h3, String.toList_append]
      have hbound : n / 1000000 < 1000 := by omega
      refine (fraction_digits 3 (by decide) (by decide) hbound hrest).trans ?_
      rw [show n / 1000000 * Decimal.tenTo (9 - 3) = n by
        show n / 1000000 * 1000000 = n
        omega]
    · rw [if_neg h3]
      by_cases h6 : n % 1000 = 0
      · rw [if_pos h6, String.toList_append]
        have hbound : n / 1000 < 1000000 := by omega
        refine (fraction_digits 6 (by decide) (by decide) hbound hrest).trans ?_
        rw [show n / 1000 * Decimal.tenTo (9 - 6) = n by
          show n / 1000 * 1000 = n
          omega]
      · rw [if_neg h6, String.toList_append]
        refine (fraction_digits 9 (by decide) (by decide) h hrest).trans ?_
        rw [show n * Decimal.tenTo (9 - 9) = n from Nat.mul_one n]

theorem stops_fraction (n : Nat) (hrest : Stops rest) :
    Stops ((Timestamp.fraction n).toList ++ rest) := by
  unfold Timestamp.fraction
  by_cases h0 : n = 0
  · rw [if_pos h0]
    exact hrest
  · rw [if_neg h0]
    have hdot : ∀ s : String, Stops (("." ++ s).toList ++ rest) := by
      intro s
      rw [String.toList_append]
      exact stops_cons (by decide)
    split
    · exact hdot _
    · split
      · exact hdot _
      · exact hdot _

theorem run_time (t : TimeOfDay) (hrest : Stops rest) (hdot : ∀ c ∈ rest.head?, c ≠ '.') :
    time ((Decimal.padded 2 t.hour).toList ++ ':' :: ((Decimal.padded 2 t.minute).toList ++ ':' ::
      ((Decimal.padded 2 t.second).toList ++ ((Timestamp.fraction t.nanosecond).toList ++ rest)))) =
        some (t, rest) := by
  obtain ⟨hhour, hminute, hsecond, hnanosecond⟩ := t.isTime
  unfold time
  rw [run_bind (run_twoDigits (by omega) (stops_cons (by decide))),
    run_bind (run_separator (by decide)),
    run_bind (run_twoDigits (by omega) (stops_cons (by decide))),
    run_bind (run_separator (by decide)),
    run_bind (run_twoDigits (by omega) (stops_fraction _ hrest)),
    run_bind (run_fraction hnanosecond hrest hdot)]
  exact run_of _ (dif_pos t.isTime) rest

/-! ## Instants -/

theorem ofLocal?_utc (t : Timestamp) : ofLocal? t.date t.time 0 = some t := by
  obtain ⟨hhour, hminute, -, -⟩ := t.time.isTime
  have hminutes : ((60 * t.time.hour + t.time.minute - 0 : Int).emod 1440).toNat =
      60 * t.time.hour + t.time.minute := by
    show ((60 * t.time.hour + t.time.minute - 0 : Int) % 1440).toNat = _
    omega
  unfold ofLocal?
  simp only [hminutes]
  rw [if_neg (by omega), if_pos (by omega)]
  rw [show (60 * t.time.hour + t.time.minute) / 60 = t.time.hour by omega,
    show (60 * t.time.hour + t.time.minute) % 60 = t.time.minute by omega]
  show (TimeOfDay.ofFields? t.time.hour t.time.minute t.time.second t.time.nanosecond).bind _ = _
  unfold TimeOfDay.ofFields?
  rw [dif_pos t.time.isTime]
  rfl

theorem toList_render (t : Timestamp) :
    t.render.toList = (yearText t.date.year).toList ++
      '-' :: ((Decimal.padded 2 t.date.month).toList ++ '-' ::
      ((Decimal.padded 2 t.date.day).toList ++
        'T' :: ((Decimal.padded 2 t.time.hour).toList ++ ':' ::
        ((Decimal.padded 2 t.time.minute).toList ++
          ':' :: ((Decimal.padded 2 t.time.second).toList ++
          ((Timestamp.fraction t.time.nanosecond).toList ++ ['Z'])))))) := by
  unfold Timestamp.render
  simp [String.toList_append, toString]

end MeshScenes.Timestamp.Reader

namespace MeshScenes.Timestamp

open Reader in
theorem parse?_render (t : Timestamp) : parse? t.render = some t := by
  have hz : Stops ['Z'] := stops_cons (by decide)
  unfold parse? Reading.all?
  have hrun : instant t.render.toList = some (t, []) := by
    have hdot : ∀ c ∈ ['Z'].head?, c ≠ '.' := by
      intro c hc
      cases hc
      decide
    rw [toList_render]
    unfold instant
    rw [run_bind (run_date t.date (stops_cons (by decide))), run_bind (a := ()) rfl,
      run_bind (run_time t.time hz hdot), run_bind (run_blanks (by decide)), run_bind (a := 0) rfl,
      run_bind (a := ()) rfl]
    exact run_of _ (ofLocal?_utc t) []
  rw [hrun]

example : parse? "2024-02-29T23:59:60.5Z" =
    some ⟨⟨2024, 2, 29, by decide⟩, ⟨23, 59, 60, 500000000, by decide⟩⟩ := by decide +kernel

end MeshScenes.Timestamp
