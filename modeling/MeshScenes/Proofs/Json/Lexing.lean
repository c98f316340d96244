import Mathlib.Data.Nat.Digits.Lemmas
import MeshScenes.Json.Printer
import MeshScenes.Json.Token

/-!
# The tokens of printed values

The lexer gets from a printed value the tokens of that value, in either layout. A number has no end
of its own, so a value is read together with what stands behind it: a mark or a blank, or nothing.
-/

namespace MeshScenes.Json

open JsonValue

/-! ## What is printed -/

def nameToken : Option String → Token
  | some s => .scalar (.text s)
  | none => .scalar .damagedText

mutual

def tokensOf : JsonValue → List Token
  | .array [] => [.openArray, .closeArray]
  | .array (v :: vs) => .openArray :: (tokensOf v ++ (itemTokens vs ++ [.closeArray]))
  | .object [] => [.openObject, .closeObject]
  | .object (f :: fs) =>
    .openObject :: nameToken f.1 :: .colon :: (tokensOf f.2 ++ (fieldTokens fs ++ [.closeObject]))
  | v => [.scalar v]

def itemTokens : List JsonValue → List Token
  | [] => []
  | v :: vs => .comma :: (tokensOf v ++ itemTokens vs)

def fieldTokens : List (Option String × JsonValue) → List Token
  | [] => []
  | f :: fs => .comma :: nameToken f.1 :: .colon :: (tokensOf f.2 ++ fieldTokens fs)

end

def isPrintedBlank (c : Char) : Bool := c = ' ' || c = '\n'

/-- A layout that sets its items apart with nothing but blanks. -/
structure Lays (style : Style) : Prop where
  beforeItem : ∀ depth, ∀ c ∈ style.beforeItem depth, isPrintedBlank c = true
  beforeEnd : ∀ depth, ∀ c ∈ style.beforeEnd depth, isPrintedBlank c = true
  colon : ∃ blanks, style.colon = ':' :: blanks ∧ ∀ c ∈ blanks, isPrintedBlank c = true

theorem lays_compact : Lays .compact := by
  refine ⟨fun _ c hc => ?_, fun _ c hc => ?_, [], rfl, fun c hc => ?_⟩ <;> cases hc

theorem lays_pretty : Lays .pretty := by
  have hline : ∀ n, ∀ c ∈ '\n' :: List.replicate n ' ', isPrintedBlank c = true := by
    intro n c hc
    rcases List.mem_cons.mp hc with rfl | hc
    · rfl
    · rw [List.eq_of_mem_replicate hc]
      rfl
  refine ⟨fun _ => hline _, fun _ => hline _, [' '], rfl, fun c hc => ?_⟩
  rw [List.mem_singleton.mp hc]
  rfl

/-! ## One token after another -/

/-- The characters that can stand behind a printed value. -/
def delimiters : List Char := [',', ':', ']', '\x7d', ' ', '\n']

/-- Nothing stands here that a number would go on with. -/
def Stops (rest : List Utf8.Spot) : Prop := ∀ spot ∈ rest.head?, ∃ c ∈ delimiters, spot = some c

def Delimited (cs : List Char) : Prop := ∀ c ∈ cs.head?, c ∈ delimiters

theorem Delimited.stops {cs : List Char} {rest : List Utf8.Spot} (h : Delimited cs)
    (hrest : Stops rest) :
    Stops (cs.map some ++ rest) := by
  cases cs with
  | nil => exact hrest
  | cons c cs =>
    intro spot hspot
    cases hspot
    exact ⟨c, h c rfl, rfl⟩

/-- The lexer gets these tokens from the characters, whatever comes behind them that stops a
number. -/
def Lexes (cs : List Char) (ts : List Token) : Prop :=
  ∀ rest, Stops rest → tokensFrom .outside (cs.map some ++ rest) =
    (tokensFrom .outside rest).map (ts ++ ·)

variable {c : Char} {cs ds bs : List Char} {t : Token} {ts us : List Token} {rest : List Utf8.Spot}

theorem lexes_nil : Lexes [] [] := by
  intro rest _
  show tokensFrom .outside rest = (tokensFrom .outside rest).map id
  rw [Option.map_id, id]

theorem Lexes.append (h : Lexes cs ts) (h' : Lexes ds us) (hds : Delimited ds) :
    Lexes (cs ++ ds) (ts ++ us) := by
  intro rest hrest
  rw [List.map_append, List.append_assoc, h _ (hds.stops hrest), h' rest hrest, Option.map_map]
  congr 1
  funext more
  exact (List.append_assoc ts us more).symm

theorem tokensFrom_cons {mode mode' : Mode} {spot : Utf8.Spot}
    (h : mode.step spot = some (ts, mode')) :
    tokensFrom mode (spot :: rest) = (tokensFrom mode' rest).map (ts ++ ·) := by
  show (mode.step spot).bind _ = _
  rw [h]
  show (tokensFrom mode' rest).bind _ = _
  cases tokensFrom mode' rest <;> rfl

theorem tokensFrom_cons_nil {mode mode' : Mode} {spot : Utf8.Spot}
    (h : mode.step spot = some ([], mode')) :
    tokensFrom mode (spot :: rest) = tokensFrom mode' rest := by
  rw [tokensFrom_cons h]
  show (tokensFrom mode' rest).map id = _
  rw [Option.map_id, id]

theorem tokensFrom_enter {mode : Mode} (h : Mode.enter c = some (ts, mode)) :
    tokensFrom .outside (some c :: rest) = (tokensFrom mode rest).map (ts ++ ·) :=
  have hstep : Mode.outside.step (some c) = some (ts, mode) := h
  tokensFrom_cons hstep

theorem tokensFrom_enter_nil {mode : Mode} (h : Mode.enter c = some ([], mode)) :
    tokensFrom .outside (some c :: rest) = tokensFrom mode rest :=
  have hstep : Mode.outside.step (some c) = some ([], mode) := h
  tokensFrom_cons_nil hstep

theorem Lexes.mark (h : Lexes cs ts) (hc : Mode.enter c = some ([t], .outside)) :
    Lexes (c :: cs) (t :: ts) := by
  intro rest hrest
  rw [List.map_cons, List.cons_append, tokensFrom_enter hc, h rest hrest, Option.map_map]
  rfl

theorem Lexes.blanks (h : Lexes cs ts) (hbs : ∀ c ∈ bs, isPrintedBlank c = true) :
    Lexes (bs ++ cs) ts := by
  intro rest hrest
  induction bs with
  | nil => exact h rest hrest
  | cons b bs ih =>
    have hb : Mode.enter b = some ([], .outside) := by
      have hblank := hbs b List.mem_cons_self
      unfold isPrintedBlank at hblank
      simp only [Bool.or_eq_true, decide_eq_true_eq] at hblank
      rcases hblank with rfl | rfl <;> rfl
    rw [List.cons_append, List.map_cons, List.cons_append, tokensFrom_enter_nil hb]
    exact ih fun c hc => hbs c (List.mem_cons_of_mem _ hc)

theorem delimited_blanks (hds : Delimited ds) (hbs : ∀ c ∈ bs, isPrintedBlank c = true) :
    Delimited (bs ++ ds) := by
  cases bs with
  | nil => exact hds
  | cons b bs =>
    intro c hc
    cases hc
    have hblank := hbs b List.mem_cons_self
    unfold isPrintedBlank at hblank
    simp only [Bool.or_eq_true, decide_eq_true_eq] at hblank
    rcases hblank with rfl | rfl <;> decide

theorem delimited_nil : Delimited [] := fun c hc => by cases hc

theorem delimited_cons (hc : c ∈ delimiters) : Delimited (c :: cs) := by
  intro d hd
  cases hd
  exact hc

/-! ## Numbers -/

theorem next?_of_mem_delimiters (part : NumberPart) (hc : c ∈ delimiters) :
    part.next? c = none := by
  unfold delimiters at hc
  simp only [List.mem_cons, List.not_mem_nil, or_false] at hc
  rcases hc with rfl | rfl | rfl | rfl | rfl | rfl <;> cases part <;> rfl

theorem tokensFrom_number {part : NumberPart} {v : JsonValue} (hv : part.value? = some v)
    (hrest : Stops rest) :
    tokensFrom (.number part) rest = (tokensFrom .outside rest).map ([.scalar v] ++ ·) := by
  cases rest with
  | nil =>
    show part.value?.map _ = _
    rw [hv]
    rfl
  | cons spot rest =>
    obtain ⟨c, hc, rfl⟩ := hrest spot rfl
    have hstep : (Mode.number part).step (some c) =
        (Mode.enter c).map fun r => (.scalar v :: r.1, r.2) := by
      unfold Mode.step
      simp only [next?_of_mem_delimiters part hc, hv]
      cases Mode.enter c <;> rfl
    cases henter : Mode.enter c with
    | none =>
      rw [henter] at hstep
      show ((Mode.number part).step (some c)).bind _ = (((Mode.enter c).bind _).map _)
      rw [hstep, henter]
      rfl
    | some r =>
      rw [henter] at hstep
      obtain ⟨ts, mode⟩ := r
      rw [tokensFrom_cons hstep, tokensFrom_enter henter, Option.map_map]
      rfl

theorem enter_digit (hc : c.isDigit = true) (h0 : c ≠ '0') :
    Mode.enter c = some ([], .number (.digits false (c.toNat - '0'.toNat))) := by
  have hne : ∀ d : Char, d.isDigit = false → c ≠ d := by
    rintro d hd rfl
    rw [hd] at hc
    cases hc
  unfold Mode.enter
  simp only [hne ' ' rfl, hne '\t' rfl, hne '\n' rfl, hne '\r' rfl, hne '[' rfl, hne ']' rfl,
    hne '\x7b' rfl, hne '\x7d' rfl, hne ',' rfl, hne ':' rfl, hne '"' rfl, hne 't' rfl, hne 'f' rfl,
    hne 'n' rfl, hne '-' rfl, h0, hc, or_self, if_false, if_true]

theorem tokensFrom_toDigits {n : Nat} (hn : 0 < n) (rest : List Utf8.Spot) :
    tokensFrom .outside ((Nat.toDigits 10 n).map some ++ rest) =
      tokensFrom (.number (.digits false n)) rest := by
  induction n using Nat.strongRecOn generalizing rest with
  | ind n ih =>
    by_cases hsmall : n < 10
    · have hdigit : (Nat.digitChar n).isDigit = true := by simp [Nat.isDigit_digitChar, hsmall]
      have hvalue : (Nat.digitChar n).toNat - '0'.toNat = n :=
        Nat.toNat_digitChar_sub_48_of_lt_ten hsmall
      have h0 : Nat.digitChar n ≠ '0' := by simp [Nat.ne_of_gt hn]
      rw [Nat.toDigits_of_lt_base hsmall]
      refine (tokensFrom_enter_nil (enter_digit hdigit h0)).trans ?_
      rw [hvalue]
      rfl
    · have hlast : n % 10 < 10 := Nat.mod_lt n (by decide)
      have hdigit : (Nat.digitChar (n % 10)).isDigit = true := by
        simp [Nat.isDigit_digitChar, hlast]
      have hvalue : (Nat.digitChar (n % 10)).toNat - '0'.toNat = n % 10 :=
        Nat.toNat_digitChar_sub_48_of_lt_ten hlast
      have hstep : (Mode.number (.digits false (n / 10))).step (some (Nat.digitChar (n % 10))) =
          some ([], .number (.digits false n)) := by
        unfold Mode.step NumberPart.next?
        simp only [hdigit, if_true, hvalue, Nat.div_add_mod]
      rw [Nat.toDigits_of_base_le (by decide) (by omega), List.map_append, List.append_assoc,
        ih (n / 10) (by omega) (by omega)]
      exact tokensFrom_cons_nil hstep

theorem lexes_natural (n : Nat) : Lexes (Nat.toDigits 10 n) [.scalar (.natural n)] := by
  intro rest hrest
  by_cases hn : 0 < n
  · rw [tokensFrom_toDigits hn]
    exact tokensFrom_number rfl hrest
  · obtain rfl : n = 0 := by omega
    have henter : Mode.enter '0' = some ([], .number (.zero false)) := rfl
    refine (tokensFrom_enter_nil henter).trans ?_
    exact tokensFrom_number rfl hrest

/-! ## Texts -/

variable {pieces : List Piece}

theorem tokensFrom_short {d : Char} {p : Piece} (hd : Piece.ofEscape? d = some p) (hu : d ≠ 'u') :
    tokensFrom (.quoted pieces) (some '\\' :: some d :: rest) =
      tokensFrom (.quoted (p :: pieces)) rest := by
  have hopen : (Mode.quoted pieces).step (some '\\') = some ([], .escape pieces) := rfl
  have hletter : (Mode.escape pieces).step (some d) = some ([], .quoted (p :: pieces)) := by
    show (if d = 'u' then _
      else (Piece.ofEscape? d).map fun p => ([], Mode.quoted (p :: pieces))) = _
    rw [if_neg hu, hd]
    rfl
  rw [tokensFrom_cons_nil hopen, tokensFrom_cons_nil hletter]

theorem hexValue?_hexDigit {d : Nat} (h : d < 16) : hexValue? (hexDigit d) = some d := by
  have hall : ∀ d < 16, hexValue? (hexDigit d) = some d := by decide
  exact hall d h

theorem step_code {value d n : Nat} (hc : hexValue? c = some d) :
    (Mode.code pieces value (n + 1)).step (some c) =
      some ([], .code pieces (16 * value + d) n) := by
  show (hexValue? c).bind _ = _
  rw [hc]
  rfl

theorem step_code_last {value d : Nat} (hc : hexValue? c = some d) :
    (Mode.code pieces value 0).step (some c) =
      some ([], .quoted (.ofUnit (16 * value + d) :: pieces)) := by
  show (hexValue? c).bind _ = _
  rw [hc]
  rfl

theorem tokensFrom_code {a b e f : Nat} (ha : a < 16) (hb : b < 16) (he : e < 16) (hf : f < 16) :
    tokensFrom (.quoted pieces) (some '\\' :: some 'u' :: some (hexDigit a) :: some (hexDigit b) ::
      some (hexDigit e) :: some (hexDigit f) :: rest) =
      tokensFrom (.quoted (.ofUnit (16 * (16 * (16 * a + b) + e) + f) :: pieces)) rest := by
  have hopen : (Mode.quoted pieces).step (some '\\') = some ([], .escape pieces) := rfl
  have hletter : (Mode.escape pieces).step (some 'u') = some ([], .code pieces 0 3) := rfl
  rw [tokensFrom_cons_nil hopen, tokensFrom_cons_nil hletter,
    tokensFrom_cons_nil (step_code (hexValue?_hexDigit ha)),
    tokensFrom_cons_nil (step_code (hexValue?_hexDigit hb)),
    tokensFrom_cons_nil (step_code (hexValue?_hexDigit he)),
    tokensFrom_cons_nil (step_code_last (hexValue?_hexDigit hf)), Nat.mul_zero, Nat.zero_add]

theorem tokensFrom_plain (hquote : c ≠ '"') (hslash : c ≠ '\\') (hc : 32 ≤ c.toNat) :
    tokensFrom (.quoted pieces) (some c :: rest) =
      tokensFrom (.quoted (.char c :: pieces)) rest := by
  have hstep : (Mode.quoted pieces).step (some c) = some ([], .quoted (.char c :: pieces)) := by
    show (if c = '"' then _ else if c = '\\' then _ else if c.toNat < 32 then _ else _) = _
    rw [if_neg hquote, if_neg hslash, if_neg (by omega)]
  exact tokensFrom_cons_nil hstep

theorem tokensFrom_shortCode {n : Nat} {d : Char} (hc : c.toNat = n)
    (hd : Piece.ofEscape? d = some (.char (Char.ofNat n))) (hu : d ≠ 'u') :
    tokensFrom (.quoted pieces) (some '\\' :: some d :: rest) =
      tokensFrom (.quoted (.char c :: pieces)) rest := by
  rw [← hc, c.ofNat_toNat] at hd
  exact tokensFrom_short hd hu

theorem tokensFrom_escape (c : Char) :
    tokensFrom (.quoted pieces) ((escape c).map some ++ rest) =
      tokensFrom (.quoted (.char c :: pieces)) rest := by
  unfold escape
  -- the cases of `escape`, in its order
  by_cases hquote : c = '"'
  · rw [if_pos hquote, hquote]
    exact tokensFrom_short rfl (by decide)
  rw [if_neg hquote]
  by_cases hslash : c = '\\'
  · rw [if_pos hslash, hslash]
    exact tokensFrom_short rfl (by decide)
  rw [if_neg hslash]
  by_cases h8 : c.toNat = 8
  · rw [if_pos h8]
    exact tokensFrom_shortCode h8 rfl (by decide)
  rw [if_neg h8]
  by_cases h9 : c.toNat = 9
  · rw [if_pos h9]
    exact tokensFrom_shortCode h9 rfl (by decide)
  rw [if_neg h9]
  by_cases h10 : c.toNat = 10
  · rw [if_pos h10]
    exact tokensFrom_shortCode h10 rfl (by decide)
  rw [if_neg h10]
  by_cases h12 : c.toNat = 12
  · rw [if_pos h12]
    exact tokensFrom_shortCode h12 rfl (by decide)
  rw [if_neg h12]
  by_cases h13 : c.toNat = 13
  · rw [if_pos h13]
    exact tokensFrom_shortCode h13 rfl (by decide)
  rw [if_neg h13]
  by_cases hcontrol : c.toNat < 32
  · have hunit : Piece.ofUnit (16 * (16 * (16 * 0 + 0) + c.toNat / 16) + c.toNat % 16) =
        .char c := by
      unfold Piece.ofUnit
      rw [if_neg (by omega), show 16 * (16 * (16 * 0 + 0) + c.toNat / 16) + c.toNat % 16 =
        c.toNat by omega, c.ofNat_toNat]
    have hcode := @tokensFrom_code rest pieces 0 0 (c.toNat / 16) (c.toNat % 16) (by decide)
        (by decide) (by omega) (by omega)
    rw [hunit] at hcode
    rw [if_pos hcontrol]
    exact hcode
  · rw [if_neg hcontrol]
    exact tokensFrom_plain hquote hslash (by omega)

theorem tokensFrom_escapes (cs : List Char) :
    tokensFrom (.quoted pieces) ((cs.flatMap escape).map some ++ rest) =
      tokensFrom (.quoted ((cs.map .char).reverse ++ pieces)) rest := by
  induction cs generalizing pieces with
  | nil => rfl
  | cons c cs ih =>
    rw [List.flatMap_cons, List.map_append, List.append_assoc, tokensFrom_escape, ih, List.map_cons,
      List.reverse_cons, List.append_assoc]
    rfl

theorem assemble_chars (cs : List Char) : assemble (cs.map .char) = some cs := by
  induction cs with
  | nil => rfl
  | cons c cs ih =>
    rw [List.map_cons, assemble, ih]
    rfl

theorem lexes_quote (s : String) : Lexes (quote s) [.scalar (.text s)] := by
  intro rest _
  have hopen : Mode.enter '"' = some ([], .quoted []) := rfl
  have hclose : (Mode.quoted ((s.toList.map .char).reverse ++ [])).step (some '"') =
      some ([.scalar (.text s)], .outside) := by
    show some ([closeQuote _], Mode.outside) = _
    unfold closeQuote
    rw [List.append_nil, List.reverse_reverse, assemble_chars]
    simp only [String.ofList_toList]
  unfold quote
  rw [List.map_append, List.map_cons, List.append_assoc, List.cons_append,
    tokensFrom_enter_nil hopen, tokensFrom_escapes]
  exact tokensFrom_cons hclose

theorem lexes_damagedQuote : Lexes damagedQuote [.scalar .damagedText] := by
  intro rest _
  have hopen : Mode.enter '"' = some ([], .quoted []) := rfl
  have hclose : (Mode.quoted [.ofUnit (16 * (16 * (16 * 13 + 8) + 0) + 0)]).step (some '"') =
      some ([.scalar .damagedText], .outside) := rfl
  refine (tokensFrom_enter_nil hopen).trans ?_
  refine (tokensFrom_code (a := 13) (b := 8) (e := 0) (f := 0)
    (by decide) (by decide) (by decide) (by decide)).trans ?_
  exact tokensFrom_cons hclose

theorem lexes_quoteName (name : Option String) : Lexes (quoteName name) [nameToken name] := by
  cases name with
  | none => exact lexes_damagedQuote
  | some s => exact lexes_quote s

/-! ## Values -/

theorem tokensFrom_word {v : JsonValue} (c : Char) (cs : List Char) :
    tokensFrom (.word (c :: cs) v) ((c :: cs).map some ++ rest) =
      (tokensFrom .outside rest).map ([.scalar v] ++ ·) := by
  induction cs generalizing c with
  | nil =>
    have hstep : (Mode.word [c] v).step (some c) = some ([.scalar v], .outside) := if_pos rfl
    exact tokensFrom_cons hstep
  | cons d ds ih =>
    have hstep : (Mode.word (c :: d :: ds) v).step (some c) = some ([], .word (d :: ds) v) :=
      if_pos rfl
    exact (tokensFrom_cons_nil hstep).trans (ih d)

theorem lexes_word {v : JsonValue} {d : Char} (hc : Mode.enter c = some ([], .word (d :: cs) v)) :
    Lexes (c :: d :: cs) [.scalar v] :=
  fun _ _ => (tokensFrom_enter_nil hc).trans (tokensFrom_word d cs)

theorem lexes_otherNumber : Lexes "-0".toList [.scalar .otherNumber] := by
  intro rest hrest
  have hsign : Mode.enter '-' = some ([], .number .sign) := rfl
  have hzero : (Mode.number .sign).step (some '0') = some ([], .number (.zero true)) := rfl
  refine (tokensFrom_enter_nil hsign).trans ((tokensFrom_cons_nil hzero).trans ?_)
  exact tokensFrom_number rfl hrest

theorem delimited_printItems (style : Style) (depth : Nat) (vs : List JsonValue)
    (hds : Delimited ds) :
    Delimited (printItems style depth vs ++ ds) := by
  cases vs with
  | nil => exact hds
  | cons v vs => exact delimited_cons (by decide)

theorem delimited_printFields (style : Style) (depth : Nat) (fs : List (Option String × JsonValue))
    (hds : Delimited ds) :
    Delimited (printFields style depth fs ++ ds) := by
  cases fs with
  | nil => exact hds
  | cons f fs => exact delimited_cons (by decide)

section
variable {style : Style} (hstyle : Lays style)
include hstyle

theorem Lexes.colon (h : Lexes cs ts) : Lexes (style.colon ++ cs) (.colon :: ts) := by
  obtain ⟨blanks, hcolon, hblanks⟩ := hstyle.colon
  rw [hcolon]
  exact (h.blanks hblanks).mark rfl

theorem delimited_colon : Delimited (style.colon ++ cs) := by
  obtain ⟨blanks, hcolon, -⟩ := hstyle.colon
  rw [hcolon]
  exact delimited_cons (by decide)

theorem Lexes.field (h : Lexes cs ts) (name : Option String) :
    Lexes (quoteName name ++ (style.colon ++ cs)) (nameToken name :: .colon :: ts) :=
  (lexes_quoteName name).append (h.colon hstyle) (delimited_colon hstyle)

mutual

theorem lexes_print : ∀ (v : JsonValue) (depth : Nat), Lexes (print style depth v) (tokensOf v)
  | .null, _ => lexes_word rfl
  | .bool true, _ => lexes_word rfl
  | .bool false, _ => lexes_word rfl
  | .natural n, _ => lexes_natural n
  | .otherNumber, _ => lexes_otherNumber
  | .text s, _ => lexes_quote s
  | .damagedText, _ => lexes_damagedQuote
  | .array [], _ => (lexes_nil.mark rfl).mark rfl
  | .array (v :: vs), depth => by
    have hend : Lexes (style.beforeEnd depth ++ [']']) [.closeArray] :=
      (lexes_nil.mark rfl).blanks (hstyle.beforeEnd depth)
    have hends : Delimited (style.beforeEnd depth ++ [']']) :=
      delimited_blanks (delimited_cons (by decide)) (hstyle.beforeEnd depth)
    have hitems := (lexes_printItems vs depth).append hend hends
    have hvalue :=
      (lexes_print v (depth + 1)).append hitems (delimited_printItems style depth vs hends)
    have hall := (hvalue.blanks (hstyle.beforeItem depth)).mark (c := '[') rfl
    unfold print tokensOf
    simpa only [List.cons_append, List.append_assoc] using hall
  | .object [], _ => (lexes_nil.mark rfl).mark rfl
  | .object ((name, v) :: fs), depth => by
    have hend : Lexes (style.beforeEnd depth ++ ['\x7d']) [.closeObject] :=
      (lexes_nil.mark rfl).blanks (hstyle.beforeEnd depth)
    have hends : Delimited (style.beforeEnd depth ++ ['\x7d']) :=
      delimited_blanks (delimited_cons (by decide)) (hstyle.beforeEnd depth)
    have hfields := (lexes_printFields fs depth).append hend hends
    have hvalue :=
      (lexes_print v (depth + 1)).append hfields (delimited_printFields style depth fs hends)
    have hall := ((hvalue.field hstyle name).blanks (hstyle.beforeItem depth)).mark
        (c := '\x7b') rfl
    unfold print tokensOf
    simpa only [List.cons_append, List.append_assoc] using hall

theorem lexes_printItems :
    ∀ (vs : List JsonValue) (depth : Nat), Lexes (printItems style depth vs) (itemTokens vs)
  | [], _ => lexes_nil
  | v :: vs, depth => by
    have hmore := lexes_printItems vs depth
    have hdelimited := delimited_printItems style depth vs delimited_nil
    rw [List.append_nil] at hdelimited
    have hvalue := (lexes_print v (depth + 1)).append hmore hdelimited
    have hall := (hvalue.blanks (hstyle.beforeItem depth)).mark (c := ',') rfl
    unfold printItems itemTokens
    simpa only [List.cons_append, List.append_assoc] using hall

theorem lexes_printFields : ∀ (fs : List (Option String × JsonValue)) (depth : Nat),
    Lexes (printFields style depth fs) (fieldTokens fs)
  | [], _ => lexes_nil
  | (name, v) :: fs, depth => by
    have hmore := lexes_printFields fs depth
    have hdelimited := delimited_printFields style depth fs delimited_nil
    rw [List.append_nil] at hdelimited
    have hvalue := (lexes_print v (depth + 1)).append hmore hdelimited
    have hall := ((hvalue.field hstyle name).blanks (hstyle.beforeItem depth)).mark (c := ',') rfl
    unfold printFields fieldTokens
    simpa only [List.cons_append, List.append_assoc] using hall

end

end

end MeshScenes.Json
