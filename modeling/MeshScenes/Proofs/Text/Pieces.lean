import Mathlib.Data.Nat.Find
import MeshScenes.Proofs.Text.Utf8

/-!
# The pieces of a byte string

A byte string falls into characters and maximal damaged parts in exactly one way (`Cut`). This is
said in terms of the encodings of characters alone. The reader finds these pieces: each spot is one
of them.
-/

namespace MeshScenes.Utf8

inductive Piece where
  | sound (c : Char)
  | damaged (bytes : List UInt8)
  deriving DecidableEq, Repr

namespace Piece

def bytes : Piece → List UInt8
  | sound c => String.utf8EncodeChar c
  | damaged bytes => bytes

def spot : Piece → Spot
  | sound c => some c
  | damaged _ => none

def shown : Piece → Char
  | sound c => c
  | damaged _ => '\uFFFD'

end Piece

/-- A damaged part and the bytes behind it: no character stands in front, and the part is the
longest that begins one, or a byte that begins none. -/
structure Maximal (part rest : List UInt8) : Prop where
  unreadable : ∀ c, ¬ String.utf8EncodeChar c <+: part ++ rest
  ne_nil : part ≠ []
  begins : part.length = 1 ∨ ∃ c, part <+: String.utf8EncodeChar c
  longest : ∀ more, more ≠ [] → more <+: rest → ∀ c, ¬ part ++ more <+: String.utf8EncodeChar c

inductive Cut : List UInt8 → List Piece → Prop where
  | nil : Cut [] []
  | sound (c : Char) {rest : List UInt8} {ps : List Piece} :
      Cut rest ps → Cut (String.utf8EncodeChar c ++ rest) (.sound c :: ps)
  | damaged {part rest : List UInt8} {ps : List Piece} :
      Maximal part rest → Cut rest ps → Cut (part ++ rest) (.damaged part :: ps)

theorem Cut.bytes {bs : List UInt8} {ps : List Piece} (h : Cut bs ps) :
    ps.flatMap Piece.bytes = bs := by
  induction h with
  | nil => rfl
  | sound c _ ih => rw [List.flatMap_cons, ih]; rfl
  | damaged _ _ ih => rw [List.flatMap_cons, ih]; rfl

theorem encode_eq_toByteArray (s : String) : encode s = s.toByteArray.data.toList := by
  rw [← String.utf8Encode_toList]
  exact List.toList_data_toByteArray.symm

/-! ## First bytes, all of them -/

/-- What a first byte can be. The ranges are those of the characters that it begins. -/
theorem start_cases (b : Nat) :
    (b < 0x80 ∧ start b = ([some (Char.ofNat b)], none)) ∨ start b = ([none], none) ∨
    (0xC2 ≤ b ∧ b < 0xE0 ∧ start b = ([], some ⟨b - 0xC0, 0x80, 0xBF, 0⟩)) ∨
    (0xE0 ≤ b ∧ b < 0xF0 ∧ ∃ low high, 0x80 ≤ low ∧ low ≤ high ∧ high ≤ 0xBF ∧
      (b = 0xE0 → 0xA0 ≤ low) ∧
      (b = 0xED → high ≤ 0x9F) ∧ start b = ([], some ⟨b - 0xE0, low, high, 1⟩)) ∨
    (0xF0 ≤ b ∧ b ≤ 0xF4 ∧ ∃ low high, 0x80 ≤ low ∧ low ≤ high ∧ high ≤ 0xBF ∧
      (b = 0xF0 → 0x90 ≤ low) ∧
      (b = 0xF4 → high ≤ 0x8F) ∧ start b = ([], some ⟨b - 0xF0, low, high, 2⟩)) := by
  -- the thresholds of `start`, in its order
  by_cases h1 : b < 0x80
  · exact .inl ⟨h1, if_pos h1⟩
  by_cases h2 : b < 0xC2
  · exact .inr (.inl (by unfold start; rw [if_neg h1, if_pos h2]))
  by_cases h3 : b < 0xE0
  · exact .inr (.inr (.inl ⟨by omega, h3, start_of_two (by omega) h3⟩))
  by_cases h4 : b < 0xF0
  · refine .inr (.inr (.inr (.inl ⟨by omega, h4, ?_⟩)))
    unfold start
    rw [if_neg h1, if_neg h2, if_neg h3]
    by_cases he0 : b = 0xE0
    · rw [if_pos he0, he0]
      exact ⟨0xA0, 0xBF, by omega, by omega, by omega, by omega, by omega, rfl⟩
    · rw [if_neg he0]
      by_cases hed : b = 0xED
      · rw [if_pos hed, hed]
        exact ⟨0x80, 0x9F, by omega, by omega, by omega, by omega, by omega, rfl⟩
      · rw [if_neg hed, if_pos h4]
        exact ⟨0x80, 0xBF, by omega, by omega, by omega, by omega, by omega, rfl⟩
  by_cases h5 : b ≤ 0xF4
  · refine .inr (.inr (.inr (.inr ⟨by omega, h5, ?_⟩)))
    unfold start
    rw [if_neg h1, if_neg h2, if_neg h3, if_neg (by omega), if_neg (by omega), if_neg h4]
    by_cases hf0 : b = 0xF0
    · rw [if_pos hf0, hf0]
      exact ⟨0x90, 0xBF, by omega, by omega, by omega, by omega, by omega, rfl⟩
    · rw [if_neg hf0]
      by_cases hf4 : b = 0xF4
      · rw [if_neg (by omega), if_pos hf4, hf4]
        exact ⟨0x80, 0x8F, by omega, by omega, by omega, by omega, by omega, rfl⟩
      · rw [if_pos (by omega)]
        exact ⟨0x80, 0xBF, by omega, by omega, by omega, by omega, by omega, rfl⟩
  · refine .inr (.inl ?_)
    unfold start
    rw [if_neg h1, if_neg h2, if_neg h3, if_neg (by omega), if_neg (by omega), if_neg h4,
      if_neg (by omega), if_neg (by omega), if_neg (by omega)]

theorem start_ne_nil (b : Nat) : (start b).1 ≠ [] ∨ (start b).2.isSome := by
  rcases start_cases b with ⟨-, h⟩ | h | ⟨-, -, h⟩ | ⟨-, -, _, _, -, -, -, -, -, h⟩ |
    ⟨-, -, _, _, -, -, -, -, -, h⟩ <;>
    simp [h]

/-! ## Reading one character -/

theorem read_out {c : Begun} {b : UInt8} (h : ¬ (c.low ≤ b.toNat ∧ b.toNat ≤ c.high))
    (bs : List UInt8) :
    read (some c) (b :: bs) = none :: read none (b :: bs) := by
  have hstep : step (some c) b.toNat = (none :: (start b.toNat).1, (start b.toNat).2) := if_neg h
  rw [read_cons, hstep, read_cons]
  rfl

theorem read_ne_nil {begun : Option Begun} {bs : List UInt8} (h : begun.isSome ∨ bs ≠ []) :
    read begun bs ≠ [] := by
  induction bs generalizing begun with
  | nil =>
    have hbegun : begun.isSome := h.resolve_right (absurd rfl)
    simp [read, hbegun]
  | cons b bs ih =>
    have hfirst : read none (b :: bs) ≠ [] := by
      intro hnil
      obtain ⟨hspots, hrest⟩ := List.append_eq_nil_iff.mp hnil
      exact ih (.inl ((start_ne_nil b.toNat).resolve_left (absurd hspots))) hrest
    cases begun with
    | none => exact hfirst
    | some c =>
      by_cases hrange : c.low ≤ b.toNat ∧ b.toNat ≤ c.high
      · obtain ⟨bits, low, high, after⟩ := c
        cases after with
        | zero => simp [read_last hrange.1 hrange.2]
        | succ n =>
          rw [read_more hrange.1 hrange.2]
          exact ih (.inl rfl)
      · simp [read_out hrange]

theorem read_eq_singleton_of_begun {bits low high after : Nat} {bs : List UInt8} {ch : Char}
    (h : read (some ⟨bits, low, high, after⟩) bs = [some ch]) :
    ∃ b rest, bs = b :: rest ∧ low ≤ b.toNat ∧ b.toNat ≤ high ∧
      (after = 0 → rest = [] ∧ ch = Char.ofNat (64 * bits + (b.toNat - 0x80))) ∧
      ∀ n, after = n + 1 → read (some ⟨64 * bits + (b.toNat - 0x80), 0x80, 0xBF, n⟩) rest =
        [some ch] := by
  cases bs with
  | nil => cases h
  | cons b rest =>
    by_cases hrange : low ≤ b.toNat ∧ b.toNat ≤ high
    · refine ⟨b, rest, rfl, hrange.1, hrange.2, ?_, ?_⟩
      · rintro rfl
        rw [read_last hrange.1 hrange.2] at h
        obtain ⟨hch, hrest⟩ := List.cons_eq_cons.mp h
        refine ⟨?_, (Option.some.inj hch).symm⟩
        exact Classical.not_not.mp fun hne => read_ne_nil (.inr hne) hrest
      · rintro n rfl
        rwa [read_more hrange.1 hrange.2] at h
    · rw [read_out hrange] at h
      cases h

theorem utf8EncodeChar_ofNat {v : Nat} (hvalid : v.isValidChar) :
    String.utf8EncodeChar (Char.ofNat v) =
      if v ≤ 127 then [UInt8.ofNat v]
      else if v ≤ 2047 then [UInt8.ofNat (v / 64 % 32 + 192), UInt8.ofNat (v % 64 + 128)]
      else if v ≤ 65535 then
        [UInt8.ofNat (v / 4096 % 16 + 224), UInt8.ofNat (v / 64 % 64 + 128),
          UInt8.ofNat (v % 64 + 128)]
      else
        [UInt8.ofNat (v / 262144 % 8 + 240), UInt8.ofNat (v / 4096 % 64 + 128),
          UInt8.ofNat (v / 64 % 64 + 128), UInt8.ofNat (v % 64 + 128)] := by
  have hv : (Char.ofNat v).val.toNat = v := by
    unfold Char.ofNat
    rw [dif_pos hvalid]
    rfl
  unfold String.utf8EncodeChar
  rw [hv]

theorem ofNat_eq (b : UInt8) {n : Nat} (h : n = b.toNat) : UInt8.ofNat n = b := by
  rw [h, UInt8.ofNat_toNat]

theorem eq_encode_of_read {bs : List UInt8} {ch : Char} (h : read none bs = [some ch]) :
    bs = String.utf8EncodeChar ch := by
  cases bs with
  | nil => cases h
  | cons b bs =>
    rcases start_cases b.toNat with ⟨hb, hstart⟩ | hstart | ⟨hb, hb', hstart⟩ |
      ⟨hb, hb', low, high, hlow, hlh, hhigh, hfirst, hlast, hstart⟩ |
      ⟨hb, hb', low, high, hlow, hlh, hhigh, hfirst, hlast, hstart⟩
    · rw [read_cons, show step none b.toNat = _ from hstart] at h
      obtain ⟨hch, hrest⟩ := List.cons_eq_cons.mp h
      have hnil : bs = [] := Classical.not_not.mp fun hne => read_ne_nil (.inr hne) hrest
      rw [hnil, ← Option.some.inj hch, utf8EncodeChar_ofNat (.inl (by omega)), if_pos (by omega),
        UInt8.ofNat_toNat]
    · rw [read_cons, show step none b.toNat = _ from hstart] at h
      cases h
    · rw [read_begin hstart] at h
      obtain ⟨x, rest, rfl, hx, hx', hend, -⟩ := read_eq_singleton_of_begun h
      obtain ⟨rfl, hch⟩ := hend rfl
      rw [hch, utf8EncodeChar_ofNat (.inl (by omega)), if_neg (by omega), if_pos (by omega),
        ofNat_eq b (by omega), ofNat_eq x (by omega)]
    · rw [read_begin hstart] at h
      obtain ⟨x, rest, rfl, hx, hx', -, hmore⟩ := read_eq_singleton_of_begun h
      obtain ⟨y, rest, rfl, hy, hy', hend, -⟩ := read_eq_singleton_of_begun (hmore 0 rfl)
      obtain ⟨rfl, hch⟩ := hend rfl
      rw [hch, utf8EncodeChar_ofNat (by unfold Nat.isValidChar; omega), if_neg (by omega),
        if_neg (by omega), if_pos (by omega), ofNat_eq b (by omega), ofNat_eq x (by omega),
        ofNat_eq y (by omega)]
    · rw [read_begin hstart] at h
      obtain ⟨x, rest, rfl, hx, hx', -, hmore⟩ := read_eq_singleton_of_begun h
      obtain ⟨y, rest, rfl, hy, hy', -, hmore⟩ := read_eq_singleton_of_begun (hmore 1 rfl)
      obtain ⟨z, rest, rfl, hz, hz', hend, -⟩ := read_eq_singleton_of_begun (hmore 0 rfl)
      obtain ⟨rfl, hch⟩ := hend rfl
      rw [hch, utf8EncodeChar_ofNat (.inr (by omega)), if_neg (by omega), if_neg (by omega),
        if_neg (by omega), ofNat_eq b (by omega), ofNat_eq x (by omega), ofNat_eq y (by omega),
        ofNat_eq z (by omega)]

theorem read_eq_singleton_iff {bs : List UInt8} {ch : Char} :
    read none bs = [some ch] ↔ bs = String.utf8EncodeChar ch := by
  constructor
  · exact eq_encode_of_read
  · rintro rfl
    have h := read_utf8EncodeChar [] ch
    rwa [List.append_nil] at h

/-! ## Reading a damaged part -/

theorem exists_read_begun {bits low high after : Nat} {b : UInt8} (hlow : low ≤ b.toNat)
    (hhigh : b.toNat ≤ high) :
    ∃ rest ch, read (some ⟨bits, low, high, after⟩) (b :: rest) = [some ch] := by
  induction after generalizing bits low high b with
  | zero => exact ⟨[], _, read_last hlow hhigh []⟩
  | succ n ih =>
    obtain ⟨rest, ch, hread⟩ :=
      @ih (64 * bits + (b.toNat - 0x80)) 0x80 0xBF 0x80 (by decide) (by decide)
    exact ⟨0x80 :: rest, ch, (read_more hlow hhigh _).trans hread⟩

/-- The bytes `p` left a character begun. Those of the part that follow are all taken, and then the
part ends without one. -/
theorem read_of_begun {p more rest : List UInt8} {c : Begun}
    (hp : ∀ tail, read none (p ++ tail) = read (some c) tail) (hne : p ≠ [])
    (h : Maximal (p ++ more) rest) : read (some c) (more ++ rest) = none :: read none rest := by
  induction more generalizing p c with
  | nil =>
    rw [List.append_nil] at h
    cases rest with
    | nil => rfl
    | cons b rest =>
      -- A byte in the range would have made the part longer.
      apply read_out
      rintro ⟨hlow, hhigh⟩
      obtain ⟨tail, ch, hread⟩ := @exists_read_begun c.bits _ _ c.after _ hlow hhigh
      refine h.longest [b] (by simp) ⟨rest, rfl⟩ ch ⟨tail, ?_⟩
      rw [List.append_assoc]
      exact eq_encode_of_read ((hp (b :: tail)).trans hread)
  | cons b more ih =>
    have hlong : ¬ (p ++ b :: more).length = 1 := by
      have := List.length_pos_iff.mpr hne
      rw [List.length_append, List.length_cons]
      omega
    obtain ⟨ch, tail, hch⟩ := h.begins.resolve_left hlong
    have hread : read (some c) (b :: (more ++ tail)) = [some ch] := by
      rw [← hp, read_eq_singleton_iff, ← hch, List.append_assoc]
      rfl
    obtain ⟨bits, low, high, after⟩ := c
    obtain ⟨b', rest', heq, hlow, hhigh, hend, -⟩ := read_eq_singleton_of_begun hread
    cases heq
    cases after with
    | zero =>
      -- The part would be the whole character.
      obtain ⟨hnil, -⟩ := List.append_eq_nil_iff.mp (hend rfl).1
      obtain ⟨-, htail⟩ := List.append_eq_nil_iff.mp (hend rfl).1
      refine absurd ?_ (h.unreadable ch)
      rw [← hch, htail, List.append_nil]
      exact ⟨rest, rfl⟩
    | succ n =>
      rw [List.cons_append, read_more hlow hhigh]
      refine ih (p := p ++ [b]) ?_ (by simp) (by rwa [List.append_assoc])
      intro tail
      rw [List.append_assoc, hp]
      exact read_more hlow hhigh tail

theorem Maximal.read {part rest : List UInt8} (h : Maximal part rest) :
    read none (part ++ rest) = none :: Utf8.read none rest := by
  cases part with
  | nil => exact absurd rfl h.ne_nil
  | cons b more =>
    have hstart : (∃ ch, start b.toNat = ([some ch], none)) ∨ start b.toNat = ([none], none) ∨
        ∃ c, start b.toNat = ([], some c) := by
      rcases start_cases b.toNat with ⟨-, h⟩ | h | ⟨-, -, h⟩ | ⟨-, -, _, _, -, -, -, -, -, h⟩ |
        ⟨-, -, _, _, -, -, -, -, -, h⟩
      · exact .inl ⟨_, h⟩
      · exact .inr (.inl h)
      all_goals exact .inr (.inr ⟨_, h⟩)
    rcases hstart with ⟨ch, hstart⟩ | hstart | ⟨c, hstart⟩
    · have hread : Utf8.read none [b] = [some ch] := by
        rw [read_cons, show step none b.toNat = _ from hstart]
        rfl
      refine absurd ?_ (h.unreadable ch)
      rw [← eq_encode_of_read hread]
      exact ⟨more ++ rest, rfl⟩
    · have hfirst : ∀ tail, Utf8.read none (b :: tail) = none :: Utf8.read none tail :=
        fun tail => by
        rw [read_cons, show step none b.toNat = _ from hstart]
        rfl
      cases more with
      | nil => exact hfirst rest
      | cons x more =>
        obtain ⟨ch, tail, hch⟩ := h.begins.resolve_left (by simp)
        have hread := read_eq_singleton_iff.mpr hch
        rw [List.cons_append, hfirst] at hread
        cases hread
    · rw [List.cons_append, read_begin hstart]
      exact read_of_begun (p := [b]) (read_begin hstart) (by simp) h

/-! ## One way to cut -/

theorem exists_maximal {bs : List UInt8} (hne : bs ≠ [])
    (hunreadable : ∀ c, ¬ String.utf8EncodeChar c <+: bs) :
    ∃ part rest, bs = part ++ rest ∧ Maximal part rest := by
  classical
  let Begins (n : Nat) : Prop := ∃ c, bs.take n <+: String.utf8EncodeChar c
  let n := Nat.findGreatest Begins bs.length
  have hlength := List.length_pos_iff.mpr hne
  refine ⟨bs.take (max 1 n), bs.drop (max 1 n), (List.take_append_drop _ bs).symm, ?_, ?_, ?_, ?_⟩
  · rwa [List.take_append_drop]
  · rw [← List.length_pos_iff, List.length_take]
    omega
  · by_cases hn : n ≤ 1
    · left
      rw [List.length_take]
      omega
    · right
      rw [max_eq_right (by omega)]
      exact Nat.findGreatest_of_ne_zero (m := n) (P := Begins) rfl (by omega)
  · rintro more hmore ⟨rest, hrest⟩ c hc
    have hpos := List.length_pos_iff.mpr hmore
    have hle : (max 1 n) + more.length ≤ bs.length := by
      have := congrArg List.length hrest
      rw [List.length_append, List.length_drop] at this
      omega
    refine Nat.findGreatest_is_greatest (P := Begins) (n := bs.length) (k := max 1 n + more.length)
      (by omega) hle ⟨c, ?_⟩
    rwa [List.take_add, ← hrest, List.take_left]

theorem encode_ne_nil (c : Char) : String.utf8EncodeChar c ≠ [] := by
  rw [← List.length_pos_iff, String.length_utf8EncodeChar]
  exact c.utf8Size_pos

theorem exists_cut (bs : List UInt8) : ∃ ps, Cut bs ps := by
  induction hn : bs.length using Nat.strong_induction_on generalizing bs with
  | h n ih =>
    have hshorter : ∀ {first rest : List UInt8}, first ≠ [] → bs = first ++ rest →
        rest.length < n := by
      rintro first rest hfirst rfl
      have := List.length_pos_iff.mpr hfirst
      rw [List.length_append] at hn
      omega
    by_cases hne : bs = []
    · exact ⟨[], hne ▸ .nil⟩
    by_cases hreadable : ∃ c, String.utf8EncodeChar c <+: bs
    · obtain ⟨c, rest, hbs⟩ := hreadable
      obtain ⟨ps, hps⟩ := ih _ (hshorter (encode_ne_nil c) hbs.symm) rest rfl
      rw [← hbs]
      exact ⟨_, .sound c hps⟩
    · obtain ⟨part, rest, hbs, hmaximal⟩ := exists_maximal hne (not_exists.mp hreadable)
      obtain ⟨ps, hps⟩ := ih _ (hshorter hmaximal.ne_nil hbs) rest rfl
      rw [hbs]
      exact ⟨_, .damaged hmaximal hps⟩

theorem encode_append_inj {c d : Char} {bs cs : List UInt8}
    (h : String.utf8EncodeChar c ++ bs = String.utf8EncodeChar d ++ cs) : c = d ∧ bs = cs := by
  have hread := read_utf8EncodeChar bs c
  rw [h, read_utf8EncodeChar cs d] at hread
  obtain rfl : d = c := Option.some.inj (List.cons_eq_cons.mp hread).1
  exact ⟨rfl, List.append_cancel_left h⟩

theorem Maximal.length_le {part rest part' rest' : List UInt8} (h : Maximal part rest)
    (h' : Maximal part' rest') (heq : part ++ rest = part' ++ rest') :
    part'.length ≤ part.length := by
  by_contra hlt
  obtain ⟨more, rfl⟩ : part <+: part' :=
    List.prefix_of_prefix_length_le ⟨rest, rfl⟩ (heq ▸ ⟨rest', rfl⟩) (by omega)
  rw [List.append_assoc] at heq
  have hrest : rest = more ++ rest' := List.append_cancel_left heq
  have hpart := List.length_pos_iff.mpr h.ne_nil
  have hmore : more ≠ [] := by
    rintro rfl
    simp at hlt
  have hlong : ¬ (part ++ more).length = 1 := by
    have := List.length_pos_iff.mpr hmore
    rw [List.length_append]
    omega
  obtain ⟨c, hc⟩ := h'.begins.resolve_left hlong
  exact h.longest more hmore ⟨rest', hrest.symm⟩ c hc

theorem Cut.unique {bs : List UInt8} {ps qs : List Piece} (h : Cut bs ps) (h' : Cut bs qs) :
    ps = qs := by
  induction h generalizing qs with
  | nil =>
    generalize hbs : ([] : List UInt8) = bs at h'
    cases h' with
    | nil => rfl
    | sound c _ => exact absurd (List.append_eq_nil_iff.mp hbs.symm).1 (encode_ne_nil c)
    | damaged hm _ => exact absurd (List.append_eq_nil_iff.mp hbs.symm).1 hm.ne_nil
  | @sound c rest ps _ ih =>
    generalize hbs : String.utf8EncodeChar c ++ rest = bs at h'
    cases h' with
    | nil => exact absurd (List.append_eq_nil_iff.mp hbs).1 (encode_ne_nil c)
    | sound d h' =>
      obtain ⟨rfl, rfl⟩ := encode_append_inj hbs
      rw [ih h']
    | damaged hm _ => exact absurd ⟨rest, hbs⟩ (hm.unreadable c)
  | @damaged part rest ps hm _ ih =>
    generalize hbs : part ++ rest = bs at h'
    cases h' with
    | nil => exact absurd (List.append_eq_nil_iff.mp hbs).1 hm.ne_nil
    | @sound d rest' _ _ => exact absurd ⟨rest', hbs.symm⟩ (hm.unreadable d)
    | damaged hm' h' =>
      obtain ⟨rfl, rfl⟩ :=
        List.append_inj hbs (Nat.le_antisymm (hm'.length_le hm hbs.symm) (hm.length_le hm' hbs))
      rw [ih h']

theorem Cut.spots {bs : List UInt8} {ps : List Piece} (h : Cut bs ps) :
    spots bs = ps.map Piece.spot := by
  induction h with
  | nil => rfl
  | sound c _ ih =>
    rw [List.map_cons, ← ih]
    exact read_utf8EncodeChar _ c
  | damaged hm _ ih =>
    rw [List.map_cons, ← ih]
    exact hm.read

theorem Cut.lossy {bs : List UInt8} {ps : List Piece} (h : Cut bs ps) :
    lossy bs = String.ofList (ps.map Piece.shown) := by
  unfold Utf8.lossy
  rw [h.spots, List.map_map]
  refine congrArg String.ofList (List.map_congr_left fun p _ => ?_)
  cases p <;> rfl

end MeshScenes.Utf8
