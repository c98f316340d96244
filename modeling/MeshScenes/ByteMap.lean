/-!
# Maps keyed by one byte

A map is the list of its entries in ascending order of key. The order is part of the type, so two
maps with the same look-ups are equal (`ext_get?`), and `toList` is the order in which the program
visits and reports its tables.
-/

namespace MeshScenes

/-- A key that one byte tells apart. -/
class ByteKey (κ : Type) where
  byte : κ → UInt8
  byte_inj : ∀ {a b : κ}, byte a = byte b → a = b

instance : ByteKey UInt8 := ⟨id, id⟩

/-- The place of a key in the order of keys. -/
def ByteKey.rank {κ : Type} [ByteKey κ] (k : κ) : Nat := (ByteKey.byte k).toNat

open ByteKey (rank)

theorem ByteKey.rank_inj {κ : Type} [ByteKey κ] {a b : κ} (h : rank a = rank b) : a = b :=
  ByteKey.byte_inj (UInt8.toNat_inj.mp h)

@[simp] theorem ByteKey.rank_eq_iff {κ : Type} [ByteKey κ] {a b : κ} : rank a = rank b ↔ a = b :=
  ⟨ByteKey.rank_inj, fun h => h ▸ rfl⟩

variable {κ α : Type} [ByteKey κ]

structure ByteMap (κ α : Type) [ByteKey κ] where
  toList : List (κ × α)
  ascending : toList.Pairwise fun a b => rank a.1 < rank b.1

namespace ByteMap

/-! ## Entry lists -/

/-- Puts an entry at its place, over an entry of the same key. -/
def place (k : κ) (v : α) : List (κ × α) → List (κ × α)
  | [] => [(k, v)]
  | e :: es =>
    if rank k < rank e.1 then (k, v) :: e :: es
    else if rank k = rank e.1 then (k, v) :: es
    else e :: place k v es

theorem mem_place {k : κ} {v : α} {e : κ × α} :
    ∀ {es : List (κ × α)}, es.Pairwise (fun a b => rank a.1 < rank b.1) →
      (e ∈ place k v es ↔ e = (k, v) ∨ e ∈ es ∧ e.1 ≠ k)
  | [], _ => by simp [place]
  | d :: es, h => by
    have ⟨hd, hs⟩ := List.pairwise_cons.mp h
    have ih := mem_place (k := k) (v := v) (e := e) hs
    have later : e ∈ es → rank d.1 < rank e.1 := hd e
    unfold place
    -- the new key stands in front of all others, in the place of the first one, or behind it
    split
    · have : ∀ x ∈ d :: es, x.1 ≠ k := fun x hx hk => by
        subst hk
        rcases List.mem_cons.mp hx with rfl | hx
        · omega
        · have := hd x hx; omega
      have := this e
      simp only [List.mem_cons] at this ⊢
      constructor
      · rintro (rfl | h' | h') <;> simp_all
      · rintro (rfl | ⟨h' | h', -⟩) <;> simp_all
    · split
      next _ heq =>
        have hk : k = d.1 := ByteKey.rank_inj heq
        constructor
        · intro h'
          rcases List.mem_cons.mp h' with rfl | h'
          · exact .inl rfl
          · refine .inr ⟨List.mem_cons_of_mem _ h', fun hk' => ?_⟩
            have := later h'
            rw [hk', hk] at this; omega
        · rintro (rfl | ⟨h', hne⟩)
          · exact List.mem_cons_self
          · rcases List.mem_cons.mp h' with rfl | h'
            · exact absurd hk.symm hne
            · exact List.mem_cons_of_mem _ h'
      next hlt hne =>
        have hk : d.1 ≠ k := fun h' => hne (h' ▸ rfl)
        rw [List.mem_cons, ih, List.mem_cons]
        constructor
        · rintro (rfl | rfl | ⟨h', hn⟩)
          · exact .inr ⟨.inl rfl, hk⟩
          · exact .inl rfl
          · exact .inr ⟨.inr h', hn⟩
        · rintro (rfl | ⟨rfl | h', hn⟩)
          · exact .inr (.inl rfl)
          · exact .inl rfl
          · exact .inr (.inr ⟨h', hn⟩)

theorem place_ascending {k : κ} {v : α} :
    ∀ {es : List (κ × α)}, es.Pairwise (fun a b => rank a.1 < rank b.1) →
      (place k v es).Pairwise fun a b => rank a.1 < rank b.1
  | [], _ => by simp [place]
  | d :: es, h => by
    have ⟨hd, hs⟩ := List.pairwise_cons.mp h
    unfold place
    split
    next hlt =>
      refine List.pairwise_cons.mpr ⟨fun x hx => ?_, h⟩
      rcases List.mem_cons.mp hx with rfl | hx
      · exact hlt
      · exact Nat.lt_trans hlt (hd x hx)
    · split
      next _ heq => exact List.pairwise_cons.mpr ⟨fun x hx => heq ▸ hd x hx, hs⟩
      next hlt hne =>
        refine List.pairwise_cons.mpr ⟨fun x hx => ?_, place_ascending hs⟩
        rcases (mem_place hs).mp hx with rfl | ⟨hx, -⟩
        · show rank d.1 < rank k
          omega
        · exact hd x hx

/-! ## Operations -/

def empty : ByteMap κ α := ⟨[], .nil⟩

instance : EmptyCollection (ByteMap κ α) := ⟨empty⟩
instance : Inhabited (ByteMap κ α) := ⟨empty⟩

def get? (m : ByteMap κ α) (k : κ) : Option α :=
  (m.toList.find? fun e => rank e.1 = rank k).map (·.2)

def contains (m : ByteMap κ α) (k : κ) : Bool := (m.get? k).isSome

def insert (m : ByteMap κ α) (k : κ) (v : α) : ByteMap κ α :=
  ⟨place k v m.toList, place_ascending m.ascending⟩

def erase (m : ByteMap κ α) (k : κ) : ByteMap κ α :=
  ⟨m.toList.filter fun e => rank e.1 ≠ rank k, m.ascending.filter _⟩

/-- Changes the value under a key that is present. -/
def modify (m : ByteMap κ α) (k : κ) (f : α → α) : ByteMap κ α where
  toList := m.toList.map fun e => if rank e.1 = rank k then (e.1, f e.2) else e
  ascending := by
    refine List.pairwise_map.mpr (m.ascending.imp fun {a b} h => ?_)
    split <;> split <;> exact h

def keys (m : ByteMap κ α) : List κ := m.toList.map (·.1)

def values (m : ByteMap κ α) : List α := m.toList.map (·.2)

def size (m : ByteMap κ α) : Nat := m.toList.length

def isEmpty (m : ByteMap κ α) : Bool := m.toList.isEmpty

/-- Later entries win over earlier ones of the same key. -/
def ofList (es : List (κ × α)) : ByteMap κ α := es.foldl (fun m e => m.insert e.1 e.2) empty

instance [DecidableEq κ] [DecidableEq α] : DecidableEq (ByteMap κ α) := fun a b =>
  decidable_of_iff (a.toList = b.toList)
    ⟨fun h => by cases a; cases b; cases h; rfl, fun h => h ▸ rfl⟩

/-! ## Look-ups -/

theorem get?_eq_some_iff {m : ByteMap κ α} {k : κ} {v : α} :
    m.get? k = some v ↔ (k, v) ∈ m.toList := by
  rcases m with ⟨es, h⟩
  simp only [get?]
  induction es with
  | nil => simp
  | cons d es ih =>
    have ⟨hd, hs⟩ := List.pairwise_cons.mp h
    by_cases hk : rank d.1 = rank k
    · have hk' : d.1 = k := ByteKey.rank_inj hk
      simp only [List.find?_cons, hk, decide_true, Option.map_some, Option.some.injEq,
        List.mem_cons]
      constructor
      · rintro rfl; exact .inl (by rw [← hk'])
      · rintro (rfl | h')
        · rfl
        · have := hd _ h'; simp only at this; omega
    · have : (k, v) ≠ d := fun h' => hk (by rw [← h'])
      simp only [List.find?_cons, hk, decide_false, List.mem_cons, this, false_or]
      exact ih hs

@[simp] theorem get?_empty (k : κ) : (empty : ByteMap κ α).get? k = none := rfl

theorem get?_insert [DecidableEq κ] (m : ByteMap κ α) (k j : κ) (v : α) :
    (m.insert k v).get? j = if j = k then some v else m.get? j := by
  apply Option.ext
  intro w
  rw [get?_eq_some_iff, insert, mem_place m.ascending]
  split
  next h => subst h; simp [Prod.ext_iff, eq_comm]
  next h => simp [Prod.ext_iff, h, get?_eq_some_iff]

theorem get?_erase [DecidableEq κ] (m : ByteMap κ α) (k j : κ) :
    (m.erase k).get? j = if j = k then none else m.get? j := by
  apply Option.ext
  intro w
  rw [get?_eq_some_iff]
  split <;> simp_all [erase, get?_eq_some_iff]

theorem get?_modify [DecidableEq κ] (m : ByteMap κ α) (k j : κ) (f : α → α) :
    (m.modify k f).get? j = if j = k then (m.get? k).map f else m.get? j := by
  apply Option.ext
  intro w
  rw [get?_eq_some_iff]
  simp only [modify, List.mem_map]
  constructor
  · rintro ⟨⟨i, u⟩, hmem, heq⟩
    by_cases hi : i = k
    · subst hi
      simp only [ite_true, Prod.mk.injEq] at heq
      obtain ⟨rfl, rfl⟩ := heq
      simp [get?_eq_some_iff.mpr hmem]
    · simp only [ByteKey.rank_eq_iff, hi, ite_false, Prod.mk.injEq] at heq
      obtain ⟨rfl, rfl⟩ := heq
      simp [hi, get?_eq_some_iff.mpr hmem]
  · split
    next h =>
      subst h
      intro hw
      obtain ⟨u, hu, rfl⟩ := Option.map_eq_some_iff.mp hw
      exact ⟨(j, u), get?_eq_some_iff.mp hu, by simp⟩
    next h =>
      intro hw
      exact ⟨(j, w), get?_eq_some_iff.mp hw, by simp [h]⟩

theorem get?_cons [DecidableEq κ] {e : κ × α} {es : List (κ × α)}
    (h : (e :: es).Pairwise fun a b => rank a.1 < rank b.1) (k : κ) :
    (⟨e :: es, h⟩ : ByteMap κ α).get? k =
      if k = e.1 then some e.2 else (⟨es, (List.pairwise_cons.mp h).2⟩ : ByteMap κ α).get? k := by
  unfold get?
  split
  next hk => simp [hk]
  next hk =>
    have : rank e.1 ≠ rank k := fun h' => hk (ByteKey.rank_inj h').symm
    rw [List.find?_cons_of_neg (by simpa using this)]

/-- The least key of a map is not among the other entries. -/
theorem get?_tail {e : κ × α} {es : List (κ × α)}
    (h : (e :: es).Pairwise fun a b => rank a.1 < rank b.1) :
    (⟨es, (List.pairwise_cons.mp h).2⟩ : ByteMap κ α).get? e.1 = none := by
  have : es.find? (fun x => rank x.1 = rank e.1) = none := by
    rw [List.find?_eq_none]
    intro x hx
    have := (List.pairwise_cons.mp h).1 x hx
    simp only [decide_eq_true_eq]
    omega
  simp [get?, this]

theorem contains_iff {m : ByteMap κ α} {k : κ} : m.contains k = true ↔ ∃ v, m.get? k = some v :=
  Option.isSome_iff_exists

theorem contains_eq_false_iff {m : ByteMap κ α} {k : κ} : m.contains k = false ↔ m.get? k = none :=
  Option.isSome_eq_false_iff.trans Option.isNone_iff_eq_none

theorem mem_keys_iff {m : ByteMap κ α} {k : κ} : k ∈ m.keys ↔ m.contains k = true := by
  simp [keys, contains_iff, get?_eq_some_iff]

theorem isEmpty_eq_false_iff {m : ByteMap κ α} : m.isEmpty = false ↔ ∃ k v, m.get? k = some v := by
  unfold isEmpty
  simp only [get?_eq_some_iff]
  cases m.toList with
  | nil => simp
  | cons e es => exact ⟨fun _ => ⟨e.1, e.2, List.mem_cons_self⟩, fun _ => rfl⟩

/-! ## Extensionality -/

private theorem sorted_eq_of_mem {es fs : List (κ × α)}
    (he : es.Pairwise fun a b => rank a.1 < rank b.1)
    (hf : fs.Pairwise fun a b => rank a.1 < rank b.1) (h : ∀ e, e ∈ es ↔ e ∈ fs) : es = fs := by
  induction es generalizing fs with
  | nil =>
    cases fs with
    | nil => rfl
    | cons f fs => exact absurd ((h f).mpr List.mem_cons_self) (by simp)
  | cons e es ih =>
    cases fs with
    | nil => exact absurd ((h e).mp List.mem_cons_self) (by simp)
    | cons f fs =>
      have ⟨he₁, he₂⟩ := List.pairwise_cons.mp he
      have ⟨hf₁, hf₂⟩ := List.pairwise_cons.mp hf
      -- The least entry of one list is the least entry of the other.
      have hef : e = f := by
        rcases List.mem_cons.mp ((h e).mp List.mem_cons_self) with rfl | hmem
        · rfl
        · rcases List.mem_cons.mp ((h f).mpr List.mem_cons_self) with rfl | hmem'
          · rfl
          · have := hf₁ e hmem; have := he₁ f hmem'; omega
      subst hef
      congr 1
      refine ih he₂ hf₂ fun x => ⟨fun hx => ?_, fun hx => ?_⟩
      · rcases List.mem_cons.mp ((h x).mp (List.mem_cons_of_mem _ hx)) with rfl | h'
        · have := he₁ x hx; omega
        · exact h'
      · rcases List.mem_cons.mp ((h x).mpr (List.mem_cons_of_mem _ hx)) with rfl | h'
        · have := hf₁ x hx; omega
        · exact h'

/-- Maps with the same look-ups are equal. -/
theorem ext_get? {m n : ByteMap κ α} (h : ∀ k, m.get? k = n.get? k) : m = n := by
  have : m.toList = n.toList := sorted_eq_of_mem m.ascending n.ascending fun ⟨k, v⟩ => by
    rw [← get?_eq_some_iff, ← get?_eq_some_iff, h]
  cases m; cases n; cases this; rfl

theorem insert_of_get? [DecidableEq κ] {m : ByteMap κ α} {k : κ} {v : α} (h : m.get? k = some v) :
    m.insert k v = m := by
  apply ext_get?
  intro j
  rw [get?_insert]
  split
  next hj => rw [hj, h]
  next => rfl

theorem erase_of_get? [DecidableEq κ] {m : ByteMap κ α} {k : κ} (h : m.get? k = none) :
    m.erase k = m := by
  apply ext_get?
  intro j
  rw [get?_erase]
  split
  next hj => rw [hj, h]
  next => rfl

@[simp] theorem insert_insert [DecidableEq κ] (m : ByteMap κ α) (k : κ) (v w : α) :
    (m.insert k v).insert k w = m.insert k w := by
  apply ext_get?
  intro j
  rw [get?_insert, get?_insert, get?_insert]
  split <;> rfl

@[simp] theorem insert_erase [DecidableEq κ] (m : ByteMap κ α) (k : κ) (v : α) :
    (m.erase k).insert k v = m.insert k v := by
  apply ext_get?
  intro j
  rw [get?_insert, get?_insert, get?_erase]
  split <;> rfl

@[simp] theorem erase_insert [DecidableEq κ] (m : ByteMap κ α) (k : κ) (v : α) :
    (m.insert k v).erase k = m.erase k := by
  apply ext_get?
  intro j
  rw [get?_erase, get?_insert, get?_erase]
  split <;> rfl

theorem insert_comm [DecidableEq κ] (m : ByteMap κ α) {k j : κ} (h : k ≠ j) (v w : α) :
    (m.insert k v).insert j w = (m.insert j w).insert k v := by
  apply ext_get?
  intro i
  simp only [get?_insert]
  by_cases hi : i = j
  · simp [hi, h.symm]
  · simp [hi]

private theorem get?_foldl_insert [DecidableEq κ] (es : List (κ × α)) (m : ByteMap κ α) (k : κ)
    (h : es.Pairwise fun a b => rank a.1 < rank b.1) :
    (es.foldl (fun m e => m.insert e.1 e.2) m).get? k =
      ((⟨es, h⟩ : ByteMap κ α).get? k).or (m.get? k) := by
  induction es generalizing m with
  | nil => rfl
  | cons e es ih =>
    rw [List.foldl_cons, ih _ (List.pairwise_cons.mp h).2, get?_insert, get?_cons h]
    by_cases hk : k = e.1
    · rw [hk, get?_tail h]
      simp
    · simp [hk]

@[simp] theorem ofList_toList [DecidableEq κ] (m : ByteMap κ α) : ofList m.toList = m := by
  apply ext_get?
  intro k
  unfold ofList
  rw [get?_foldl_insert m.toList empty k m.ascending]
  exact Option.or_none

theorem nodup_keys (m : ByteMap κ α) : m.keys.Nodup := by
  refine List.pairwise_map.mpr (m.ascending.imp fun h heq => ?_)
  rw [heq] at h
  exact Nat.lt_irrefl _ h

end ByteMap

/-! ## Sets -/

/-- A set of keys, in ascending order. -/
abbrev ByteSet (κ : Type) [ByteKey κ] := ByteMap κ Unit

namespace ByteSet

def add (s : ByteSet κ) (k : κ) : ByteSet κ := s.insert k ()

def addAll (s : ByteSet κ) (ks : List κ) : ByteSet κ := ks.foldl add s

def removeAll (s : ByteSet κ) (ks : List κ) : ByteSet κ := ks.foldl ByteMap.erase s

def ofList (ks : List κ) : ByteSet κ := addAll ByteMap.empty ks

theorem addAll_append (s : ByteSet κ) (ks js : List κ) :
    (s.addAll ks).addAll js = s.addAll (ks ++ js) := by
  unfold addAll
  rw [List.foldl_append]

theorem get?_addAll [DecidableEq κ] (s : ByteSet κ) (ks : List κ) (k : κ) :
    (s.addAll ks).get? k = if k ∈ ks then some () else s.get? k := by
  unfold addAll
  induction ks generalizing s with
  | nil => simp
  | cons j ks ih =>
    rw [List.foldl_cons, ih]
    simp only [add, ByteMap.get?_insert, List.mem_cons]
    by_cases hk : k ∈ ks <;> by_cases hj : k = j <;> simp [hk, hj]

theorem contains_addAll [DecidableEq κ] (s : ByteSet κ) (ks : List κ) (k : κ) :
    (s.addAll ks).contains k = true ↔ k ∈ ks ∨ s.contains k = true := by
  unfold ByteMap.contains
  rw [get?_addAll]
  split
  next h => simp [h]
  next h => simp [h]

theorem ofList_congr [DecidableEq κ] {ks js : List κ} (h : ∀ k, k ∈ ks ↔ k ∈ js) :
    ofList ks = ofList js := by
  apply ByteMap.ext_get?
  intro k
  unfold ofList
  rw [get?_addAll, get?_addAll]
  simp only [h]

end ByteSet

end MeshScenes
