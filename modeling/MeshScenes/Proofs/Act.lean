import Mathlib.Order.Defs.Unbundled
import MeshScenes.Act

/-!
# How operations end

`Ends` says what holds of an operation however it ends, and opens one step after the other. `Moves`
compares what an operation leaves with what it found, by a preorder, so that a law of a whole run is
the law of each of its steps.
-/

namespace MeshScenes.Act

variable {σ τ χ α β : Type}

/-- However the operation ends, `post` holds of its answer and of what it leaves. -/
def Ends (x : Act σ χ α) (s : σ × Outlet χ) (post : Except Error α → σ × Outlet χ → Prop) : Prop :=
  match x s with
  | .ok a t => post (.ok a) t
  | .error e t => post (.error e) t

theorem ends_iff {x : Act σ χ α} {s : σ × Outlet χ} {post : Except Error α → σ × Outlet χ → Prop} :
    x.Ends s post ↔ post (x.answer s) (x.after s) := by
  unfold Ends answer after
  cases x s <;> rfl

theorem run_eq_ok_iff {x : Act σ χ α} {s t : σ × Outlet χ} {a : α} :
    x s = .ok a t ↔ x.answer s = .ok a ∧ x.after s = t := by
  unfold answer after
  cases x s <;> simp

theorem run_eq_error_iff {x : Act σ χ α} {s t : σ × Outlet χ} {e : Error} :
    x s = .error e t ↔ x.answer s = .error e ∧ x.after s = t := by
  unfold answer after
  cases x s <;> simp

theorem bind_eq_ok {x : Act σ χ α} {f : α → Act σ χ β} {s u : σ × Outlet χ} {b : β}
    (h : (x >>= f) s = .ok b u) :
    ∃ a t, x s = .ok a t ∧ f a t = .ok b u := by
  rw [run_bind] at h
  cases hx : x s with
  | error e t =>
    rw [hx] at h
    cases h
  | ok a t =>
    rw [hx] at h
    exact ⟨a, t, rfl, h⟩

theorem Ends.mono {x : Act σ χ α} {s : σ × Outlet χ}
    {post post' : Except Error α → σ × Outlet χ → Prop} (hx : x.Ends s post)
    (h : ∀ r t, post r t → post' r t) : x.Ends s post' :=
  ends_iff.mpr (h _ _ (ends_iff.mp hx))

theorem Ends.and {x : Act σ χ α} {s : σ × Outlet χ}
    {post post' : Except Error α → σ × Outlet χ → Prop} (hx : x.Ends s post)
    (hx' : x.Ends s post') : x.Ends s fun r t => post r t ∧ post' r t :=
  ends_iff.mpr ⟨ends_iff.mp hx, ends_iff.mp hx'⟩

/-! ## One step after another -/

section
variable {s : σ × Outlet χ} {post : Except Error α → σ × Outlet χ → Prop}

@[simp] theorem ends_pure (a : α) : Ends (pure a) s post ↔ post (.ok a) s := Iff.rfl

@[simp] theorem ends_throw (e : Error) : Ends (throw e) s post ↔ post (.error e) s := Iff.rfl

theorem ends_bind {x : Act σ χ β} {f : β → Act σ χ α} :
    Ends (x >>= f) s post ↔ x.Ends s fun r t =>
      match r with
      | .ok b => (f b).Ends t post
      | .error e => post (.error e) t := by
  unfold Ends
  rw [run_bind]
  cases x s <;> rfl

@[simp] theorem ends_subject {post : Except Error σ → σ × Outlet χ → Prop} :
    Ends subject s post ↔ post (.ok s.1) s := Iff.rfl

@[simp] theorem ends_replace {post : Except Error Unit → σ × Outlet χ → Prop} (t : σ) :
    Ends (replace t) s post ↔ post (.ok ()) (t, s.2) := Iff.rfl

@[simp] theorem ends_change {post : Except Error Unit → σ × Outlet χ → Prop} (f : σ → σ) :
    Ends (change f) s post ↔ post (.ok ()) (f s.1, s.2) := Iff.rfl

@[simp] theorem ends_note {post : Except Error Unit → σ × Outlet χ → Prop} (e : Journal.Entry) :
    Ends (note e) s post ↔ post (.ok ()) (s.1, s.2.note e) := Iff.rfl

theorem ends_of (x : Except Error α) : Ends (of x) s post ↔ post x s := by
  cases x <;> rfl

theorem ends_within {part : τ} {put : τ → σ → σ} {x : Act τ χ α} :
    Ends (within part put x) s post ↔ x.Ends (part, s.2) fun r t => post r (put t.1 s.1, t.2) := by
  unfold Ends within
  cases x (part, s.2) <;> rfl

theorem ends_outcome {x : Act σ χ α} {post : Except Error (Except Error α) → σ × Outlet χ → Prop} :
    Ends (outcome x) s post ↔ x.Ends s fun r t => post (.ok r) t := by
  unfold Ends outcome
  cases x s <;> rfl

end

theorem run_outcome (x : Act σ χ α) (s : σ × Outlet χ) :
    outcome x s = match x s with
      | .ok a t => .ok (.ok a) t
      | .error e t => .ok (.error e) t := rfl

theorem after_within {part : τ} {put : τ → σ → σ} {x : Act τ χ α} {s : σ × Outlet χ} :
    (within part put x).after s = (put (x.after (part, s.2)).1 s.1, (x.after (part, s.2)).2) := by
  unfold after within
  cases x (part, s.2) <;> rfl

/-! ## What an operation does to what it found -/

/-- What an operation leaves is related to what it found. -/
def Moves (R : σ × Outlet χ → σ × Outlet χ → Prop) (x : Act σ χ α) : Prop := ∀ s, R s (x.after s)

theorem moves_iff_ends {R : σ × Outlet χ → σ × Outlet χ → Prop} {x : Act σ χ α} :
    x.Moves R ↔ ∀ s, x.Ends s fun _ t => R s t := by
  constructor
  · intro h s
    exact ends_iff.mpr (h s)
  · intro h s
    exact ends_iff.mp (h s)

section
variable {R : σ × Outlet χ → σ × Outlet χ → Prop} [IsPreorder _ R]

theorem moves_pure (a : α) : Moves R (pure a) := fun s => refl_of R s

theorem moves_throw (e : Error) : Moves R (throw e : Act σ χ α) := fun s => refl_of R s

theorem moves_subject : Moves R subject := fun s => refl_of R s

theorem moves_of (x : Except Error α) : Moves R (of x) := fun s => by
  unfold after of
  cases x <;> exact refl_of R s

theorem moves_bind {x : Act σ χ β} {f : β → Act σ χ α} (hx : x.Moves R) (hf : ∀ b, (f b).Moves R) :
    Moves R (x >>= f) := by
  refine moves_iff_ends.mpr fun s => ends_bind.mpr (ends_iff.mpr ?_)
  cases x.answer s with
  | ok b => exact ends_iff.mpr (trans_of R (hx s) (hf b _))
  | error e => exact hx s

omit [IsPreorder _ R] in
theorem moves_outcome {x : Act σ χ α} (hx : x.Moves R) : Moves R (outcome x) :=
  moves_iff_ends.mpr fun s => ends_outcome.mpr (moves_iff_ends.mp hx s)

theorem moves_forM {ι : Type} {f : ι → Act σ χ Unit} {l : List ι} (hf : ∀ i ∈ l, (f i).Moves R) :
    Moves R (l.forM f) := by
  induction l with
  | nil => exact moves_pure ()
  | cons i l ih =>
    exact moves_bind (hf i List.mem_cons_self) fun _ => ih fun j hj =>
      hf j (List.mem_cons_of_mem _ hj)

theorem moves_foldlM {ι : Type} {f : β → ι → Act σ χ β} {l : List ι}
    (hf : ∀ i ∈ l, ∀ b, (f b i).Moves R) :
    ∀ b, Moves R (l.foldlM f b) := by
  induction l with
  | nil => exact moves_pure
  | cons i l ih =>
    intro b
    rw [List.foldlM_cons]
    exact moves_bind (hf i List.mem_cons_self b) fun c =>
      ih (fun j hj => hf j (List.mem_cons_of_mem _ hj)) c

theorem moves_notes (hR : ∀ s e, R s (s.1, s.2.note e)) (es : List Journal.Entry) :
    Moves R (notes es : Act σ χ Unit) :=
  moves_forM fun e _ s => hR s e

theorem moves_bind_of {x : Except Error β} {f : β → Act σ χ α}
    (hf : ∀ b, x = .ok b → (f b).Moves R) :
    Moves R (of x >>= f) := by
  cases hx : x with
  | ok b =>
    intro s
    exact hf b hx s
  | error e => exact fun s => refl_of R s

theorem moves_requests [Channel χ] {rs : List (DeviceId × Request)}
    (hR : ∀ r ∈ rs, ∀ f, r.2.frame r.1 = .ok f → ∀ s, R s (s.1, (s.2.send f).2)) :
    Moves R (requests rs : Act σ χ Unit) := by
  refine moves_forM fun r hr => moves_bind_of fun f hf s => ?_
  have hframe : r.2.frame r.1 = .ok f := by
    cases h : r.2.frame r.1 with
    | ok g => rw [h] at hf; cases hf; rfl
    | error e => rw [h] at hf; cases hf
  have := hR r hr f hframe s
  unfold after send
  rcases h : s.2.send f with ⟨_ | _, o⟩ <;> rw [h] at this <;> exact this

end

end MeshScenes.Act
