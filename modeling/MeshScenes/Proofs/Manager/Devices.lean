import MeshScenes.Proofs.Manager.Calls

/-!
# What the manager knows of devices

What the directory said of a controller is noted when it is attached, and nothing changes it later.
-/

namespace MeshScenes

theorem Controller.Fits.of_alike {c d : Controller} {x : Device} (h : c.Fits x) (ha : c.Alike d) :
    d.Fits x := by
  obtain ⟨hd, -⟩ := ha
  rw [hd]
  exact ⟨h.isController, h.configurable, h.indicator, h.association, h.configuration⟩

/-- Every controller fits what a directory, one of `D`, says of its device. -/
def Registry.Described (D : Directory → Prop) (r : Registry) : Prop :=
  ∀ d c, r.get? d = some c → ∃ directory x, D directory ∧ directory d = some x ∧ c.Fits x

theorem Registry.Described.of_alike {D : Directory → Prop} {r r' : Registry} (h : r.Described D)
    (ha : r.Alike r') :
    r'.Described D := by
  intro d c hc
  obtain ⟨b, hb, hbc⟩ := ha.get? hc
  obtain ⟨directory, x, hD, hx, hfits⟩ := h d b hb
  exact ⟨directory, x, hD, hx, hfits.of_alike hbc⟩

namespace Manager

variable {χ : Type} {D : Directory → Prop}

/-- Descriptions are not lost, whatever became of the outlet. -/
def Describes (D : Directory → Prop) (s t : Registry × Outlet χ) : Prop :=
  s.1.Described D → t.1.Described D

instance : IsPreorder (Registry × Outlet χ) (Describes D) where
  refl _ := id
  trans _ _ _ h h' := h' ∘ h

theorem describes_of_stays {α : Type} {x : Act Registry χ α} (hx : x.Moves Registry.Stays) :
    x.Moves (Describes D) := hx.mono fun _ _ ha h => h.of_alike ha

theorem follows_describes [Channel χ] {directory : Directory} (hD : D directory) :
    Follows directory (Describes D : Registry × Outlet χ → Registry × Outlet χ → Prop) where
  note _ _ := id
  forget _ _ _ _ hr h d c hc := h d c (hr d c hc)
  attach r o o' d count c es hnone hc hs h e y hy := by
    change (r.insert d c).get? e = some y at hy
    rw [ByteMap.get?_insert] at hy
    split at hy
    next he =>
      cases hy
      obtain ⟨x, hx, hfits⟩ := hc.fits
      exact ⟨directory, x, hD, he ▸ hx, hfits⟩
    next => exact h e y hy
  refused _ _ _ _ _ _ _ := id
  ask d := describes_of_stays (Registry.stays_requestIndicator d)
  send _ _ _ := id

theorem Reachable.described {m : Manager} (h : Reachable D m) : m.controllers.Described D := by
  induction h with
  | start h =>
    unfold withButtonCount at h
    split at h
    · cases h
      intro d c hc
      cases hc
    · cases h
  | call c o _ hD ih =>
    exact (follows_describes hD).on_call c
      (fun _ _ d b => describes_of_stays (Registry.stays_setButton d b true)) (_, o) ih
  | frame f o _ ih => exact ih.of_alike (stays_handleFrame f (_, o)).2
  | event e o _ ih => exact ih.of_alike (stays_handleEvent e (_, o)).2

end Manager

end MeshScenes
