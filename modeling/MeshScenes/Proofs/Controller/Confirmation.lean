import MeshScenes.Proofs.Controller.History

/-!
# Confirmed pictures

A picture is confirmed by a report that came after its last change. A controller that is valid
should have a confirmed picture. It need not: without lights to write to, new lights change the
picture only, and a controller that a report made valid stays valid. `valid_confirmed_iff`: nothing
else goes wrong.
-/

namespace MeshScenes.Controller

variable {d : DeviceId} {c left : Controller} {op : Operation} {as : List Attempt}

/-- A report was taken over, and the picture has not changed since. -/
def Confirmed (ts : List Turn) (c : Controller) : Prop :=
  (∃ later t earlier bitmask, ts = later ++ t :: earlier ∧ t.operation = .handleReport bitmask ∧
    ∀ u ∈ later, u.left.indicator = u.found.indicator) ∧ c.reported = some c.indicator

/-- Valid means confirmed, after every turn. -/
def Trustworthy (d : DeviceId) (ts : List Turn) : Prop :=
  ∀ later earlier b, ts = later ++ earlier → Lived d earlier b → b.isValid = true →
    Confirmed earlier b

/-- The operation gives a valid controller new lights that cannot be written. -/
def Turn.Misleads (t : Turn) : Prop :=
  t.found.isValid = true ∧ t.found.supportsIndicator = false ∧ t.operation.Rewrites t.found

theorem Confirmed.turn {ts : List Turn} {t : Turn} (h : Confirmed ts t.found)
    (hlights : t.left.indicator = t.found.indicator)
    (hreported : t.left.reported = t.found.reported) :
    Confirmed (t :: ts) t.left := by
  obtain ⟨⟨later, u, earlier, bitmask, rfl, hreport, hkept⟩, hlast⟩ := h
  refine ⟨⟨t :: later, u, earlier, bitmask, rfl, hreport, ?_⟩, ?_⟩
  · intro v hv
    rcases List.mem_cons.mp hv with rfl | hv
    · exact hlights
    · exact hkept v hv
  · rw [hreported, hlights, hlast]

theorem Confirmed.kept {ts : List Turn} {t : Turn} (h : Confirmed (t :: ts) c) :
    t.left.indicator = t.found.indicator ∨ ∃ bitmask, t.operation = .handleReport bitmask := by
  obtain ⟨⟨later, u, earlier, bitmask, hsplit, hreport, hkept⟩, -⟩ := h
  cases later with
  | nil =>
    cases hsplit
    exact .inr ⟨bitmask, hreport⟩
  | cons v later =>
    cases hsplit
    exact .inl (hkept t List.mem_cons_self)

theorem confirmed_of_report {ts : List Turn} {t : Turn} {bitmask : UInt8}
    (hreport : t.operation = .handleReport bitmask)
    (hleft : t.left = (t.found.handleReport bitmask).1) : Confirmed (t :: ts) t.left := by
  refine ⟨⟨[], t, ts, bitmask, rfl, hreport, by simp⟩, ?_⟩
  rw [hleft]
  rfl

/-- Of the courses, only new lights in the dark lose what a report confirmed. -/
theorem Course.confirmed {ts : List Turn} (h : Course c op as left)
    (hconfirmed : c.isValid = true → Confirmed ts c) (honest : ¬ Turn.Misleads ⟨op, c, as, left⟩)
    (hvalid : left.isValid = true) :
    Confirmed (⟨op, c, as, left⟩ :: ts) left := by
  cases h with
  | idle => exact (hconfirmed hvalid).turn rfl rfl
  | pictured lights _ hrewrites hdark _ => exact absurd ⟨hvalid, hdark, hrewrites⟩ honest
  | reported bitmask => exact confirmed_of_report rfl rfl
  | _ => simp [isValid] at hvalid

theorem Course.misleads (h : Course c op as left) (hvalid : c.isValid = true)
    (hdark : c.supportsIndicator = false) (hrewrites : op.Rewrites c) :
    left.isValid = true ∧ left.indicator ≠ c.indicator ∧ ∀ bitmask, op ≠ .handleReport bitmask := by
  have hreport : ∀ bitmask, op ≠ .handleReport bitmask := by
    rintro bitmask rfl
    exact hrewrites
  cases h with
  | idle _ _ hnot _ => exact absurd hrewrites hnot
  | pictured lights _ _ _ hne => exact ⟨hvalid, hne.symm, hreport⟩
  | asked _ _ hlights => simp [hlights] at hdark
  | unwritten _ _ hlights => simp [hlights] at hdark
  | written _ _ _ hlights => simp [hlights] at hdark
  | attachedDark => exact hrewrites.elim
  | attachedLit => exact hrewrites.elim
  | reported => exact hrewrites.elim

theorem Trustworthy.earlier {later ts : List Turn} (h : Trustworthy d (later ++ ts)) :
    Trustworthy d ts := by
  rintro later' earlier b rfl hb
  exact h (later ++ later') earlier b (List.append_assoc _ _ _).symm hb

theorem Lived.confirmed {ts : List Turn} (h : Lived d ts c) (honest : ∀ t ∈ ts, ¬ t.Misleads)
    (hvalid : c.isValid = true) :
    Confirmed ts c := by
  induction ts generalizing c with
  | nil =>
    cases h
    simp [isValid, Controller.new] at hvalid
  | cons t ts ih =>
    obtain ⟨hfound, rfl, hcourse⟩ := h.turn_inv
    have hbefore : t.found.isValid = true → Confirmed ts t.found :=
      ih hfound fun u hu => honest u (List.mem_cons_of_mem _ hu)
    exact hcourse.confirmed hbefore (honest t List.mem_cons_self) hvalid

/-- Of any operations on a controller, whatever the channel does: that it is valid means, after each
of them, that its picture is what a report said and has not changed since, exactly if none of them
gave a valid controller without lights new lights. -/
theorem valid_confirmed_iff {ts : List Turn} (h : Lived d ts c) :
    Trustworthy d ts ↔ ∀ t ∈ ts, ¬ t.Misleads := by
  constructor
  · rintro htrust t ht ⟨hfound, hdark, hrewrites⟩
    obtain ⟨later, earlier, rfl⟩ := List.append_of_mem ht
    obtain ⟨b, hb⟩ := h.earlier
    obtain ⟨-, rfl, hcourse⟩ := hb.turn_inv
    obtain ⟨hvalid, hne, hreport⟩ := hcourse.misleads hfound hdark hrewrites
    rcases (htrust later _ _ rfl hb hvalid).kept with hkept | ⟨bitmask, hbitmask⟩
    · exact hne hkept
    · exact hreport bitmask hbitmask
  · rintro honest later earlier b rfl hb hvalid
    exact hb.confirmed (fun t ht => honest t (List.mem_append_right _ ht)) hvalid

/-- A report makes the keypad without lights valid. -/
def inTheDark : List (Operation × Option Nat) :=
  [(.bind (oneKeypad []), none), (.handleReport 0, none)]

theorem valid_confirmed_iff_inTheDark :
    ∃ ts c, Lived ⟨2⟩ ts c ∧ c.isValid = true ∧ Confirmed ts c := by
  have h : Lived ⟨2⟩ (turns ⟨2⟩ inTheDark).1 (turns ⟨2⟩ inTheDark).2 := lived_turns ⟨2⟩ inTheDark
  have hvalid : (turns ⟨2⟩ inTheDark).2.isValid = true := by decide +kernel
  refine ⟨_, _, h, hvalid, (valid_confirmed_iff h).mpr ?_ [] _ _ rfl h hvalid⟩
  rintro t ht ⟨hfound, -, -⟩
  have hunknown : ∀ t ∈ (turns ⟨2⟩ inTheDark).1, t.found.isValid = false := by decide +kernel
  rw [hunknown t ht] at hfound
  cases hfound

/-- It is still valid when its first button has been switched on. -/
theorem inTheDark_not_trustworthy :
    ∃ ts c, Lived ⟨2⟩ ts c ∧ c.isValid = true ∧ c.reported = some 0 ∧ c.indicator = 1 ∧
      ¬ Trustworthy ⟨2⟩ ts := by
  have h : Lived ⟨2⟩ (turns ⟨2⟩ (inTheDark ++ [(.setButton ⟨1⟩ true, none)])).1
      (turns ⟨2⟩ (inTheDark ++ [(.setButton ⟨1⟩ true, none)])).2 := lived_turns ⟨2⟩ _
  have hleft : (turns ⟨2⟩ (inTheDark ++ [(.setButton ⟨1⟩ true, none)])).2.isValid = true ∧
      (turns ⟨2⟩ (inTheDark ++ [(.setButton ⟨1⟩ true, none)])).2.reported = some 0 ∧
      (turns ⟨2⟩ (inTheDark ++ [(.setButton ⟨1⟩ true, none)])).2.indicator = 1 := by decide +kernel
  obtain ⟨hvalid, hreported, hlights⟩ := hleft
  refine ⟨_, _, h, hvalid, hreported, hlights, fun htrust => ?_⟩
  obtain ⟨-, hlast⟩ := htrust [] _ _ rfl h hvalid
  rw [hreported, hlights] at hlast
  cases hlast

end MeshScenes.Controller
