import Mathlib.Data.List.DropRight
import Mathlib.Data.List.Nodup
import MeshScenes.Manager.Call
import MeshScenes.Proofs.Phases
import MeshScenes.Scene.MemberCall

/-!
# Membership

Who the members of a scene are after any calls, told by the calls alone: a device is a member since
the first call that added it after it was last removed, and members stand in the order in which they
joined. The groups by level hold every member that is not scene-capable once.
-/

namespace MeshScenes

namespace MemberCall

/-! ## What calls tell of a device -/

def removes (d : DeviceId) : MemberCall → Bool
  | remove device => device = d
  | _ => false

def added? (d : DeviceId) : MemberCall → Option Device
  | add directory device _ => if device = d then directory d else none
  | _ => none

def level? (d : DeviceId) : MemberCall → Option UInt8
  | add directory device value => if device = d then (directory d).map fun _ => value else none
  | setValue device value => if device = d then some value else none
  | remove _ => none

/-- The calls since a device joined, from the one that added it on; there are none if it is no
member. The latest call comes first. -/
def tenure (d : DeviceId) (h : List MemberCall) : List MemberCall :=
  (h.takeWhile fun c => !c.removes d).rdropWhile fun c => (c.added? d).isNone

def told? (d : DeviceId) (h : List MemberCall) : Option Member := do
  let value ← (tenure d h).findSome? (level? d)
  let device ← (tenure d h).findSome? (added? d)
  return ⟨d, value, device.isSceneCapable⟩

variable {d : DeviceId} {c : MemberCall} {h : List MemberCall}

theorem tenure_cons (d : DeviceId) (c : MemberCall) (h : List MemberCall) :
    tenure d (c :: h) = if c.removes d then [] else
      if tenure d h = [] then (if (c.added? d).isSome then [c] else []) else c :: tenure d h := by
  unfold tenure
  rw [List.takeWhile_cons]
  cases c.removes d with
  | true => simp
  | false =>
    simp only [Bool.not_false, ite_true, Bool.false_eq_true, ite_false]
    generalize h.takeWhile _ = l
    unfold List.rdropWhile
    rw [List.reverse_cons, List.dropWhile_append]
    by_cases hl : l.reverse.dropWhile (fun c => (c.added? d).isNone) = []
    · cases hc : c.added? d <;> simp [hl, hc]
    · simp [hl]

theorem level?_isSome_of_added? (hc : (c.added? d).isSome) : (c.level? d).isSome := by
  cases c with
  | add directory device value =>
    by_cases hd : device = d
    · simpa [added?, level?, hd] using hc
    · simp [added?, hd] at hc
  | remove | setValue => cases hc

theorem exists_of_tenure (hne : tenure d h ≠ []) :
    ∃ value x, (tenure d h).findSome? (level? d) = some value ∧
      (tenure d h).findSome? (added? d) = some x := by
  have hadded : ¬ (((tenure d h).getLast hne).added? d).isNone = true :=
    List.rdropWhile_last_not _ _ hne
  rw [Option.isNone_iff_eq_none, ← Ne, ← Option.isSome_iff_ne_none] at hadded
  have hlevel := level?_isSome_of_added? hadded
  obtain ⟨value, hvalue⟩ := Option.isSome_iff_exists.mp
    (List.findSome?_isSome_iff.mpr ⟨_, List.getLast_mem hne, hlevel⟩)
  obtain ⟨x, hx⟩ :=
    Option.isSome_iff_exists.mp (List.findSome?_isSome_iff.mpr ⟨_, List.getLast_mem hne, hadded⟩)
  exact ⟨value, x, hvalue, hx⟩

theorem told?_eq_some {value : UInt8} {x : Device}
    (hvalue : (tenure d h).findSome? (level? d) = some value)
    (hx : (tenure d h).findSome? (added? d) = some x) :
    told? d h = some ⟨d, value, x.isSceneCapable⟩ := by
  unfold told?
  rw [hvalue, hx]
  rfl

theorem told?_eq_none_iff : told? d h = none ↔ tenure d h = [] := by
  constructor
  · intro htold
    by_contra hne
    obtain ⟨value, x, hvalue, hx⟩ := exists_of_tenure hne
    rw [told?_eq_some hvalue hx] at htold
    cases htold
  · intro hnil
    unfold told?
    rw [hnil]
    rfl

theorem length_tenure_cons (hc : c.removes d = false) (hd : tenure d h ≠ []) :
    (tenure d (c :: h)).length = (tenure d h).length + 1 := by
  rw [tenure_cons, hc, if_neg hd]
  rfl

theorem length_tenure_cons_le (hd : tenure d h = []) : (tenure d (c :: h)).length ≤ 1 := by
  rw [tenure_cons, if_pos hd]
  split
  · exact Nat.zero_le _
  · split <;> simp

theorem told?_cons_remove : told? d (remove d :: h) = none := by
  unfold told?
  rw [tenure_cons]
  simp [removes]

theorem told?_cons_of_silent (hr : c.removes d = false) (ha : c.added? d = none)
    (hl : c.level? d = none) :
    told? d (c :: h) = told? d h := by
  unfold told?
  rw [tenure_cons, hr, ha]
  by_cases hnil : tenure d h = [] <;> simp [hnil, ha, hl]

theorem told?_cons_add {directory : Directory} {x : Device} (hx : directory d = some x)
    (value : UInt8) :
    told? d (add directory d value :: h) = some ⟨d, value, x.isSceneCapable⟩ := by
  have hadded : (add directory d value).added? d = some x := by simp [added?, hx]
  have hlevel : (add directory d value).level? d = some value := by simp [level?, hx]
  have htenure : ∃ l, tenure d (add directory d value :: h) = add directory d value :: l := by
    rw [tenure_cons, hadded]
    by_cases hnil : tenure d h = []
    · exact ⟨[], by simp [hnil, removes]⟩
    · exact ⟨tenure d h, by simp [hnil, removes]⟩
  obtain ⟨l, hl⟩ := htenure
  exact told?_eq_some (by rw [hl, List.findSome?_cons, hlevel])
    (by rw [hl, List.findSome?_cons, hadded])

theorem told?_cons_setValue (value : UInt8) :
    told? d (setValue d value :: h) = (told? d h).map fun m => { m with value } := by
  have htenure : tenure d (setValue d value :: h) = if tenure d h = [] then []
      else setValue d value :: tenure d h := by
    rw [tenure_cons]
    rfl
  by_cases hne : tenure d h = []
  · rw [if_pos hne] at htenure
    rw [told?_eq_none_iff.mpr htenure, told?_eq_none_iff.mpr hne]
    rfl
  · rw [if_neg hne] at htenure
    obtain ⟨old, x, hold, hx⟩ := exists_of_tenure hne
    rw [told?_eq_some hold hx]
    apply told?_eq_some
    · rw [htenure, List.findSome?_cons]
      simp [level?]
    · rw [htenure, List.findSome?_cons]
      exact hx

end MemberCall

/-! ## The members -/

open MemberCall

/-- The members are those that the calls tell of, in the order in which they joined. -/
structure Recounted (h : List MemberCall) (ms : List Member) : Prop where
  found : ∀ d, ms.find? (·.device = d) = told? d h
  order : (ms.map (·.device)).Pairwise fun d e => (tenure e h).length < (tenure d h).length

namespace Recounted

variable {h : List MemberCall} {ms : List Member}

theorem nodup (hms : Recounted h ms) : (ms.map (·.device)).Nodup := by
  apply hms.order.imp
  intro d e hlt heq
  rw [heq] at hlt
  exact Nat.lt_irrefl _ hlt

theorem mem_iff (hms : Recounted h ms) (d : DeviceId) :
    d ∈ ms.map (·.device) ↔ tenure d h ≠ [] := by
  rw [Ne, ← told?_eq_none_iff, ← hms.found d, List.find?_eq_none]
  simp

theorem told (hms : Recounted h ms) {m : Member} (hm : m ∈ ms) : told? m.device h = some m := by
  rw [← hms.found]
  cases hfind : ms.find? (·.device = m.device) with
  | none => exact absurd (decide_eq_true rfl) (List.find?_eq_none.mp hfind m hm)
  | some n =>
    have hn : n.device = m.device := by simpa using List.find?_some hfind
    rw [List.inj_on_of_nodup_map hms.nodup (List.mem_of_find?_eq_some hfind) hm hn]

theorem order_cons (hms : Recounted h ms) {c : MemberCall} {l : List DeviceId}
    (hl : l.Sublist (ms.map (·.device))) (hc : ∀ d ∈ l, c.removes d = false) :
    l.Pairwise fun d e => (tenure e (c :: h)).length < (tenure d (c :: h)).length := by
  have hlength : ∀ d ∈ l, (tenure d (c :: h)).length = (tenure d h).length + 1 := fun d hd =>
    length_tenure_cons (hc d hd) ((hms.mem_iff d).mp (hl.mem hd))
  apply (hms.order.sublist hl).imp_of_mem
  intro d e hd he hlt
  rw [hlength d hd, hlength e he]
  exact Nat.succ_lt_succ hlt

theorem order_append (hms : Recounted h ms) {c : MemberCall} {d : DeviceId} (hd : tenure d h = [])
    (hc : ∀ e ∈ ms.map (·.device), c.removes e = false) :
    (ms.map (·.device) ++ [d]).Pairwise fun d e =>
      (tenure e (c :: h)).length < (tenure d (c :: h)).length := by
  rw [List.pairwise_append]
  refine ⟨hms.order_cons (List.Sublist.refl _) hc, List.pairwise_singleton _ _,
    fun e he d' hd' => ?_⟩
  obtain rfl : d' = d := List.mem_singleton.mp hd'
  have htenure := (hms.mem_iff e).mp he
  have hbegun : (tenure d' (c :: h)).length ≤ 1 := length_tenure_cons_le hd
  have hpos := List.length_pos_iff.mpr htenure
  rw [length_tenure_cons (hc e he) htenure]
  omega

theorem silent {s : Scene} (hs : Recounted h s.members) {c : MemberCall} (hafter : c.after s = s)
    (hremoves : ∀ d, c.removes d = false) (htold : ∀ d, told? d (c :: h) = told? d h) :
    Recounted (c :: h) (c.after s).members := by
  rw [hafter]
  exact ⟨fun d => (hs.found d).trans (htold d).symm, hs.order_cons (List.Sublist.refl _) fun d _ =>
    hremoves d⟩

theorem add {s : Scene} (hs : Recounted h s.members) {directory : Directory}
    (honest : directory.Honest) (device : DeviceId) (value : UInt8) :
    Recounted (.add directory device value :: h)
      ((MemberCall.add directory device value).after s).members := by
  have htold : ∀ d, ¬ (device = d ∧ (directory d).isSome) →
      told? d (.add directory device value :: h) = told? d h := by
    intro d hd
    apply told?_cons_of_silent rfl <;> by_cases heq : device = d <;> simp_all [added?, level?]
  cases hx : directory device with
  | none =>
    refine hs.silent (after_add_of_none hx value) (fun _ => rfl) fun d => htold d ?_
    rintro ⟨rfl, hd⟩
    rw [hx] at hd
    cases hd
  | some x =>
    obtain rfl : x.id = device := honest device x hx
    rw [after_add_of_some hx]
    constructor
    · intro d
      refine (s.member?_putMember (.ofDevice x value) d).trans ?_
      split
      next hd =>
        subst hd
        exact (told?_cons_add hx value).symm
      next hd => exact (hs.found d).trans (htold d fun h => hd h.1.symm).symm
    -- a member keeps its place, and who is none yet goes last
    · unfold Scene.putMember
      split
      next =>
        have hf : ∀ m : Member, m.device = x.id → (Member.ofDevice x value).device = x.id :=
          fun _ _ => rfl
        rw [Scene.map_device_changeMember hf]
        exact hs.order_cons (List.Sublist.refl _) fun _ _ => rfl
      next hnew =>
        rw [List.map_append]
        apply hs.order_append
        · rw [← told?_eq_none_iff, ← hs.found]
          exact Option.not_isSome_iff_eq_none.mp hnew
        · exact fun _ _ => rfl

theorem remove {s : Scene} (hs : Recounted h s.members) (device : DeviceId) :
    Recounted (.remove device :: h) ((MemberCall.remove device).after s).members := by
  constructor
  · intro d
    refine (s.member?_removeDevice device d).trans ?_
    split
    next hd => rw [hd, told?_cons_remove]
    next hd =>
      have hremoves : (MemberCall.remove device).removes d = false := decide_eq_false (Ne.symm hd)
      rw [told?_cons_of_silent hremoves rfl rfl]
      exact hs.found d
  · apply hs.order_cons
    · exact List.filter_sublist.map _
    · intro d hd
      obtain ⟨m, hm, rfl⟩ := List.mem_map.mp hd
      exact decide_eq_false (Ne.symm (of_decide_eq_true (List.mem_filter.mp hm).2))

theorem setValue {s : Scene} (hs : Recounted h s.members) (device : DeviceId) (value : UInt8) :
    Recounted (.setValue device value :: h)
      ((MemberCall.setValue device value).after s).members := by
  have htold : ∀ d, told? d (.setValue device value :: h) =
      if d = device then (told? d h).map fun m => { m with value } else told? d h := by
    intro d
    split
    next hd =>
      rw [hd]
      exact told?_cons_setValue value
    next hd => exact told?_cons_of_silent rfl rfl (if_neg (Ne.symm hd))
  cases hm : s.member? device with
  | none =>
    refine hs.silent (after_setValue_of_none hm value) (fun _ => rfl) fun d => ?_
    rw [htold]
    split
    next hd =>
      subst hd
      have hnone : told? d h = none := (hs.found d).symm.trans hm
      rw [hnone]
      rfl
    next => rfl
  | some m =>
    rw [after_setValue_of_some hm]
    have hf : ∀ m : Member, m.device = device → ({ m with value } : Member).device = device :=
      fun _ hm => hm
    constructor
    · intro d
      rw [Scene.find_changeMember hf, htold, hs.found]
    · rw [Scene.map_device_changeMember hf]
      exact hs.order_cons (List.Sublist.refl _) fun _ _ => rfl

theorem after {s : Scene} (hs : Recounted h s.members) {c : MemberCall}
    (honest : ∀ directory device value, c = .add directory device value → directory.Honest) :
    Recounted (c :: h) (c.after s).members := by
  cases c with
  | add directory device value => exact hs.add (honest _ _ _ rfl) device value
  | remove device => exact hs.remove device
  | setValue device value => exact hs.setValue device value

end Recounted

namespace Scene

theorem after_eq (c : MemberCall) (s : Scene) : ∃ ms, c.after s = { s with members := ms } := by
  cases c with
  | add directory device value =>
    cases hx : directory device with
    | none => exact ⟨_, after_add_of_none hx value⟩
    | some x =>
      rw [after_add_of_some hx]
      unfold putMember
      split <;> exact ⟨_, rfl⟩
  | remove device => exact ⟨_, rfl⟩
  | setValue device value =>
    cases hm : s.member? device with
    | none => exact ⟨_, after_setValue_of_none hm value⟩
    | some m => exact ⟨_, after_setValue_of_some hm value⟩

theorem afterCalls_eq (s : Scene) (h : List MemberCall) :
    ∃ ms, s.afterCalls h = { s with members := ms } := by
  induction h with
  | nil => exact ⟨_, rfl⟩
  | cons c h ih =>
    obtain ⟨ms, hms⟩ := ih
    obtain ⟨ns, hns⟩ := after_eq c (s.afterCalls h)
    rw [hms] at hns
    exact ⟨ns, (congrArg c.after hms).trans hns⟩

theorem recounted_afterCalls {s : Scene} {h : List MemberCall} (hs : s.members = [])
    (honest : ∀ directory device value, .add directory device value ∈ h → directory.Honest) :
    Recounted h (s.afterCalls h).members := by
  induction h with
  | nil =>
    show Recounted [] s.members
    rw [hs]
    exact ⟨fun _ => rfl, List.Pairwise.nil⟩
  | cons c h ih =>
    have hrecounted :=
      ih fun directory device value hmem => honest _ _ _ (List.mem_cons_of_mem _ hmem)
    apply hrecounted.after
    rintro directory device value rfl
    exact honest _ _ _ List.mem_cons_self

/-! ## The groups -/

section
variable {s : Scene}

theorem nodup_levelGroups (hs : (s.members.map (·.device)).Nodup) :
    (s.levelGroups.toList.flatMap (·.2)).Nodup := by
  have hgrouped : (s.groupedMembers.map (·.device)).Nodup := hs.sublist (List.filter_sublist.map _)
  rw [toList_levelGroups, List.flatMap_map, List.nodup_flatMap]
  constructor
  · intro v _
    exact hgrouped.sublist (List.filter_sublist.map _)
  · apply s.ascending_levels.imp
    intro v w hlt d hv hw
    obtain ⟨m, hm, rfl⟩ := List.mem_map.mp hv
    obtain ⟨n, hn, hdevice⟩ := List.mem_map.mp hw
    obtain ⟨hm, hv⟩ := List.mem_filter.mp hm
    obtain ⟨hn, hw⟩ := List.mem_filter.mp hn
    rw [List.inj_on_of_nodup_map hgrouped hn hm hdevice, of_decide_eq_true hv] at hw
    rw [of_decide_eq_true hw] at hlt
    exact Nat.lt_irrefl _ hlt

theorem count_levelGroups (hs : (s.members.map (·.device)).Nodup) {m : Member}
    (hm : m ∈ s.members) :
    (s.levelGroups.toList.flatMap (·.2)).count m.device = if m.sceneCapable then 0 else 1 := by
  have hmem := s.mem_levelGroups_device m.device
  split
  next hc =>
    rw [List.count_eq_zero, hmem]
    intro ⟨n, hn, hdevice⟩
    obtain ⟨hn, hnc⟩ := List.mem_filter.mp hn
    rw [List.inj_on_of_nodup_map hs hn hm hdevice, hc] at hnc
    cases hnc
  next hc =>
    apply List.count_eq_one_of_mem (nodup_levelGroups hs)
    rw [hmem]
    exact ⟨m, List.mem_filter.mpr ⟨hm, by simp [hc]⟩, rfl⟩

theorem get?_levelGroups_eq_some_iff {v : UInt8} {devices : List DeviceId} :
    s.levelGroups.get? v = some devices ↔
      devices ≠ [] ∧ devices =
        (s.members.filter fun m => m.value = v && !m.sceneCapable).map (·.device) := by
  rw [get?_levelGroups]
  unfold groupedMembers
  rw [List.filter_filter]
  generalize s.members.filter _ = ms
  by_cases hms : ms = []
  · rw [if_pos hms, hms]
    constructor
    · intro h
      cases h
    · intro ⟨hne, hnil⟩
      exact absurd hnil hne
  · rw [if_neg hms, Option.some.injEq, eq_comm, iff_and_self]
    rintro rfl
    exact fun hnil => hms (List.map_eq_nil_iff.mp hnil)

end

/-- The members after any calls on a scene that had none, though the directory may change from one
call to the next. A device is a member while its tenure lasts, and members stand in the order in
which their tenures began, each once. The level and whether the device stores scenes come from the
latest calls that say so. Each group holds the members of its level in their order; each member that
does not store scenes is in one group once, the others in none. -/
theorem members_afterCalls {s : Scene} {h : List MemberCall} (hs : s.members = [])
    (honest : ∀ directory device value, .add directory device value ∈ h → directory.Honest) :
    let t := s.afterCalls h
    t = { s with members := t.members } ∧
      (∀ directory device value, (∃ u, (add directory device value).run t = .ok u) ↔
        ∃ x, directory device = some x) ∧
      (∀ device value, (∃ u, (MemberCall.setValue device value).run t = .ok u) ↔
        tenure device h ≠ []) ∧
      (∀ d, d ∈ t.members.map (·.device) ↔ tenure d h ≠ []) ∧
      (t.members.map (·.device)).Nodup ∧
      ((t.members.map (·.device)).Pairwise fun d e => (tenure e h).length < (tenure d h).length) ∧
      (∀ m ∈ t.members, (tenure m.device h).findSome? (level? m.device) = some m.value ∧
        ∃ x, (tenure m.device h).findSome? (added? m.device) = some x ∧
        m.sceneCapable = x.isSceneCapable) ∧
      (∀ v devices, t.levelGroups.get? v = some devices ↔
        devices ≠ [] ∧
          devices = (t.members.filter fun m => m.value = v && !m.sceneCapable).map (·.device)) ∧
      ∀ m ∈ t.members, (t.levelGroups.toList.flatMap (·.2)).count m.device =
        if m.sceneCapable then 0 else 1 := by
  intro t
  have hms : Recounted h t.members := recounted_afterCalls hs honest
  have hmembers : t = { s with members := t.members } := by
    obtain ⟨ms, ht⟩ := s.afterCalls_eq h
    show s.afterCalls h = { s with members := (s.afterCalls h).members }
    rw [ht]
  refine ⟨hmembers, fun directory device value => exists_run_add_iff value, fun device value => ?_,
    hms.mem_iff, hms.nodup, hms.order, fun m hm => ?_, fun v devices =>
      get?_levelGroups_eq_some_iff,
    fun m hm => count_levelGroups hms.nodup hm⟩
  · rw [exists_run_setValue_iff, Ne, Ne, ← told?_eq_none_iff, ← hms.found]
    rfl
  · have hne := (hms.mem_iff m.device).mp (List.mem_map_of_mem hm)
    obtain ⟨value, x, hvalue, hx⟩ := exists_of_tenure hne
    have htold := hms.told hm
    rw [told?_eq_some hvalue hx, Option.some.injEq] at htold
    rw [← htold]
    exact ⟨hvalue, x, hx, rfl⟩

/-- A directory of nodes that all implement the same command classes. -/
def alikeNodes (classes : List CommandClass) : Directory :=
  fun id => some ⟨id, .other, none, ByteSet.ofList classes⟩

/-- A lamp joins again and so goes last, another stores scenes itself when it is added once more,
one is not known. -/
def rewired : List MemberCall := [
  .setValue ⟨2⟩ 9,
  .add (alikeNodes [.sceneActivation, .sceneActuatorConf]) ⟨3⟩ 7,
  .add (alikeNodes []) ⟨4⟩ 5,
  .setValue ⟨4⟩ 6,
  .remove ⟨4⟩,
  .add (fun _ => none) ⟨5⟩ 1,
  .add (alikeNodes []) ⟨3⟩ 1,
  .add (alikeNodes []) ⟨2⟩ 4,
  .add (alikeNodes []) ⟨4⟩ 8]

theorem members_afterCalls_rewired :
    let t := (new ⟨7, by decide⟩ "evening").afterCalls rewired
    (∀ directory device value, .add directory device value ∈ rewired → directory.Honest) ∧
      t.members = [⟨⟨2⟩, 9, false⟩, ⟨⟨3⟩, 7, true⟩, ⟨⟨4⟩, 5, false⟩] ∧
      (∀ d, d ∈ [⟨2⟩, ⟨3⟩, ⟨4⟩] ↔ tenure d rewired ≠ []) ∧
      (tenure ⟨4⟩ rewired).length < (tenure ⟨3⟩ rewired).length ∧
      t.levelGroups.get? 5 = some [⟨4⟩] ∧ (t.levelGroups.toList.flatMap (·.2)).count ⟨3⟩ = 0 := by
  intro t
  have honest : ∀ directory device value, .add directory device value ∈ rewired →
      directory.Honest := by
    intro directory device value hmem id d hd
    have hdirectory : directory id = none ∨ ∃ classes, directory = alikeNodes classes := by
      simp [rewired] at hmem
      rcases hmem with ⟨rfl, -⟩ | ⟨rfl, -⟩ | ⟨rfl, -⟩ | ⟨rfl, -⟩ | ⟨rfl, -⟩ | ⟨rfl, -⟩ <;> simp
    rcases hdirectory with hnone | ⟨classes, rfl⟩
    · rw [hnone] at hd
      cases hd
    · cases hd
      rfl
  have hmembers : t.members = [⟨⟨2⟩, 9, false⟩, ⟨⟨3⟩, 7, true⟩, ⟨⟨4⟩, 5, false⟩] := by
    decide +kernel
  obtain ⟨-, -, -, hmem, -, horder, -, hgroups, hcount⟩ :=
    members_afterCalls (s := new ⟨7, by decide⟩ "evening") rfl honest
  rw [hmembers] at hmem horder hcount
  refine ⟨honest, hmembers, hmem, ?_, ?_, hcount ⟨⟨3⟩, 7, true⟩ (by simp)⟩
  · exact (List.pairwise_cons.mp (List.pairwise_cons.mp horder).2).1 ⟨4⟩ List.mem_cons_self
  · rw [hgroups, hmembers]
    decide

end Scene

end MeshScenes
