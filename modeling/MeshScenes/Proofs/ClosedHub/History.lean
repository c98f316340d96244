import MeshScenes.Proofs.ClosedHub.Quiet

/-!
# What is told of lights

The hub hears of a keypad's lights in order: its last report, the reports that wait, and at last the
lights as they are now. A relation that holds between each of these and every later one is kept by
all that does not turn lights against it, since asking only repeats the newest.
-/

namespace MeshScenes

def InboundFrame.lightsOf? (d : DeviceId) (f : InboundFrame) : Option UInt8 :=
  match f.payload with
  | [0x03, q] => if f.source = d ∧ f.commandClass = CommandClass.indicator.id then some q else none
  | _ => none

theorem lightsOf?_of_not_tells {d : DeviceId} {f : InboundFrame} (h : f.tells d = false) :
    f.lightsOf? d = none := by
  unfold InboundFrame.lightsOf?
  split
  next =>
    apply if_neg
    rintro ⟨hsource, hclass⟩
    simp [InboundFrame.tells, hsource, hclass] at h
  next => rfl

theorem lightsOf?_of_isPress {d : DeviceId} {f : InboundFrame} (h : f.isPress = true) :
    f.lightsOf? d = none := by
  unfold InboundFrame.lightsOf?
  split
  next =>
    apply if_neg
    rintro ⟨-, hclass⟩
    simp [InboundFrame.isPress, hclass, CommandClass.id] at h
  next => rfl

theorem lightsOf?_lights (d e : DeviceId) (q : UInt8) :
    (InboundFrame.ofClass e .indicator [0x03, q]).lightsOf? d = if e = d then some q else none := by
  simp [InboundFrame.lightsOf?, InboundFrame.ofClass]

/-- The lights of a keypad as the hub hears of them, those of now last. -/
def history (s : Registry × Outlet Network) (d : DeviceId) : List UInt8 :=
  ((s.1.get? d).bind (·.reported)).toList ++ s.2.channel.published.filterMap (·.lightsOf? d) ++
    (s.2.channel.lights? d).toList

/-- Whatever is told of a keypad is related to all that is told later. -/
structure Orderly (rel : DeviceId → UInt8 → UInt8 → Prop) (directory : Directory)
    (s : Registry × Outlet Network) :
    Prop extends Wired directory s where
  told : ∀ d, (history s d).Pairwise (rel d)

namespace Orderly

variable {rel : DeviceId → UInt8 → UInt8 → Prop} {directory : Directory} {r r' : Registry}
  {o o' : Outlet Network} {d : DeviceId} {c : Controller} {l : UInt8}

theorem of_same (h : Orderly rel directory (r, o)) (hn : o'.channel.nodes = o.channel.nodes)
    (hp : o'.channel.published = o.channel.published) : Orderly rel directory (r, o') := by
  refine ⟨h.toWired.of_same hn (by rw [hp]; exact fun _ hf => hf), fun d => ?_⟩
  have hlights : o'.channel.lights? d = o.channel.lights? d := by
    unfold Network.lights?
    rw [hn]
  have htold := h.told d
  unfold history at htold ⊢
  rw [hp, hlights]
  exact htold

theorem of_registry (h : Orderly rel directory (r, o)) (hw : Wired directory (r', o))
    (hr : ∀ d, (r'.get? d).bind (·.reported) = (r.get? d).bind (·.reported) ∨
      (r'.get? d).bind (·.reported) = none) :
    Orderly rel directory (r', o) := by
  refine ⟨hw, fun d => List.Pairwise.sublist ?_ (h.told d)⟩
  unfold history
  rcases hr d with hsame | hnone
  · rw [hsame]
  · rw [hnone, List.append_assoc, List.append_assoc]
    exact List.sublist_append_right _ _

theorem insert (h : Orderly rel directory (r, o)) (hc : r.get? d = some c) {c' : Controller}
    (ha : c.Alike c') (hreported : c'.reported = c.reported) :
    Orderly rel directory (r.insert d c', o) := by
  refine h.of_registry (h.toWired.insert_alike hc ha) fun e => .inl ?_
  rw [ByteMap.get?_insert]
  split
  next he => rw [he, hc]; exact hreported
  next => rfl

theorem forget (h : Orderly rel directory (r, o))
    (hr : ∀ d c, r'.get? d = some c → r.get? d = some c) :
    Orderly rel directory (r', o) := by
  refine h.of_registry (h.toWired.forget hr) fun d => ?_
  cases hd : r'.get? d with
  | none => exact .inr rfl
  | some c => exact .inl (by rw [hr d c hd])

theorem touched [∀ d, IsPreorder UInt8 (rel d)] (h : Orderly rel directory (r, o)) {l₀ : UInt8}
    {new : List InboundFrame} (hl : o.channel.lights? d = some l₀) (hrel : rel d l₀ l)
    (ht : o.channel.Touched d l new o'.channel)
    (hnew : ∀ e, ∀ q ∈ new.filterMap (·.lightsOf? e), e = d ∧ q = l) :
    Orderly rel directory (r, o') := by
  refine ⟨h.toWired.touched ht, fun e => ?_⟩
  have htold := h.told e
  have hpublished : o'.channel.published = o.channel.published ++ new := ht.published
  unfold history at htold ⊢
  rw [hpublished, List.filterMap_append]
  by_cases hed : e = d
  · subst hed
    rw [ht.lights]
    rw [hl] at htold
    obtain ⟨hbefore, -, hnow⟩ := List.pairwise_append.mp htold
    rw [← List.append_assoc, List.append_assoc]
    refine List.pairwise_append.mpr ⟨hbefore, ?_, fun a ha b hb => ?_⟩
    · refine List.pairwise_append.mpr ⟨?_, List.pairwise_singleton _ _, fun a ha b hb => ?_⟩
      · refine List.pairwise_of_forall_mem_list fun a ha b hb => ?_
        rw [(hnew e a ha).2, (hnew e b hb).2]
        exact refl_of (rel e) l
      · rw [(hnew e a ha).2, List.mem_singleton.mp hb]
        exact refl_of (rel e) l
    · have hb : b = l := by
        rcases List.mem_append.mp hb with hb | hb
        · exact (hnew e b hb).2
        · exact List.mem_singleton.mp hb
      rw [hb]
      exact trans_of (rel e) (hnow a ha l₀ (List.mem_singleton.mpr rfl)) hrel
  · have hnone : new.filterMap (·.lightsOf? e) = [] :=
      List.eq_nil_iff_forall_not_mem.mpr fun q hq => hed (hnew e q hq).1
    rw [hnone, List.append_nil, ht.others e hed]
    exact htold

theorem told_lights [∀ d, IsPreorder UInt8 (rel d)] (h : Orderly rel directory (r, o)) {l₀ : UInt8}
    (hl : o.channel.lights? d = some l₀) (hrel : rel d l₀ l) (ht : o.channel.Told d l o'.channel) :
    Orderly rel directory (r, o') := by
  refine h.touched hl hrel ht fun e q hq => ?_
  simp only [List.filterMap_cons, lightsOf?_lights, List.filterMap_nil] at hq
  split at hq
  next hnone => cases hq
  next q' hsome =>
    split at hsome
    · cases hsome
      exact ⟨Eq.symm ‹_›, List.mem_singleton.mp hq⟩
    · cases hsome

theorem send (h : Orderly rel directory (r, o)) {f : OutboundFrame}
    (hf : f.commandClass ≠ .indicator) :
    Orderly rel directory (r, (o.send f).2) := by
  refine ⟨h.toWired.send f, fun d => ?_⟩
  have htold := h.told d
  have hpublished : (o.send f).2.channel.published = o.channel.published ++ o.channel.replies f :=
    Network.published_deliver _ f
  have hlights : (o.send f).2.channel.lights? d = o.channel.lights? d :=
    Network.lights?_deliver_of_ne_indicator _ hf d
  have hnone : (o.channel.replies f).filterMap (·.lightsOf? d) = [] := by
    rw [List.filterMap_eq_nil_iff]
    intro g hg
    exact lightsOf?_of_not_tells (Network.tells_replies_of_ne_indicator hf g hg d)
  unfold history at htold ⊢
  rw [hpublished, hlights, List.filterMap_append, hnone, List.append_nil]
  exact htold

end Orderly

/-! ## The oldest frame -/

namespace ClosedHub

variable {rel : DeviceId → UInt8 → UInt8 → Prop} {directory : Directory} {h : ClosedHub}
  {f : InboundFrame} {rest : List InboundFrame} {d : DeviceId} {c : Controller} {q : UInt8}

theorem orderly_popped (ho : Orderly rel directory (h.manager.controllers, Outlet.opened h.network))
    (hw : h.waiting = f :: rest) :
    Orderly rel directory (h.manager.controllers, (h.popped rest).2) := by
  have hpublished : h.network.published = f :: rest := hw
  refine ⟨ho.toWired.of_same rfl fun g hg => ?_, fun d => List.Pairwise.sublist ?_ (ho.told d)⟩
  · show g ∈ h.network.published
    rw [hpublished]
    exact List.mem_cons_of_mem _ hg
  · show List.Sublist (_ ++ rest.filterMap _ ++ _) (_ ++ h.network.published.filterMap _ ++ _)
    rw [hpublished]
    refine List.Sublist.append_right (List.Sublist.append_left ?_ _) _
    exact (List.sublist_cons_self f rest).filterMap _

theorem orderly_reported
    (ho : Orderly rel directory (h.manager.controllers, Outlet.opened h.network))
    (hw : h.waiting = .ofClass d .indicator [0x03, q] :: rest)
    (hc : h.manager.controllers.get? d = some c) :
    Orderly rel directory ((h.manager.reported d c q).controllers, (h.popped rest).2) := by
  have hpopped := orderly_popped ho hw
  have hpublished : h.network.published = .ofClass d .indicator [0x03, q] :: rest := hw
  refine ⟨hpopped.toWired.insert_alike hc (Controller.alike_handleReport c q), fun e => ?_⟩
  by_cases hed : e = d
  · refine List.Pairwise.sublist ?_ (ho.told e)
    show List.Sublist
      ((((h.manager.controllers.insert d (c.handleReport q).1).get? e).bind _).toList ++
      rest.filterMap _ ++ _) (_ ++ h.network.published.filterMap _ ++ _)
    rw [ByteMap.get?_insert, if_pos hed, hpublished, List.filterMap_cons, lightsOf?_lights,
      if_pos hed.symm]
    refine List.Sublist.append_right ?_ _
    show List.Sublist (q :: _) (_ ++ q :: _)
    exact List.sublist_append_right _ _
  · have hsame : ((h.manager.reported d c q).controllers.get? e) =
        h.manager.controllers.get? e := by
      show (h.manager.controllers.insert d _).get? e = _
      rw [ByteMap.get?_insert, if_neg hed]
    have htold := hpopped.told e
    unfold history at htold ⊢
    rw [hsame]
    exact htold

theorem rel_of_orderly {p : UInt8}
    (ho : Orderly rel directory (h.manager.controllers, Outlet.opened h.network))
    (hw : h.waiting = .ofClass d .indicator [0x03, q] :: rest)
    (hc : h.manager.controllers.get? d = some c) (hp : c.reported = some p) : rel d p q := by
  have htold := ho.told d
  have hpublished : h.network.published = .ofClass d .indicator [0x03, q] :: rest := hw
  change List.Pairwise (rel d) (((h.manager.controllers.get? d).bind (·.reported)).toList ++
    h.network.published.filterMap _ ++ _) at htold
  rw [hc, hpublished, List.filterMap_cons, lightsOf?_lights, if_pos rfl] at htold
  simp only [Option.bind_some, hp, Option.toList_some] at htold
  exact List.rel_of_pairwise_cons htold (by simp)

theorem rel_lights_of_orderly {l : UInt8}
    (ho : Orderly rel directory (h.manager.controllers, Outlet.opened h.network))
    (hw : h.waiting = .ofClass d .indicator [0x03, q] :: rest) (hl : h.network.lights? d = some l) :
    rel d q l := by
  have htold := ho.told d
  have hpublished : h.network.published = .ofClass d .indicator [0x03, q] :: rest := hw
  change List.Pairwise (rel d)
    (_ ++ h.network.published.filterMap _ ++ (h.network.lights? d).toList) at htold
  rw [hl, hpublished, List.filterMap_cons, lightsOf?_lights, if_pos rfl] at htold
  exact (List.pairwise_append.mp htold).2.2 q (by simp) l (by simp)

theorem Fit.orderly (hf : h.Fit) (hquiet : h.waiting = []) [∀ d, IsPreorder UInt8 (rel d)] :
    Orderly rel h.network.directory (h.manager.controllers, Outlet.opened h.network) := by
  refine ⟨hf.toWired, fun d => ?_⟩
  have hpublished : h.network.published = [] := hquiet
  show List.Pairwise (rel d) (((h.manager.controllers.get? d).bind (·.reported)).toList ++
    h.network.published.filterMap _ ++ (h.network.lights? d).toList)
  rw [hpublished, List.filterMap_nil, List.append_nil]
  cases hc : h.manager.controllers.get? d with
  | none => cases h.network.lights? d <;> simp
  | some c =>
    obtain ⟨k, hk, -, -, hreported⟩ := hf.settled hquiet hc
    simp only [Option.bind_some, hreported, Option.toList_some]
    rw [Network.lights?_of_keypad hk]
    simp [refl_of (rel d) k.lights]

end ClosedHub

end MeshScenes
