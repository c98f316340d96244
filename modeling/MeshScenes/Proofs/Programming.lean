import Mathlib.Data.List.Induction
import MeshScenes.Proofs.Switching

/-!
# The frames of a scene

What is sent when a scene is programmed: a list that is fixed by the scene alone, once its
controllers are registered and support what they are asked for. `filter_programFrames` picks out
what one node gets.
-/

namespace MeshScenes

/-! ## The requests as frames -/

namespace OutboundFrame

def clearGroup (d : DeviceId) (b : ButtonId) : OutboundFrame := ⟨d, .association, [0x04, b.byte]⟩

def joinGroup (d : DeviceId) (b : ButtonId) (devices : List DeviceId) : OutboundFrame :=
  ⟨d, .association, 0x01 :: b.byte :: devices.map DeviceId.byte⟩

def storeLevel (d : DeviceId) (b : ButtonId) (level : UInt8) : OutboundFrame :=
  ⟨d, .configuration, [0x04, b.byte, 1, level]⟩

def bindGroup (d : DeviceId) (b : ButtonId) (scene : SceneId) (duration : Duration) :
    OutboundFrame :=
  ⟨d, .sceneControllerConf, [0x01, b.byte, scene.byte, duration.byte]⟩

def storeScene (m : Member) (scene : SceneId) (duration : Duration) (overrideLevel : Bool) :
    OutboundFrame :=
  ⟨m.device, .sceneActuatorConf,
    [0x01, scene.byte, duration.byte, if overrideLevel then 0x80 else 0, m.value]⟩

end OutboundFrame

namespace Request

theorem frame_associationClear (d : DeviceId) (b : ButtonId) :
    (associationClear b.byte.toUInt32).frame d = .ok (.clearGroup d b) := by
  simp only [frame, encode, WireField.narrow_toUInt32]
  rfl

theorem frame_associationSet (d : DeviceId) (b : ButtonId) (devices : List DeviceId) :
    (associationSet b.byte.toUInt32 devices).frame d = .ok (.joinGroup d b devices) := by
  simp only [frame, encode, WireField.narrow_toUInt32]
  rfl

theorem frame_configurationSet (d : DeviceId) (b : ButtonId) (level : UInt8) :
    (configurationSet b.byte.toUInt32 level.toUInt32).frame d = .ok (.storeLevel d b level) := by
  simp only [frame, encode, WireField.narrow_toUInt32]
  rfl

theorem frame_controllerSet (d : DeviceId) (b : ButtonId) (scene : SceneId) (duration : Duration) :
    (controllerSet b.byte.toUInt32 scene.byte.toUInt32 duration.byte.toUInt32).frame d =
      .ok (.bindGroup d b scene duration) := by
  simp only [frame, encode, WireField.narrow_toUInt32]
  rfl

theorem frame_actuatorSet (m : Member) (scene : SceneId) (duration : Duration)
    (overrideLevel : Bool) :
    (actuatorSet scene.byte.toUInt32 m.value.toUInt32 duration.byte.toUInt32 overrideLevel).frame
      m.device =
      .ok (.storeScene m scene duration overrideLevel) := by
  simp only [frame, encode, WireField.narrow_toUInt32]
  rfl

end Request

/-! ## Frames up to a refusal -/

section
variable {σ χ α β : Type} [Channel χ] {fs gs pre post : List OutboundFrame} {f : OutboundFrame}
  {cause : TransportFailure}

namespace Channel

/-- The channel takes frames that are handed to it one after the other. -/
def Takes : List OutboundFrame → χ → Prop
  | [], _ => True
  | f :: fs, c => (send f c).refusal = none ∧ Takes fs (send f c).channel

/-- The channel takes some frames, and refuses the next one. -/
def RefusesAfter (pre : List OutboundFrame) (f : OutboundFrame) (cause : TransportFailure) (c : χ) :
    Prop :=
  Takes pre c ∧ (send f (sendAll pre c)).refusal = some cause

theorem sendAll_append (c : χ) :
    sendAll (fs ++ gs) c = sendAll gs (sendAll fs c) := List.foldl_append

theorem takes_append {c : χ} : Takes (fs ++ gs) c ↔ Takes fs c ∧ Takes gs (sendAll fs c) := by
  induction fs generalizing c with
  | nil => simp [Takes, sendAll]
  | cons f fs ih =>
    rw [List.cons_append, Takes, Takes, ih, and_assoc]
    rfl

theorem refusesAfter_append {c : χ} :
    RefusesAfter (fs ++ gs) f cause c ↔ Takes fs c ∧ RefusesAfter gs f cause (sendAll fs c) := by
  unfold RefusesAfter
  rw [takes_append, sendAll_append, and_assoc]

theorem Accepts.takes {c : χ} (h : Accepts c) (fs : List OutboundFrame) : Takes fs c := by
  induction fs generalizing c with
  | nil => trivial
  | cons f fs ih => exact ⟨h [] f, ih fun gs => h (f :: gs)⟩

end Channel

namespace Outlet

theorem sendAll_of_takes {o : Outlet χ} (h : Channel.Takes fs o.channel) :
    ∃ o', o.sendAll fs = (none, o') ∧ Took fs o o' := by
  induction fs generalizing o with
  | nil => exact ⟨o, rfl, rfl, (List.append_nil _).symm⟩
  | cons f fs ih =>
    obtain ⟨hf, hfs⟩ := h
    have htook : Took [f] o (o.send f).2 := ⟨rfl, by simp [send, hf]⟩
    obtain ⟨o', hrun, htook'⟩ := ih (o := (o.send f).2) hfs
    refine ⟨o', ?_, htook.trans htook'⟩
    rw [← hrun, sendAll]
    simp [send, hf]

theorem sendAll_of_refuses {o : Outlet χ} (h : Channel.RefusesAfter pre f cause o.channel) :
    ∃ o', o.sendAll (pre ++ f :: post) = (some cause, o') ∧ Stopped pre f o o' := by
  induction pre generalizing o with
  | nil =>
    have hf : (Channel.send f o.channel).refusal = some cause := h.2
    refine ⟨(o.send f).2, ?_, ⟨by simp [send, hf]⟩⟩
    rw [List.nil_append, sendAll]
    simp [send, hf]
  | cons g pre ih =>
    obtain ⟨⟨hg, hpre⟩, hf⟩ := h
    have htook : Took [g] o (o.send g).2 := ⟨rfl, by simp [send, hg]⟩
    obtain ⟨o', hrun, hstopped⟩ := ih (o := (o.send g).2) ⟨hpre, hf⟩
    refine ⟨o', ?_, htook.stopped hstopped⟩
    rw [← hrun, List.cons_append, sendAll]
    simp [send, hg]

end Outlet

namespace Act

/-- The operation leaves its subject and sends some frames in order. It succeeds if the channel
takes all of them, and otherwise fails with the first refusal, nothing being tried after it. -/
structure Transmits (x : Act σ χ α) (fs : List OutboundFrame) (a : α) : Prop where
  taken : ∀ s : σ × Outlet χ, Channel.Takes fs s.2.channel →
    ∃ o', x s = .ok a (s.1, o') ∧ Outlet.Took fs s.2 o'
  refused : ∀ (s : σ × Outlet χ) pre f post cause, fs = pre ++ f :: post →
    Channel.RefusesAfter pre f cause s.2.channel →
    ∃ o', x s = .error (.transport cause) (s.1, o') ∧ Outlet.Stopped pre f s.2 o'

theorem transmits_pure (a : α) : (pure a : Act σ χ α).Transmits [] a := by
  refine ⟨fun s _ => ⟨s.2, rfl, rfl, (List.append_nil _).symm⟩, ?_⟩
  intro s pre f post cause hsplit
  simp at hsplit

theorem Transmits.after_of {b : β} {g : β → Act σ χ α} {a : α} (hg : (g b).Transmits fs a) :
    (of (.ok b) >>= g).Transmits fs a := ⟨hg.taken, hg.refused⟩

theorem Transmits.after_note {e : Journal.Entry} {g : Unit → Act σ χ α} {a : α}
    (hg : (g ()).Transmits fs a) :
    (note e >>= g).Transmits fs a := by
  constructor
  · intro s hs
    obtain ⟨o', hrun, htook⟩ := hg.taken (s.1, s.2.note e) hs
    exact ⟨o', hrun, htook.channel, htook.attempts⟩
  · intro s pre f post cause hsplit hs
    obtain ⟨o', hrun, hstopped⟩ := hg.refused (s.1, s.2.note e) pre f post cause hsplit hs
    exact ⟨o', hrun, ⟨hstopped.attempts⟩⟩

theorem transmits_requests {rs : List (DeviceId × Request)}
    (h : List.Forall₂ (fun r f => r.2.frame r.1 = .ok f) rs fs) :
    (requests rs : Act σ χ Unit).Transmits fs () := by
  constructor
  · intro s hs
    obtain ⟨o', hsend, htook⟩ := Outlet.sendAll_of_takes hs
    refine ⟨o', ?_, htook⟩
    rw [run_requests h, hsend]
  · rintro s pre f post cause rfl hs
    obtain ⟨o', hsend, hstopped⟩ := Outlet.sendAll_of_refuses hs
    refine ⟨o', ?_, hstopped⟩
    rw [run_requests h, hsend]

theorem Transmits.bind {x : Act σ χ β} {g : β → Act σ χ α} {b : β} {a : α} (hx : x.Transmits fs b)
    (hg : (g b).Transmits gs a) : (x >>= g).Transmits (fs ++ gs) a := by
  constructor
  · intro s hs
    obtain ⟨hfs, hgs⟩ := Channel.takes_append.mp hs
    obtain ⟨o, hrun, htook⟩ := hx.taken s hfs
    rw [← htook.channel] at hgs
    obtain ⟨o', hrun', htook'⟩ := hg.taken (s.1, o) hgs
    refine ⟨o', ?_, htook.trans htook'⟩
    rw [run_bind, hrun]
    exact hrun'
  · intro s pre f post cause hsplit hs
    -- The refused frame is behind the first operation's frames, or among them.
    rcases List.append_eq_append_iff.mp hsplit with ⟨mid, rfl, hrest⟩ | ⟨mid, rfl, hrest⟩
    · obtain ⟨hfs, hrefuses⟩ := Channel.refusesAfter_append.mp hs
      obtain ⟨o, hrun, htook⟩ := hx.taken s hfs
      rw [← htook.channel] at hrefuses
      obtain ⟨o', hrun', hstopped⟩ := hg.refused (s.1, o) mid f post cause hrest hrefuses
      refine ⟨o', ?_, htook.stopped hstopped⟩
      rw [run_bind, hrun]
      exact hrun'
    · cases mid with
      | nil =>
        rw [List.append_nil] at hx
        obtain ⟨o, hrun, htook⟩ := hx.taken s hs.1
        have hrefuses : Channel.RefusesAfter [] f cause o.channel :=
          ⟨trivial, by rw [htook.channel]; exact hs.2⟩
        obtain ⟨o', hrun', hstopped⟩ := hg.refused (s.1, o) [] f post cause hrest.symm hrefuses
        refine ⟨o', ?_, by simpa using htook.stopped hstopped⟩
        rw [run_bind, hrun]
        exact hrun'
      | cons g mid =>
        cases hrest
        obtain ⟨o', hrun, hstopped⟩ := hx.refused s pre f mid cause rfl hs
        refine ⟨o', ?_, hstopped⟩
        rw [run_bind, hrun]

/-- The operation succeeds, leaves its subject and has the frames taken, if the channel refuses
nothing. -/
def Delivers (x : Act σ χ α) (fs : List OutboundFrame) : Prop :=
  ∀ s : σ × Outlet χ, Channel.Accepts s.2.channel →
    ∃ a o', x s = .ok a (s.1, o') ∧ Outlet.Took fs s.2 o'

theorem Transmits.delivers {x : Act σ χ α} {a : α} (h : x.Transmits fs a) : x.Delivers fs :=
  fun s hs => ⟨a, h.taken s (hs.takes fs)⟩

end Act

end

namespace Scene

/-! ## The four phases -/

/-- The devices that an activation reaches: they join every group of the scene. -/
def listeners (s : Scene) (coordinator : DeviceId) : List DeviceId :=
  s.capableMembers.map (·.device) ++ [coordinator]

section
variable (s : Scene) (coordinator : DeviceId) (stations : List (DeviceId × ButtonId))
  (levels : List (UInt8 × List DeviceId))

def resetFrames : List OutboundFrame := stations.flatMap fun e => [.clearGroup e.1 e.2]

def groupedFrames : List OutboundFrame :=
  levels.flatMap fun g => stations.flatMap fun e =>
    [.joinGroup e.1 e.2 g.2, .storeLevel e.1 e.2 g.1]

def controllerFrames : List OutboundFrame :=
  stations.flatMap fun e =>
    [.bindGroup e.1 e.2 s.id s.duration, .joinGroup e.1 e.2 (s.listeners coordinator)]

def capableFrames : List OutboundFrame :=
  s.capableMembers.flatMap fun m => [.storeScene m s.id s.duration s.overrideLevel]

/-- The frames of the four phases, for controllers with their buttons and for levels with the
members that go to them. -/
def phaseFrames : List OutboundFrame :=
  resetFrames stations ++
    (groupedFrames stations levels ++ (s.controllerFrames coordinator stations ++ s.capableFrames))

def programFrames : List OutboundFrame :=
  s.phaseFrames coordinator s.controllers.toList s.levelGroups.toList

end

abbrev Asks (rs : List (DeviceId × Request)) (fs : List OutboundFrame) : Prop :=
  List.Forall₂ (fun r f => r.2.frame r.1 = .ok f) rs fs

section
variable {s : Scene} {l : List (Controller × ButtonId)} {es : List (DeviceId × ButtonId)}
  (hl : List.Forall₂ (fun x e => x.1.device = e.1 ∧ x.2 = e.2) l es)
include hl

theorem asks_resets (coordinator : DeviceId) :
    Asks (s.planFor l coordinator).resets (resetFrames es) := by
  unfold resetFrames
  rw [← List.map_eq_flatMap]
  refine List.rel_map (R := fun x e => x.1.device = e.1 ∧ x.2 = e.2) ?_ hl
  intro ⟨c, b⟩ ⟨d, e⟩ ⟨hd, he⟩
  subst hd he
  exact Request.frame_associationClear c.device b

theorem asks_grouped (coordinator : DeviceId) :
    Asks (s.planFor l coordinator).grouped (groupedFrames es s.levelGroups.toList) := by
  refine List.rel_flatMap (R := Eq) (List.forall₂_refl _) ?_
  intro g _ hg
  subst hg
  refine List.rel_flatMap hl ?_
  intro ⟨c, b⟩ ⟨d, e⟩ ⟨hd, he⟩
  subst hd he
  exact .cons (Request.frame_associationSet _ _ _)
    (.cons (Request.frame_configurationSet _ _ _) .nil)

theorem asks_controllers (coordinator : DeviceId) :
    Asks (s.planFor l coordinator).controllers (s.controllerFrames coordinator es) := by
  refine List.rel_flatMap hl ?_
  intro ⟨c, b⟩ ⟨d, e⟩ ⟨hd, he⟩
  subst hd he
  exact .cons (Request.frame_controllerSet _ _ _ _)
    (.cons (Request.frame_associationSet _ _ _) .nil)

omit hl in
theorem asks_capable (coordinator : DeviceId) :
    Asks (s.planFor l coordinator).capable s.capableFrames := by
  unfold capableFrames
  rw [← List.map_eq_flatMap]
  refine List.rel_map (R := Eq) ?_ (List.forall₂_refl _)
  intro m _ hm
  subst hm
  exact Request.frame_actuatorSet m s.id s.duration s.overrideLevel

end

/-! ## Carrying the plan out -/

/-- The controllers of the scene are registered under their devices and support what programming
asks of them. -/
def Programmable (s : Scene) (r : Registry) : Prop :=
  ∀ d b, s.button? d = some b → ∃ c, r.get? d = some c ∧ c.device = d ∧
    c.supportsAssociation = true ∧ c.supportsConfiguration = true

theorem Obstacle.of_served {s : Scene} {r : Registry} {e : Error} (he : s.Obstacle r e)
    (hserved : s.Served r) :
    ∃ d b c needed, s.button? d = some b ∧ r.get? d = some c ∧
      (c.supportsAssociation = false ∨ c.supportsConfiguration = false) ∧
      e = .unsupported c.device needed := by
  cases he with
  | missing hb hnone =>
    obtain ⟨c, hc, -⟩ := hserved _ _ hb
    rw [hnone] at hc
    cases hc
  | unbound hb hc hunbound =>
    obtain ⟨c, hc', hdrivable⟩ := hserved _ _ hb
    rw [hc] at hc'
    cases hc'
    rw [hdrivable.1] at hunbound
    cases hunbound
  | noGroups hb hc hnot => exact ⟨_, _, _, _, hb, hc, .inl hnot, rfl⟩
  | noLevels hb hc _ hnot => exact ⟨_, _, _, _, hb, hc, .inr hnot, rfl⟩

theorem plan_of_programmable {s : Scene} {r : Registry} (hserved : s.Served r)
    (hr : s.Programmable r) (coordinator : DeviceId) :
    ∃ l, s.plan r coordinator = .ok (s.planFor l coordinator) ∧
      List.Forall₂ (fun x e => x.1.device = e.1 ∧ x.2 = e.2) l s.controllers.toList := by
  rcases s.plan_spec r coordinator with ⟨l, hplan, hl, -⟩ | ⟨e, -, he⟩
  · refine ⟨l, hplan, hl.imp ?_⟩
    rintro x e ⟨hb, hc, -, hx⟩
    obtain ⟨c, hc', hdevice, -⟩ := hr e.1 e.2 hb
    rw [hc] at hc'
    cases hc'
    exact ⟨hdevice, hx⟩
  · obtain ⟨d, b, c, needed, hb, hc, hlacks, -⟩ := he.of_served hserved
    obtain ⟨c', hc', -, hassociation, hconfiguration⟩ := hr d b hb
    rw [hc] at hc'
    cases hc'
    simp [hassociation, hconfiguration] at hlacks

variable {σ χ : Type} [Channel χ]

theorem transmits_program {s : Scene} {r : Registry} {l : List (Controller × ButtonId)}
    {es : List (DeviceId × ButtonId)} {coordinator : DeviceId}
    (hplan : s.plan r coordinator = .ok (s.planFor l coordinator))
    (hl : List.Forall₂ (fun x e => x.1.device = e.1 ∧ x.2 = e.2) l es) :
    (s.program r coordinator : Act σ χ ProgramSummary).Transmits
      (s.phaseFrames coordinator es s.levelGroups.toList)
      ⟨(s.planFor l coordinator).resets.length, (s.planFor l coordinator).grouped.length,
        (s.planFor l coordinator).controllers.length,
        (s.planFor l coordinator).capable.length⟩ := by
  unfold program phaseFrames
  rw [hplan, ← List.append_nil s.capableFrames]
  apply Act.Transmits.after_of
  apply (Act.transmits_requests (asks_resets hl coordinator)).bind
  apply Act.Transmits.after_note
  apply (Act.transmits_requests (asks_grouped hl coordinator)).bind
  apply Act.Transmits.after_note
  apply (Act.transmits_requests (asks_controllers hl coordinator)).bind
  apply Act.Transmits.after_note
  apply (Act.transmits_requests (asks_capable coordinator)).bind
  apply Act.Transmits.after_note
  exact Act.transmits_pure _

theorem delivers_program {s : Scene} {r : Registry} (hserved : s.Served r) (hr : s.Programmable r)
    (coordinator : DeviceId) :
    (s.program r coordinator : Act σ χ ProgramSummary).Delivers (s.programFrames coordinator) := by
  obtain ⟨l, hplan, hl⟩ := plan_of_programmable hserved hr coordinator
  exact (transmits_program hplan hl).delivers

/-! ## Levels -/

/-- The highest level that a grouped member goes to. -/
def topLevel? (s : Scene) : Option UInt8 := (s.groupedMembers.map (·.value)).max?

theorem get?_levelGroups (s : Scene) (v : UInt8) :
    s.levelGroups.get? v = if s.groupedMembers.filter (·.value = v) = [] then none
      else some ((s.groupedMembers.filter (·.value = v)).map (·.device)) := by
  unfold levelGroups
  induction s.groupedMembers using List.reverseRecOn with
  | nil => rfl
  | append_singleton l m ih =>
    rw [List.foldl_append, List.foldl_cons, List.foldl_nil, ByteMap.get?_insert, List.filter_append]
    by_cases hm : v = m.value
    · subst hm
      rw [ih]
      by_cases hl : l.filter (·.value = m.value) = []
      · simp [hl]
      · simp [hl]
    · have : ¬ m.value = v := fun h => hm h.symm
      rw [ih]
      simp [hm, this]

theorem mem_levelGroups_device (s : Scene) (d : DeviceId) :
    d ∈ s.levelGroups.toList.flatMap (·.2) ↔ ∃ m ∈ s.groupedMembers, m.device = d := by
  simp only [List.mem_flatMap, Prod.exists, ← ByteMap.get?_eq_some_iff, get?_levelGroups]
  constructor
  · intro ⟨v, ds, hds, hd⟩
    split at hds
    · cases hds
    · cases hds
      obtain ⟨m, hm, hmd⟩ := List.mem_map.mp hd
      exact ⟨m, (List.mem_filter.mp hm).1, hmd⟩
  · intro ⟨m, hm, hmd⟩
    have hmem : m ∈ s.groupedMembers.filter (·.value = m.value) := List.mem_filter.mpr ⟨hm, by simp⟩
    refine ⟨m.value, _, if_neg (List.ne_nil_of_mem hmem), ?_⟩
    rw [← hmd]
    exact List.mem_map_of_mem hmem

theorem mem_levels (s : Scene) (v : UInt8) :
    v ∈ s.levelGroups.keys ↔ v ∈ s.groupedMembers.map (·.value) := by
  rw [ByteMap.mem_keys_iff, ByteMap.contains, get?_levelGroups, List.mem_map]
  by_cases h : s.groupedMembers.filter (·.value = v) = []
  · rw [if_pos h]
    simpa using h
  · obtain ⟨m, hm⟩ := List.exists_mem_of_ne_nil _ h
    simp only [List.mem_filter, decide_eq_true_eq] at hm
    simp only [h, ite_false, Option.isSome_some, true_iff]
    exact ⟨m, hm⟩

instance : Std.LawfulOrderMax UInt8 where
  max_eq_or a b := by
    show (if a ≤ b then b else a) = a ∨ (if a ≤ b then b else a) = b
    split <;> simp
  max_le_iff a b c := by
    show (if a ≤ b then b else a) ≤ c ↔ a ≤ c ∧ b ≤ c
    simp only [UInt8.le_iff_toNat_le]
    split <;> omega

theorem getLast?_levelGroups (s : Scene) :
    s.levelGroups.toList.getLast?.map (·.1) = s.topLevel? := by
  have hlevels := s.mem_levels
  unfold topLevel?
  generalize s.groupedMembers.map (·.value) = values at hlevels
  rcases List.eq_nil_or_concat s.levelGroups.toList with h | ⟨l, g, h⟩
  · unfold ByteMap.keys at hlevels
    simp only [h, List.map_nil, List.not_mem_nil, false_iff] at hlevels
    rw [h, List.eq_nil_iff_forall_not_mem.mpr hlevels]
    rfl
  · have hascending := s.levelGroups.ascending
    unfold ByteMap.keys at hlevels
    simp only [h, List.concat_eq_append, List.pairwise_append, List.mem_singleton,
      forall_eq] at hascending hlevels ⊢
    rw [List.getLast?_concat, Option.map_some, eq_comm, List.max?_eq_some_iff]
    refine ⟨(hlevels g.1).mp (by simp), fun v hv => ?_⟩
    have hv := (hlevels v).mpr hv
    simp only [List.map_append, List.map_cons, List.map_nil, List.mem_append,
      List.mem_singleton] at hv
    rcases hv with hv | rfl
    · obtain ⟨e, he, rfl⟩ := List.mem_map.mp hv
      exact UInt8.le_iff_toNat_le.mpr (Nat.le_of_lt (hascending.2.2 e he))
    · exact UInt8.le_refl _

/-! ## What one node gets -/

def groupFrames (s : Scene) (coordinator : DeviceId) (d : DeviceId) (b : ButtonId) :
    List OutboundFrame :=
  [.clearGroup d b] ++
    ((s.levelGroups.toList.flatMap fun g => [.joinGroup d b g.2, .storeLevel d b g.1]) ++
      [.bindGroup d b s.id s.duration, .joinGroup d b (s.listeners coordinator)])

def memberFrames (s : Scene) (m : Member) : List OutboundFrame :=
  if m.sceneCapable then [.storeScene m s.id s.duration s.overrideLevel] else []

theorem filter_flatMap_destination {ι : Type} {own : ι → DeviceId} {f : ι → List OutboundFrame}
    (hf : ∀ i, ∀ x ∈ f i, x.destination = own i) (d : DeviceId) (l : List ι)
    (hl : (l.map own).Nodup) :
    (l.flatMap f).filter (·.destination = d) = ((l.find? (own · = d)).map f).getD [] := by
  induction l with
  | nil => rfl
  | cons i l ih =>
    obtain ⟨hi, hl⟩ := List.nodup_cons.mp hl
    rw [List.flatMap_cons, List.filter_append, ih hl]
    by_cases hd : own i = d
    · have hhead : (f i).filter (·.destination = d) = f i := by
        rw [List.filter_eq_self]
        intro x hx
        simp [hf i x hx, hd]
      have htail : l.find? (own · = d) = none := by
        rw [List.find?_eq_none]
        intro j hj hown
        apply hi
        rw [hd, ← of_decide_eq_true hown]
        exact List.mem_map_of_mem hj
      simp [hhead, htail, hd]
    · have hhead : (f i).filter (·.destination = d) = [] := by
        rw [List.filter_eq_nil_iff]
        intro x hx
        simp [hf i x hx, hd]
      simp [hhead, hd]

section
variable (s : Scene) (d : DeviceId)

theorem find?_controllers :
    s.controllers.toList.find? (·.1 = d) = (s.button? d).map fun b => (d, b) := by
  unfold button? ByteMap.get?
  simp only [ByteKey.rank_eq_iff]
  cases h : s.controllers.toList.find? (·.1 = d) with
  | none => rfl
  | some e =>
    have := List.find?_some h
    simp at this
    simp [← this]

variable {s d}

theorem filter_flatMap_controllers {f : DeviceId × ButtonId → List OutboundFrame}
    (hf : ∀ e, ∀ x ∈ f e, x.destination = e.1) :
    (s.controllers.toList.flatMap f).filter (·.destination = d) =
      ((s.button? d).map fun b => f (d, b)).getD [] := by
  rw [filter_flatMap_destination hf d _ s.controllers.nodup_keys, find?_controllers, Option.map_map]
  rfl

theorem filter_capableFrames (h : (s.members.map (·.device)).Nodup) :
    s.capableFrames.filter (·.destination = d) = ((s.member? d).map s.memberFrames).getD [] := by
  have hall : s.capableFrames = s.members.flatMap s.memberFrames := by
    unfold capableFrames capableMembers memberFrames
    induction s.members with
    | nil => rfl
    | cons m l ih =>
      by_cases hm : m.sceneCapable = true
      · simp [hm, ih]
      · simp [hm, ih]
  rw [hall, filter_flatMap_destination _ d _ h]
  · rfl
  · intro m x hx
    unfold memberFrames at hx
    split at hx
    · rw [List.mem_singleton.mp hx]
      rfl
    · cases hx

theorem filter_programFrames (h : (s.members.map (·.device)).Nodup) (coordinator : DeviceId) :
    (s.programFrames coordinator).filter (·.destination = d) =
      ((s.button? d).map (s.groupFrames coordinator d)).getD [] ++
        ((s.member? d).map s.memberFrames).getD [] := by
  have hresets : (resetFrames s.controllers.toList).filter (·.destination = d) =
      ((s.button? d).map fun b => [.clearGroup d b]).getD [] := by
    apply filter_flatMap_controllers
    intro e x hx
    rw [List.mem_singleton.mp hx]
    rfl
  have hgrouped :
      (groupedFrames s.controllers.toList s.levelGroups.toList).filter (·.destination = d) =
      s.levelGroups.toList.flatMap fun g =>
        ((s.button? d).map fun b => [.joinGroup d b g.2, .storeLevel d b g.1]).getD [] := by
    unfold groupedFrames
    rw [List.filter_flatMap]
    congr 1
    funext g
    apply filter_flatMap_controllers
    intro e x hx
    rcases List.mem_pair.mp hx with rfl | rfl <;> rfl
  have hcontrollers :
      (s.controllerFrames coordinator s.controllers.toList).filter (·.destination = d) =
      ((s.button? d).map fun b =>
        [.bindGroup d b s.id s.duration, .joinGroup d b (s.listeners coordinator)]).getD [] := by
    apply filter_flatMap_controllers
    intro e x hx
    rcases List.mem_pair.mp hx with rfl | rfl <;> rfl
  unfold programFrames phaseFrames groupFrames
  rw [List.filter_append, List.filter_append, List.filter_append, hresets, hgrouped, hcontrollers,
    filter_capableFrames h]
  cases s.button? d with
  | none => simp
  | some b => simp

end

end Scene

end MeshScenes
