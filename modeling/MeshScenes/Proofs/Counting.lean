import MeshScenes.Proofs.Retrying
import MeshScenes.Proofs.Controller.History

/-!
# What a scene counts when it switches lights

Activating a scene and carrying a change of its light over both answer a number, which is meant to
be that of the controllers that were written to. What is counted is the pictures that change;
`Switched` follows them through a run, whatever the channel does. `counts_iff`: the number is right
exactly if every controller whose picture changes has lights to write.
-/

namespace MeshScenes

def OutboundFrame.setsLights (f : OutboundFrame) : Bool :=
  f.commandClass = .indicator ∧ f.command? = some 0x01

theorem Controller.answer_setButton {c : Controller} {b : ButtonId} {on : Bool} {x : Reaction Bool}
    (h : c.setButton b on = .ok x) : x.answer = (c.isOn b != on) := by
  obtain ⟨hbound, haccepts, hbit, -, -⟩ := setButton_eq_ok h
  unfold setButton at h
  simp only [hbound, haccepts, hbit] at h
  by_cases hl : c.isOn b = on
  · rw [if_pos hl] at h
    cases h
    simp [hl]
  · rw [if_neg hl] at h
    cases h
    simp [hl]

namespace Registry

/-! ## One run over the controllers -/

def changes (on : Bool) (r : Registry) (e : DeviceId × ButtonId) : Bool :=
  (r.get? e.1).any fun c => c.isOn e.2 != on

/-- The button has a light if its controller is registered. -/
def Placed (r : Registry) (e : DeviceId × ButtonId) : Prop :=
  ∀ c, r.get? e.1 = some c → e.2.bit? = some (e.2.byte - 1)

section
variable {χ : Type} [Channel χ] {on : Bool} {n k : Nat} {e : DeviceId × ButtonId}
  {es : List (DeviceId × ButtonId)} {s t u : Registry × Outlet χ}

/-- The lights of some controllers were switched, and the pictures that changed were counted. -/
structure Switched (on : Bool) (es : List (DeviceId × ButtonId)) (n : Nat) (s : Registry × Outlet χ)
    (k : Nat) (t : Registry × Outlet χ) : Prop where
  registry : t.1 = es.foldl (switch on) s.1
  took : Outlet.Took (es.flatMap (s.1.switchFrames on)) s.2 t.2
  count : k = n + es.countP (s.1.changes on)
  placed : ∀ e ∈ es, s.1.Placed e

theorem Switched.nil (n : Nat) (s : Registry × Outlet χ) : Switched on [] n s n s :=
  ⟨rfl, ⟨rfl, (List.append_nil _).symm⟩, rfl, by simp⟩

theorem Switched.note (h : Switched on es n s k t) (entry : Journal.Entry) :
    Switched on es n s k (t.1, t.2.note entry) :=
  ⟨h.registry, h.took.note entry, h.count, h.placed⟩

theorem Switched.cons {m : Nat}
    (hes : (e :: es).Pairwise fun a b => ByteKey.rank a.1 < ByteKey.rank b.1)
    (h : Switched on [e] n s m t) (h' : Switched on es m t k u) :
    Switched on (e :: es) n s k u := by
  -- No controller occurs twice, so the later ones are counted as they were found.
  have hregistry : t.1 = s.1.switch on e := h.registry
  have hsame : ∀ x ∈ es, t.1.get? x.1 = s.1.get? x.1 := by
    intro x hx
    rw [hregistry]
    exact get?_switch_of_later hes hx
  refine ⟨?_, ?_, ?_, ?_⟩
  · rw [h'.registry, hregistry, List.foldl_cons]
  · have hframes : es.flatMap (t.1.switchFrames on) = es.flatMap (s.1.switchFrames on) := by
      refine List.flatMap_congr fun x hx => ?_
      unfold switchFrames
      rw [hsame x hx]
    rw [List.flatMap_cons, ← hframes]
    exact (List.flatMap_singleton (s.1.switchFrames on) e ▸ h.took).trans h'.took
  · have hcount : es.countP (t.1.changes on) = es.countP (s.1.changes on) := by
      refine List.countP_congr fun x hx => ?_
      unfold changes
      rw [hsame x hx]
    rw [h'.count, hcount, h.count, List.countP_cons, List.countP_cons, List.countP_nil]
    omega
  · rintro x hx c hc
    rcases List.mem_cons.mp hx with rfl | hx
    · exact h.placed x List.mem_cons_self c hc
    · exact h'.placed x hx c (by rw [hsame x hx, hc])

theorem switched_setButton {changed : Bool} {d : DeviceId} {b : ButtonId}
    (h : setButton d b on s = .ok changed t) :
    Switched on [(d, b)] n s (if changed then n + 1 else n) t := by
  obtain ⟨c, x, hc, hx⟩ := react_eq_ok h
  obtain ⟨-, -, hbit, -, -⟩ := Controller.setButton_eq_ok hx
  rcases setButton_cases hc hx s.2 with ⟨o', hrun, htook⟩ | ⟨err, o', pre, f, post, hrun, -, -⟩
  · rw [hrun] at h
    cases h
    refine ⟨rfl, ?_, ?_, ?_⟩
    · rw [List.flatMap_singleton]
      exact htook
    · simp only [List.countP_singleton, changes, hc, Option.any_some,
        Controller.answer_setButton hx]
      split <;> rfl
    · rintro y hy c' -
      rw [List.mem_singleton.mp hy]
      exact hbit
  · rw [hrun] at h
    cases h

theorem switched_switchOne (h : switchOne on n e s = .ok k t) : Switched on [e] n s k t := by
  obtain ⟨changed, u, hstep, hrest⟩ := Act.bind_eq_ok h
  cases hrest
  exact switched_setButton hstep

theorem switched_foldlM {body : Nat → DeviceId × ButtonId → Act Registry χ Nat}
    (hbody : ∀ n e s k t, body n e s = .ok k t → Switched on [e] n s k t)
    (hes : es.Pairwise fun a b => ByteKey.rank a.1 < ByteKey.rank b.1)
    (h : es.foldlM body n s = .ok k t) :
    Switched on es n s k t := by
  induction es generalizing n s with
  | nil =>
    cases h
    exact .nil _ _
  | cons e es ih =>
    rw [List.foldlM_cons] at h
    obtain ⟨m, u, hstep, hrest⟩ := Act.bind_eq_ok h
    exact (hbody n e s m u hstep).cons hes (ih (List.pairwise_cons.mp hes).2 hrest)

end

/-! ## What is written -/

section
variable {on : Bool} {r : Registry} {e : DeviceId × ButtonId} {es : List (DeviceId × ButtonId)}

def writes (on : Bool) (r : Registry) (e : DeviceId × ButtonId) : Bool :=
  (r.get? e.1).any fun c => c.isOn e.2 != on && c.supportsIndicator

theorem changes_of_writes (h : r.writes on e = true) : r.changes on e = true := by
  obtain ⟨c, hc, hwrites⟩ := (Option.any_eq_true _ _).mp h
  exact (Option.any_eq_true _ _).mpr ⟨c, hc, (Bool.and_eq_true_iff.mp hwrites).1⟩

theorem writes_iff_of_changes {c : Controller} (hc : r.get? e.1 = some c) (h : c.isOn e.2 ≠ on) :
    r.writes on e = true ↔ c.supportsIndicator = true := by
  simp [writes, hc, h]

theorem writes_of_changes_iff {bs : ByteMap DeviceId ButtonId} :
    (∀ e ∈ bs.toList, r.changes on e = true → r.writes on e = true) ↔
      ∀ d b c, bs.get? d = some b → r.get? d = some c → c.isOn b ≠ on →
        c.supportsIndicator = true := by
  constructor
  · intro hall d b c hb hc hne
    have hchanges : r.changes on (d, b) = true := by simp [changes, hc, hne]
    exact (writes_iff_of_changes hc hne).mp (hall (d, b) (ByteMap.get?_eq_some_iff.mp hb) hchanges)
  · intro hall e he hchanges
    obtain ⟨c, hc, hne⟩ := (Option.any_eq_true _ _).mp hchanges
    have hne : c.isOn e.2 ≠ on := bne_iff_ne.mp hne
    exact (writes_iff_of_changes hc hne).mpr
      (hall e.1 e.2 c (ByteMap.get?_eq_some_iff.mpr he) hc hne)

theorem destinations_switchFrames (hdevice : ∀ d c, r.get? d = some c → c.device = d)
    (hplaced : r.Placed e) :
    ((r.switchFrames on e).filter (·.setsLights)).map (·.destination) = if r.writes on e =
      true then [e.1] else [] := by
  unfold switchFrames writes
  cases hc : r.get? e.1 with
  | none => simp
  | some c =>
    have hd := hdevice e.1 c hc
    simp only [Option.any_some, Controller.isOn_eq (hplaced c hc), Controller.switchFrames]
    by_cases hl : lightAt c.indicator e.2.place = on
    · simp [hl]
    · cases hs : c.supportsIndicator with
      | false => simp [hl]
      | true =>
        simp [hl, hd, OutboundFrame.setsLights, OutboundFrame.setLights, OutboundFrame.askLights,
          OutboundFrame.command?]

theorem destinations_flatMap (hdevice : ∀ d c, r.get? d = some c → c.device = d)
    (hplaced : ∀ e ∈ es, r.Placed e) :
    ((es.flatMap (r.switchFrames on)).filter (·.setsLights)).map (·.destination) =
      (es.filter (r.writes on)).map (·.1) := by
  induction es with
  | nil => rfl
  | cons e es ih =>
    rw [List.flatMap_cons, List.filter_append, List.map_append, ih fun x hx =>
      hplaced x (List.mem_cons_of_mem _ hx),
      destinations_switchFrames hdevice (hplaced e List.mem_cons_self), List.filter_cons]
    split <;> rfl

theorem length_filter_writes_iff :
    (es.filter (r.writes on)).length = es.countP (r.changes on) ↔
      ∀ e ∈ es, r.changes on e = true → r.writes on e = true := by
  rw [List.countP_eq_length_filter]
  have hsub : (es.filter (r.writes on)).Sublist (es.filter (r.changes on)) :=
    es.monotone_filter_right fun _ => changes_of_writes
  constructor
  · -- A sublist of the same length is the whole list.
    intro hlength e he hchanges
    have hmem : e ∈ es.filter (r.writes on) := by
      rw [hsub.eq_of_length hlength]
      exact List.mem_filter.mpr ⟨he, hchanges⟩
    exact (List.mem_filter.mp hmem).2
  · intro hall
    congr 1
    refine List.filter_congr fun e he => ?_
    rw [Bool.eq_iff_iff]
    exact ⟨changes_of_writes, hall e he⟩

end

end Registry

namespace Scene

/-- What switches the lights of a scene. -/
inductive Lighting where
  | activation
  /-- A change of the light at one controller is carried over to the others. -/
  | mirroring (origin : DeviceId) (on : Bool)

namespace Lighting

def run {χ : Type} [Channel χ] (s : Scene) : Lighting → Act Registry χ Nat
  | activation => s.activate
  | mirroring origin on => s.sync origin on

def on : Lighting → Bool
  | activation => true
  | mirroring _ on => on

def targets (s : Scene) : Lighting → ByteMap DeviceId ButtonId
  | activation => s.controllers
  | mirroring origin _ => s.controllers.erase origin

end Lighting

/-- The frames that write lights are as many as the number says, each to another controller of the
scene. -/
structure Counts (s : Scene) (n : Nat) (fs : List OutboundFrame) : Prop where
  number : fs.countP (·.setsLights) = n
  distinct : ((fs.filter (·.setsLights)).map (·.destination)).Nodup
  bound : ∀ f ∈ fs, f.setsLights = true → ∃ b, s.button? f.destination = some b

section
variable {χ : Type} [Channel χ] {s : Scene} {n k : Nat} {on : Bool} {e : DeviceId × ButtonId}
  {t u : Registry × Outlet χ}

theorem switched_activate (h : s.activate t = .ok n u) :
    Registry.Switched true s.controllers.toList 0 t n u := by
  by_cases hempty : s.controllers.isEmpty = true
  · have hnil : s.controllers.toList = [] := List.isEmpty_iff.mp hempty
    unfold activate at h
    rw [if_pos hempty] at h
    cases h
    rw [hnil]
    exact (Registry.Switched.nil 0 t).note _
  · rcases s.resolve_cases t.1 with ⟨l, hl, -⟩ | ⟨err, hl, -⟩
    · rw [activate_of_resolve hl hempty t.2] at h
      obtain ⟨m, v, hfold, hrest⟩ := Act.bind_eq_ok h
      cases hrest
      have hswitched := Registry.switched_foldlM (fun _ _ _ _ _ => Registry.switched_switchOne)
        s.controllers.ascending hfold
      exact hswitched.note _
    · rw [activate_of_unresolved hl t.2] at h
      cases h

theorem switched_syncOne (h : s.syncOne on n e t = .ok k u) : Registry.Switched on [e] n t k u := by
  cases hc : t.1.get? e.1 with
  | none =>
    unfold syncOne at h
    rw [Act.run_bind, Act.run_subject] at h
    simp only [ByteMap.contains, hc] at h
    cases h
    refine ⟨?_, ?_, ?_, ?_⟩
    · simp only [List.foldl_cons, List.foldl_nil, Registry.switch, hc]
    · simp only [List.flatMap_singleton, Registry.switchFrames, hc]
      exact Outlet.took_note t.2 _
    · simp [Registry.changes, hc]
    · rintro x hx c hc'
      rw [List.mem_singleton.mp hx, hc] at hc'
      cases hc'
  | some c =>
    rw [syncOne_of_registered hc] at h
    exact Registry.switched_switchOne h

theorem switched_sync {origin : DeviceId} (h : s.sync origin on t = .ok n u) :
    Registry.Switched on (s.controllers.erase origin).toList 0 t n u := by
  rw [sync_eq] at h
  obtain ⟨m, v, hfold, hrest⟩ := Act.bind_eq_ok h
  cases hrest
  have hswitched := Registry.switched_foldlM (fun _ _ _ _ _ => switched_syncOne)
    (s.controllers.erase origin).ascending hfold
  exact hswitched.note _

theorem Lighting.switched {l : Lighting} (h : l.run s t = .ok n u) :
    Registry.Switched l.on (l.targets s).toList 0 t n u := by
  cases l with
  | activation => exact switched_activate h
  | mirroring origin on => exact switched_sync h

theorem Lighting.button?_of_mem {l : Lighting} (h : e ∈ (l.targets s).toList) :
    s.button? e.1 = some e.2 := by
  cases l with
  | activation => exact ByteMap.get?_eq_some_iff.mpr h
  | mirroring origin on => exact (mem_others.mp h).2

/-- The answer is the number of controllers that were written to exactly if every controller whose
light was not as it should be has lights. -/
theorem counts_iff {l : Lighting} {r r' : Registry}
    (hdevice : ∀ d c, r.get? d = some c → c.device = d) {channel : χ} {o' : Outlet χ}
    (h : l.run s (r, .opened channel) = .ok n (r', o')) :
    s.Counts n o'.sent ↔
      ∀ d b c, (l.targets s).get? d = some b → r.get? d = some c → c.isOn b ≠ l.on →
        c.supportsIndicator = true := by
  have hrun := Lighting.switched h
  have hsent : o'.sent = (l.targets s).toList.flatMap (r.switchFrames l.on) := hrun.took.sent
  have hcount : n = (l.targets s).toList.countP (r.changes l.on) :=
    hrun.count.trans (Nat.zero_add _)
  have hdestinations : (o'.sent.filter (·.setsLights)).map (·.destination) =
      ((l.targets s).toList.filter (r.writes l.on)).map (·.1) := by
    rw [hsent]
    exact Registry.destinations_flatMap hdevice hrun.placed
  have hlength : o'.sent.countP (·.setsLights) =
      ((l.targets s).toList.filter (r.writes l.on)).length := by
    rw [List.countP_eq_length_filter, ← List.length_map (f := (·.destination)), hdestinations,
      List.length_map]
  rw [← Registry.writes_of_changes_iff, ← Registry.length_filter_writes_iff, ← hcount]
  constructor
  · intro hcounts
    rw [← hlength]
    exact hcounts.number
  · intro hn
    refine ⟨hlength.trans hn, ?_, ?_⟩
    · rw [hdestinations]
      exact (List.filter_sublist.map Prod.fst).nodup (l.targets s).nodup_keys
    · intro f hf hsets
      have hmem : f.destination ∈ (o'.sent.filter (·.setsLights)).map (·.destination) :=
        List.mem_map_of_mem (List.mem_filter.mpr ⟨hf, hsets⟩)
      rw [hdestinations] at hmem
      obtain ⟨e, he, hed⟩ := List.mem_map.mp hmem
      rw [← hed]
      exact ⟨e.2, Lighting.button?_of_mem (List.mem_filter.mp he).1⟩

end

end Scene

namespace Manager

/-- A light went on at one of two keypads, and is carried over to the other. -/
theorem counts_iff_evening :
    ∃ m s r' o', Reachable Directory.Honest m ∧ m.scene? ⟨7, by decide⟩ = some s ∧
      s.sync ⟨2⟩ true (m.controllers, Outlet.opened FaultyChannel.sound) = .ok 1 (r', o') ∧
      s.Counts 1 o'.sent := by
  obtain ⟨m, s, h, hm, hs, -, hdevice, hpictures⟩ := served_evening
  have hanswer : ((afterCalls twoKeypads evening).1.scene? ⟨7, by decide⟩).map (fun s =>
      (s.sync ⟨2⟩ true).answer ((afterCalls twoKeypads evening).1.controllers,
        Outlet.opened FaultyChannel.sound)) =
      some (.ok 1) := by decide +kernel
  rw [← hm, hs, Option.map_some, Option.some.injEq] at hanswer
  rcases hafter : (s.sync ⟨2⟩ true).after (m.controllers, Outlet.opened FaultyChannel.sound) with
    ⟨r', o'⟩
  have hrun : (Scene.Lighting.mirroring ⟨2⟩ true).run s (m.controllers,
      Outlet.opened FaultyChannel.sound) =
      .ok 1 (r', o') := Act.run_eq_ok_iff.mpr ⟨hanswer, hafter⟩
  exact ⟨m, s, r', o', h, hs, hrun, (Scene.counts_iff hdevice hrun).mpr fun d _ c _ hc _ =>
    (hpictures d c hc).1⟩

end Manager

namespace Scene

def bedroom : Scene :=
  { Scene.new ⟨7, Manager.seven_ne_zero⟩ "bedroom" with
    controllers := ByteMap.empty.insert ⟨2⟩ ⟨1⟩ }

def unlit : Registry :=
  ((Registry.getOrBind ⟨2⟩ 5 (Controller.oneKeypad [])).after
    (ByteMap.empty, Outlet.opened FaultyChannel.sound)).1

/-- The keypad is counted, and nothing was sent. -/
theorem unlit_counted :
    (∀ d c, unlit.get? d = some c → c.device = d) ∧
      ∃ r' o', bedroom.activate (unlit, Outlet.opened FaultyChannel.sound) = .ok 1 (r', o') ∧
      o'.sent = [] ∧
        ¬ bedroom.Counts 1 o'.sent := by
  have hdevices : ∀ e ∈ unlit.toList, e.2.device = e.1 := by decide +kernel
  have hanswer : bedroom.activate.answer (unlit, Outlet.opened FaultyChannel.sound) = .ok 1 := by
    decide +kernel
  have hsent : (bedroom.activate.after (unlit, Outlet.opened FaultyChannel.sound)).2.sent = [] := by
    decide +kernel
  rcases hafter : bedroom.activate.after (unlit, Outlet.opened FaultyChannel.sound) with ⟨r', o'⟩
  rw [hafter] at hsent
  refine ⟨fun d c hc => hdevices (d, c) (ByteMap.get?_eq_some_iff.mp hc), r', o',
    Act.run_eq_ok_iff.mpr ⟨hanswer, hafter⟩, hsent, fun hcounts => ?_⟩
  have hnumber := hcounts.number
  rw [hsent] at hnumber
  cases hnumber

end Scene

end MeshScenes
