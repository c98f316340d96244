import MeshScenes.Proofs.Planning
import MeshScenes.Proofs.Registry
import MeshScenes.Scene.Lights

/-!
# Switching the lights of a scene

Activation and mirroring go through the controllers of a scene one by one. A channel that refuses
nothing takes a fixed list of frames, and each controller is left with its own light switched and
everything else as it was.
-/

namespace MeshScenes

/-! ## What a channel takes -/

/-- The channel took frames; the journal is not looked at. -/
structure Outlet.Took {χ : Type} [Channel χ] (fs : List OutboundFrame) (o o' : Outlet χ) :
    Prop where
  channel : o'.channel = Channel.sendAll fs o.channel
  attempts : o'.attempts = o.attempts ++ fs.map (Attempt.mk · true)

section
variable {χ : Type} [Channel χ] {fs gs : List OutboundFrame} {o o' o'' : Outlet χ}

theorem Outlet.took_noted (o : Outlet χ) (es : List Journal.Entry) : Took [] o (o.noted es) :=
  ⟨rfl, (List.append_nil _).symm⟩

theorem Outlet.took_note (o : Outlet χ) (e : Journal.Entry) : Took [] o (o.note e) :=
  ⟨rfl, (List.append_nil _).symm⟩

theorem Outlet.Took.note (h : Took fs o o') (e : Journal.Entry) :
    Took fs o (o'.note e) := ⟨h.channel, h.attempts⟩

theorem Outlet.Took.trans (h : Took fs o o') (h' : Took gs o' o'') : Took (fs ++ gs) o o'' := by
  refine ⟨?_, ?_⟩
  · rw [h'.channel, h.channel, Channel.sendAll, Channel.sendAll, Channel.sendAll, List.foldl_append]
  · rw [h'.attempts, h.attempts, List.map_append, List.append_assoc]

theorem Outlet.Took.accepts (h : Took fs o o') (ho : Channel.Accepts o.channel) :
    Channel.Accepts o'.channel := by
  rw [h.channel]
  exact ho.sendAll fs

theorem frames_accepted (fs : List OutboundFrame) :
    ((fs.map (Attempt.mk · true)).filter (·.accepted)).map (·.frame) = fs := by
  induction fs with
  | nil => rfl
  | cons f fs ih => simpa using ih

theorem Outlet.Took.sent (h : Took fs o o') : o'.sent = o.sent ++ fs := by
  unfold Outlet.sent
  rw [h.attempts, List.filter_append, List.map_append, frames_accepted]

theorem Outlet.took_sendAll (ho : Channel.Accepts o.channel) (fs : List OutboundFrame) :
    ∃ o', o.sendAll fs = (none, o') ∧ Took fs o o' := by
  obtain ⟨es, hs⟩ := sendAll_of_accepts ho fs
  exact ⟨_, hs, rfl, rfl⟩

end

section
variable {χ : Type}

/-- The channel took frames, and refused the one that came next. -/
structure Outlet.Stopped (fs : List OutboundFrame) (f : OutboundFrame) (o o' : Outlet χ) :
    Prop where
  attempts : o'.attempts = o.attempts ++ (fs.map (Attempt.mk · true) ++ [⟨f, false⟩])

namespace Outlet

variable {fs gs : List OutboundFrame} {f : OutboundFrame} {o o' o'' : Outlet χ}

theorem Stopped.sent (h : Stopped fs f o o') : o'.sent = o.sent ++ fs := by
  unfold Outlet.sent
  rw [h.attempts, List.filter_append, List.filter_append, List.map_append, List.map_append,
    frames_accepted]
  exact congrArg _ (List.append_nil fs)

variable [Channel χ]

theorem Took.stopped (h : Took fs o o') (h' : Stopped gs f o' o'') :
    Stopped (fs ++ gs) f o o'' := by
  constructor
  rw [h'.attempts, h.attempts, List.map_append, List.append_assoc, List.append_assoc]

theorem sendAll_cases (o : Outlet χ) (fs : List OutboundFrame) :
    (∃ o', o.sendAll fs = (none, o') ∧ Took fs o o') ∨
      ∃ cause o' pre f post, o.sendAll fs = (some cause, o') ∧ fs = pre ++ f :: post ∧
        Stopped pre f o o' := by
  induction fs generalizing o with
  | nil => exact .inl ⟨o, rfl, rfl, (List.append_nil _).symm⟩
  | cons f fs ih =>
    rcases hs : o.send f with ⟨_ | cause, o₁⟩
    · have htook : Took [f] o o₁ := by
        unfold send at hs
        simp only [Prod.mk.injEq] at hs
        obtain ⟨hrefusal, rfl⟩ := hs
        exact ⟨rfl, by simp [hrefusal]⟩
      rcases ih o₁ with ⟨o', hrun, htook'⟩ | ⟨cause, o', pre, g, post, hrun, rfl, hstopped⟩
      · refine .inl ⟨o', ?_, htook.trans htook'⟩
        unfold sendAll
        rw [hs]
        exact hrun
      · refine .inr ⟨cause, o', f :: pre, g, post, ?_, rfl, htook.stopped hstopped⟩
        unfold sendAll
        rw [hs]
        exact hrun
    · refine .inr ⟨cause, o₁, [], f, fs, ?_, rfl, ?_⟩
      · unfold sendAll
        rw [hs]
      · unfold send at hs
        simp only [Prod.mk.injEq] at hs
        obtain ⟨hrefusal, rfl⟩ := hs
        exact ⟨by simp [hrefusal]⟩

end Outlet

end

namespace Registry

/-! ## One light -/

/-- The controller is attached and takes the button. That it has eight buttons at most is so of
every controller. -/
def Drivable (c : Controller) (b : ButtonId) : Prop :=
  c.isBound = true ∧ c.acceptsButton b = true ∧ c.buttonCount ≤ 8

theorem Drivable.of_alike {c d : Controller} {b : ButtonId} (h : Drivable c b) (ha : c.Alike d) :
    Drivable d b := by
  obtain ⟨hbound, haccepts, hcount⟩ := h
  refine ⟨ha.2 hbound, ?_, ?_⟩
  · unfold Controller.acceptsButton at haccepts ⊢
    rwa [ha.buttonCount]
  · rwa [ha.buttonCount]

def switch (on : Bool) (r : Registry) (e : DeviceId × ButtonId) : Registry :=
  match r.get? e.1 with
  | some c => r.insert e.1 (c.switched e.2 on)
  | none => r

def switchFrames (on : Bool) (r : Registry) (e : DeviceId × ButtonId) : List OutboundFrame :=
  match r.get? e.1 with
  | some c => c.switchFrames e.2 on
  | none => []

theorem get?_switch (on : Bool) (r : Registry) (e : DeviceId × ButtonId) (d : DeviceId) :
    (r.switch on e).get? d = (r.get? d).map fun c => if d = e.1 then c.switched e.2 on else c := by
  unfold switch
  cases he : r.get? e.1 with
  | none =>
    by_cases hd : d = e.1
    · rw [hd, he]
      rfl
    · simp [hd]
  | some c =>
    simp only [ByteMap.get?_insert]
    by_cases hd : d = e.1
    · simp [hd, he]
    · simp [hd]

variable {χ : Type} [Channel χ]

theorem setButton_cases {on : Bool} {r : Registry} {d : DeviceId} {b : ButtonId} {c : Controller}
    {x : Reaction Bool} (hc : r.get? d = some c) (hx : c.setButton b on = .ok x) (o : Outlet χ) :
    (∃ o', setButton d b on (r, o) = .ok x.answer (r.switch on (d, b), o') ∧
        Outlet.Took (r.switchFrames on (d, b)) o o') ∨
      ∃ e o' pre f post, setButton d b on (r, o) = .error e (r.switch on (d, b), o') ∧
        r.switchFrames on (d, b) = pre ++ f :: post ∧ Outlet.Stopped pre f o o' := by
  obtain ⟨-, -, -, hcontroller, -⟩ := Controller.setButton_eq_ok hx
  have hnoted := Outlet.took_noted o x.notes
  have hframes : r.switchFrames on (d, b) = c.switchFrames b on := by
    unfold switchFrames
    simp only [hc]
  have hswitch : r.switch on (d, b) = r.insert d x.controller := by
    unfold switch
    simp only [hc, hcontroller]
  rw [hframes, hswitch]
  unfold setButton
  rw [run_react (s := (r, o)) hc hx (Controller.frames_setButton hx)]
  rcases (o.noted x.notes).sendAll_cases (c.switchFrames b on) with
    ⟨o', hsend, htook⟩ | ⟨cause, o', pre, f, post, hsend, hfs, hstopped⟩
  · left
    rw [hsend]
    exact ⟨o', rfl, hnoted.trans htook⟩
  · right
    rw [hsend]
    exact ⟨_, o', pre, f, post, rfl, hfs, hnoted.stopped hstopped⟩

theorem run_setButton (on : Bool) {r : Registry} {o : Outlet χ} {d : DeviceId} {b : ButtonId}
    {c : Controller} (hc : r.get? d = some c) (hb : Drivable c b) (ho : Channel.Accepts o.channel) :
    ∃ changed o', setButton d b on (r, o) = .ok changed (r.switch on (d, b), o') ∧
      Outlet.Took (r.switchFrames on (d, b)) o o' := by
  obtain ⟨x, hx⟩ := Controller.setButton_ok on hb.1 hb.2.1 hb.2.2
  obtain ⟨-, -, -, hcontroller, -⟩ := Controller.setButton_eq_ok hx
  have hnoted := Outlet.took_noted o x.notes
  obtain ⟨o', hsend, htook⟩ := Outlet.took_sendAll (hnoted.accepts ho) (c.switchFrames b on)
  refine ⟨x.answer, o', ?_, ?_⟩
  · unfold setButton
    rw [run_react hc hx (Controller.frames_setButton hx)]
    simp only [hsend, switch, hc, hcontroller]
  · unfold switchFrames
    simp only [hc]
    exact hnoted.trans htook

def switchOne (on : Bool) (n : Nat) (e : DeviceId × ButtonId) : Act Registry χ Nat := do
  let changed ← setButton e.1 e.2 on
  return if changed then n + 1 else n

theorem run_switchOne (on : Bool) (n : Nat) {e : DeviceId × ButtonId} {t : Registry × Outlet χ}
    {c : Controller} (hc : t.1.get? e.1 = some c) (hb : Drivable c e.2)
    (ho : Channel.Accepts t.2.channel) :
    ∃ k o', switchOne on n e t = .ok k (t.1.switch on e, o') ∧
      Outlet.Took (t.1.switchFrames on e) t.2 o' := by
  obtain ⟨changed, o', hrun, htook⟩ := run_setButton on (o := t.2) hc hb ho
  refine ⟨if changed then n + 1 else n, o', ?_, htook⟩
  unfold switchOne
  rw [Act.run_bind]
  simp only [hrun]
  rfl

theorem run_ask {r : Registry} {o : Outlet χ} {d : DeviceId} {c : Controller}
    (hc : r.get? d = some c) (ho : Channel.Accepts o.channel) :
    ∃ o', react d (.ok ·.requestIndicator) (r, o) =
      .ok () (r.insert d c.requestIndicator.controller, o') ∧
      Outlet.Took c.askFrames o o' := by
  have hnoted := Outlet.took_noted o c.requestIndicator.notes
  obtain ⟨o', hsend, htook⟩ := Outlet.took_sendAll (hnoted.accepts ho) c.askFrames
  refine ⟨o', ?_, hnoted.trans htook⟩
  rw [run_react (s := (r, o)) hc rfl (Controller.frames_requestIndicator c), hsend]

theorem after_setButton (on : Bool) (d : DeviceId) (b : ButtonId) (s : Registry × Outlet χ) :
    (setButton d b on).after s = s ∨ ∃ c es, s.1.get? d = some c ∧ b.bit? = some (b.byte - 1) ∧
      (setButton d b on).after s =
        (s.1.insert d (c.switched b on), ((s.2.noted es).sendAll (c.switchFrames b on)).2) := by
  by_cases hreacts : ∃ c x, s.1.get? d = some c ∧ c.setButton b on = .ok x
  · obtain ⟨c, x, hc, hx⟩ := hreacts
    obtain ⟨-, -, hbit, hcontroller, -⟩ := Controller.setButton_eq_ok hx
    refine .inr ⟨c, x.notes, hc, hbit, ?_⟩
    rw [← hcontroller]
    exact after_react hc hx (Controller.frames_setButton hx)
  · refine .inl (after_react_error fun c hc => ?_)
    cases hx : c.setButton b on with
    | error err => exact ⟨err, rfl⟩
    | ok x => exact absurd ⟨c, x, hc, hx⟩ hreacts

theorem took_setButton (on : Bool) {r : Registry} {o : Outlet χ} (d : DeviceId) (b : ButtonId)
    (ho : Channel.Accepts o.channel) :
    (setButton d b on).after (r, o) = (r, o) ∨ ∃ c o', r.get? d = some c ∧
      b.bit? = some (b.byte - 1) ∧
      Outlet.Took (c.switchFrames b on) o o' ∧
        (setButton d b on).after (r, o) = (r.insert d (c.switched b on), o') := by
  rcases after_setButton on d b (r, o) with hafter | ⟨c, es, hc, hbit, hafter⟩
  · exact .inl hafter
  · have hnoted := Outlet.took_noted o es
    obtain ⟨o', hsend, htook⟩ := Outlet.took_sendAll (hnoted.accepts ho) (c.switchFrames b on)
    refine .inr ⟨c, o', hc, hbit, hnoted.trans htook, ?_⟩
    rw [hafter, hsend]

theorem took_ask {r : Registry} {o : Outlet χ} (d : DeviceId) (ho : Channel.Accepts o.channel) :
    (react d (.ok ·.requestIndicator)).after (r, o) = (r, o) ∨ ∃ c o', r.get? d = some c ∧
      Outlet.Took c.askFrames o o' ∧
      (react d (.ok ·.requestIndicator)).after (r, o) =
        (r.insert d c.requestIndicator.controller, o') := by
  cases hc : r.get? d with
  | none => exact .inl (after_react_error fun c hc' => by rw [hc] at hc'; cases hc')
  | some c =>
    obtain ⟨o', hrun, htook⟩ := run_ask hc ho
    refine .inr ⟨c, o', rfl, htook, ?_⟩
    unfold Act.after
    rw [hrun]

/-! ## The lights of several controllers -/

def switchAll (on : Bool) (r : Registry) (bs : ByteMap DeviceId ButtonId) : Registry :=
  bs.toList.foldl (switch on) r

def switchAllFrames (on : Bool) (r : Registry) (bs : ByteMap DeviceId ButtonId) :
    List OutboundFrame :=
  bs.toList.flatMap (r.switchFrames on)

theorem get?_foldl_switch (on : Bool) (es : List (DeviceId × ButtonId)) (r : Registry)
    (d : DeviceId) (h : es.Pairwise fun a b => ByteKey.rank a.1 < ByteKey.rank b.1) :
    (es.foldl (switch on) r).get? d =
      (r.get? d).map fun c =>
        (((⟨es, h⟩ : ByteMap DeviceId ButtonId).get? d).map (c.switched · on)).getD c := by
  induction es generalizing r with
  | nil =>
    rw [List.foldl_nil]
    cases r.get? d <;> rfl
  | cons e es ih =>
    rw [List.foldl_cons, ih _ (List.pairwise_cons.mp h).2, get?_switch, ByteMap.get?_cons h]
    by_cases hd : d = e.1
    · rw [hd, ByteMap.get?_tail h]
      cases r.get? e.1 <;> simp
    · cases r.get? d <;> simp [hd]

theorem get?_switchAll (on : Bool) (r : Registry) (bs : ByteMap DeviceId ButtonId) (d : DeviceId) :
    (r.switchAll on bs).get? d = (r.get? d).map fun c =>
      ((bs.get? d).map (c.switched · on)).getD c :=
  get?_foldl_switch on bs.toList r d bs.ascending

theorem get?_switch_of_later {on : Bool} {r : Registry} {e : DeviceId × ButtonId}
    {es : List (DeviceId × ButtonId)}
    (h : (e :: es).Pairwise fun a b => ByteKey.rank a.1 < ByteKey.rank b.1)
    {x : DeviceId × ButtonId} (hx : x ∈ es) :
    (r.switch on e).get? x.1 = r.get? x.1 := by
  have hne : x.1 ≠ e.1 := fun hxe =>
    absurd ((List.pairwise_cons.mp h).1 x hx) (by rw [hxe]; exact Nat.lt_irrefl _)
  rw [get?_switch]
  simp [hne]

theorem switchFrames_switch_of_later {on : Bool} {r : Registry} {e : DeviceId × ButtonId}
    {es : List (DeviceId × ButtonId)}
    (h : (e :: es).Pairwise fun a b => ByteKey.rank a.1 < ByteKey.rank b.1)
    {x : DeviceId × ButtonId} (hx : x ∈ es) :
    (r.switch on e).switchFrames on x = r.switchFrames on x := by
  unfold switchFrames
  rw [get?_switch_of_later h hx]

private theorem run_foldl_switch {on : Bool} {body : Nat → DeviceId × ButtonId → Act Registry χ Nat}
    {P : Option Controller → ButtonId → Prop}
    (hbody : ∀ n e s, Channel.Accepts s.2.channel → P (s.1.get? e.1) e.2 →
      ∃ k o', body n e s = .ok k (s.1.switch on e, o') ∧ Outlet.Took (s.1.switchFrames on e) s.2 o')
    (es : List (DeviceId × ButtonId))
    (h : es.Pairwise fun a b => ByteKey.rank a.1 < ByteKey.rank b.1) (n : Nat) (r : Registry)
    (o : Outlet χ) (ho : Channel.Accepts o.channel)
    (hr : ∀ e ∈ es, P (r.get? e.1) e.2) :
    ∃ k o', es.foldlM body n (r, o) = .ok k (es.foldl (switch on) r, o') ∧
      Outlet.Took (es.flatMap (r.switchFrames on)) o o' := by
  induction es generalizing n r o with
  | nil => exact ⟨n, o, rfl, rfl, (List.append_nil _).symm⟩
  | cons e es ih =>
    obtain ⟨k, o₁, hrun, htook⟩ := hbody n e (r, o) ho (hr e List.mem_cons_self)
    obtain ⟨k', o₂, hrun', htook'⟩ :=
      ih (List.pairwise_cons.mp h).2 k (r.switch on e) o₁ (htook.accepts ho) fun x hx => by
      rw [get?_switch_of_later h hx]
      exact hr x (List.mem_cons_of_mem _ hx)
    refine ⟨k', o₂, ?_, ?_⟩
    · rw [List.foldlM_cons, Act.run_bind, hrun]
      exact hrun'
    · rw [List.flatMap_cons, ← List.flatMap_congr fun x hx => switchFrames_switch_of_later h hx]
      exact htook.trans htook'

end Registry

namespace Scene

variable {χ : Type} [Channel χ]

theorem toList_erase (bs : ByteMap DeviceId ButtonId) (d : DeviceId) :
    (bs.erase d).toList = bs.toList.filter fun e => e.1 ≠ d := by
  unfold ByteMap.erase
  simp

theorem mem_others {s : Scene} {d : DeviceId} {e : DeviceId × ButtonId} :
    e ∈ (s.controllers.erase d).toList ↔ e.1 ≠ d ∧ s.button? e.1 = some e.2 := by
  rw [← ByteMap.get?_eq_some_iff, ByteMap.get?_erase]
  by_cases hd : e.1 = d
  · simp [hd]
  · simp [hd, button?]

def syncOne (s : Scene) (on : Bool) (n : Nat) (e : DeviceId × ButtonId) : Act Registry χ Nat := do
  let registry ← Act.subject
  if registry.contains e.1 then Registry.switchOne on n e
  else
    Act.note (.warn "controller not registered, skipping sync" [
      ("scene", .show s.id), ("controller", .show e.1)])
    return n

theorem sync_eq (s : Scene) (origin : DeviceId) (on : Bool) :
    (s.sync origin on : Act Registry χ Nat) = do
      let changed ← (s.controllers.erase origin).toList.foldlM (s.syncOne on) 0
      Act.note (.debug "synchronised controllers" [
        ("scene", .show s.id), ("origin", .show origin), ("on", .flag on),
          ("changed", .number changed)])
      return changed := by
  rw [toList_erase]
  rfl

theorem syncOne_of_registered {s : Scene} {on : Bool} {n : Nat} {e : DeviceId × ButtonId}
    {t : Registry × Outlet χ} {c : Controller} (hc : t.1.get? e.1 = some c) :
    s.syncOne on n e t = Registry.switchOne on n e t := by
  unfold syncOne
  rw [Act.run_bind, Act.run_subject]
  simp only [ByteMap.contains, hc, Option.isSome_some, ite_true]

theorem run_sync (s : Scene) (origin : DeviceId) (on : Bool) {r : Registry} {o : Outlet χ}
    (ho : Channel.Accepts o.channel)
    (hr : ∀ d b c, d ≠ origin → s.button? d = some b → r.get? d = some c → Registry.Drivable c b) :
    ∃ n o', s.sync origin on (r, o) = .ok n (r.switchAll on (s.controllers.erase origin), o') ∧
      Outlet.Took (r.switchAllFrames on (s.controllers.erase origin)) o o' := by
  rw [sync_eq, Act.run_bind]
  have step : ∀ n (e : DeviceId × ButtonId) (t : Registry × Outlet χ), Channel.Accepts t.2.channel →
      (∀ c, t.1.get? e.1 = some c → Registry.Drivable c e.2) →
      ∃ k o', s.syncOne on n e t = .ok k (t.1.switch on e, o') ∧
        Outlet.Took (t.1.switchFrames on e) t.2 o' := by
    intro n e t ht he
    cases hc : t.1.get? e.1 with
    | none =>
      refine ⟨n, t.2.note (.warn "controller not registered, skipping sync" [
        ("scene", .show s.id), ("controller", .show e.1)]), ?_, ?_⟩
      · unfold syncOne
        rw [Act.run_bind, Act.run_subject]
        simp only [ByteMap.contains, hc, Registry.switch]
        rfl
      · simp only [Registry.switchFrames, hc]
        exact Outlet.took_note t.2 _
    | some c =>
      rw [syncOne_of_registered hc]
      exact Registry.run_switchOne on n hc (he c hc) ht
  obtain ⟨k, o', hrun, htook⟩ :=
    Registry.run_foldl_switch (P := fun c b => ∀ x, c = some x → Registry.Drivable x b) step
      (s.controllers.erase origin).toList (s.controllers.erase origin).ascending 0 r o ho
      fun e he c hc => by
        obtain ⟨hne, hbutton⟩ := mem_others.mp he
        exact hr e.1 e.2 c hne hbutton hc
  rw [hrun]
  exact ⟨k, _, rfl, htook.note _⟩

/-- Every controller of the scene is registered and can be driven. -/
def Served (s : Scene) (r : Registry) : Prop :=
  ∀ d b, s.button? d = some b → ∃ c, r.get? d = some c ∧ Registry.Drivable c b

theorem Served.of_alike {s : Scene} {r k : Registry} (h : s.Served r) (ha : r.Alike k) :
    s.Served k := by
  intro d b hb
  obtain ⟨c, hc, hdrivable⟩ := h d b hb
  obtain ⟨y, hy, hcy⟩ := ha.exists_get? hc
  exact ⟨y, hy, hdrivable.of_alike hcy⟩

theorem resolve_of_served {s : Scene} {r : Registry} (hr : s.Served r) :
    ∃ l, s.resolve r = .ok l ∧ s.Found r l := by
  rcases s.resolve_cases r with hfound | ⟨e, -, -, d, b, hb, hunbound⟩
  · exact hfound
  · obtain ⟨c, hc, hdrivable⟩ := hr d b hb
    have hnot := hunbound c hc
    rw [hdrivable.1] at hnot
    cases hnot

theorem activate_of_resolve {s : Scene} {r : Registry} {l : List (Controller × ButtonId)}
    (hl : s.resolve r = .ok l) (he : ¬ s.controllers.isEmpty = true) (o : Outlet χ) :
    s.activate (r, o) = (do
      let changed ← s.controllers.toList.foldlM (Registry.switchOne true) 0
      Act.note (.info "scene activated" [("scene", .show s.id), ("changed", .number changed)])
      return changed : Act Registry χ Nat) (r, o) := by
  unfold activate
  rw [if_neg he, Act.run_bind, Act.run_subject]
  simp only
  rw [Act.run_bind, hl, Act.run_of_ok]
  rfl

theorem activate_of_unresolved {s : Scene} {r : Registry} {e : Error} (he : s.resolve r = .error e)
    (o : Outlet χ) :
    s.activate (r, o) = .error e (r, o) := by
  have hempty : ¬ s.controllers.isEmpty = true := by
    intro hempty
    unfold resolve at he
    rw [List.isEmpty_iff.mp hempty] at he
    cases he
  unfold activate
  rw [if_neg hempty, Act.run_bind, Act.run_subject]
  simp only [he, Act.run_bind, Act.run_of_error]

theorem activate_of_served {s : Scene} {r : Registry} (hr : s.Served r)
    (he : ¬ s.controllers.isEmpty = true) (o : Outlet χ) :
    s.activate (r, o) = (do
      let changed ← s.controllers.toList.foldlM (Registry.switchOne true) 0
      Act.note (.info "scene activated" [("scene", .show s.id), ("changed", .number changed)])
      return changed : Act Registry χ Nat) (r, o) := by
  obtain ⟨l, hl, -⟩ := resolve_of_served hr
  exact activate_of_resolve hl he o

theorem run_activate (s : Scene) {r : Registry} {o : Outlet χ} (ho : Channel.Accepts o.channel)
    (hr : s.Served r) :
    ∃ n o', s.activate (r, o) = .ok n (r.switchAll true s.controllers, o') ∧
      Outlet.Took (r.switchAllFrames true s.controllers) o o' := by
  by_cases he : s.controllers.isEmpty = true
  · have hnil : s.controllers.toList = [] := List.isEmpty_iff.mp he
    unfold activate
    rw [if_pos he]
    unfold Registry.switchAll Registry.switchAllFrames
    rw [hnil]
    exact ⟨0, _, rfl, Outlet.took_note o _⟩
  · rw [activate_of_served hr he, Act.run_bind]
    have step : ∀ n (e : DeviceId × ButtonId) (t : Registry × Outlet χ),
        Channel.Accepts t.2.channel →
        (∃ c, t.1.get? e.1 = some c ∧ Registry.Drivable c e.2) →
        ∃ k o', Registry.switchOne true n e t = .ok k (t.1.switch true e, o') ∧
          Outlet.Took (t.1.switchFrames true e) t.2 o' := by
      intro n e t ht ⟨c, hc, hb⟩
      exact Registry.run_switchOne true n hc hb ht
    obtain ⟨k, o', hrun, htook⟩ :=
      Registry.run_foldl_switch (P := fun c b => ∃ x, c = some x ∧ Registry.Drivable x b)
      step s.controllers.toList s.controllers.ascending 0 r o ho fun e he =>
        hr e.1 e.2 (ByteMap.get?_eq_some_iff.mpr he)
    rw [hrun]
    exact ⟨k, _, rfl, htook.note _⟩

end Scene

end MeshScenes
