import MeshScenes.Proofs.Manager.Programmed
import MeshScenes.Wire.Event

/-!
# What nodes store

A request that is encoded, taken by a node, and asked about later: the bytes on the wire are the
numbers that were given, the node stores them in one place and changes nothing else, and it reports
them until that place is written again.
-/

namespace MeshScenes

/-! ## Numbers that fit -/

/-- The outcome of writing numbers behind some bytes: the first that is no byte is refused, and the
payload has the bytes in their order. -/
inductive WireField.Written :
    List UInt8 → List (WireField × UInt32) → Except EncodingError (List UInt8) → Prop where
  | done {bytes payload : List UInt8} : bytes.Sublist payload → Written bytes [] (.ok payload)
  | overflow {bytes : List UInt8} {field : WireField} {n : UInt32}
    {rest : List (WireField × UInt32)} :
      255 < n → Written bytes ((field, n) :: rest) (.error (.fieldOverflow field n))
  | fits {bytes : List UInt8} {field : WireField} {b : UInt8} {rest : List (WireField × UInt32)}
      {x : Except EncodingError (List UInt8)} :
      Written (bytes ++ [b]) rest x → Written bytes ((field, b.toUInt32) :: rest) x

namespace WireField

variable {bytes : List UInt8} {fields : List (WireField × UInt32)}
  {x : Except EncodingError (List UInt8)}

theorem Written.narrow {g : UInt8 → Except EncodingError (List UInt8)}
    (hg : ∀ b, Written (bytes ++ [b]) fields (g b)) (field : WireField) (n : UInt32) :
    Written bytes ((field, n) :: fields) (field.narrow n >>= g) := by
  by_cases hn : n ≤ 255
  · obtain ⟨b, rfl⟩ := exists_byte hn
    rw [narrow_toUInt32]
    exact .fits (hg b)
  · have hover : field.narrow n = .error (.fieldOverflow field n) :=
      narrow_eq_error_iff.mpr ⟨UInt32.not_le.mp hn, rfl⟩
    rw [hover]
    exact .overflow (UInt32.not_le.mp hn)

theorem Written.eq_error_iff (h : Written bytes fields x) {e : EncodingError} :
    x = .error e ↔ ∃ field n, fields.find? (fun f => 255 < f.2) = some (field, n) ∧
      e = .fieldOverflow field n := by
  induction h with
  | done => simp
  | overflow hn => simp [hn, eq_comm]
  | @fits _ _ b _ _ _ ih => rw [ih, List.find?_cons_of_neg (by simp [toUInt32_le b])]

theorem Written.eq_ok_iff (h : Written bytes fields x) :
    (∃ payload, x = .ok payload) ↔ ∀ f ∈ fields, f.2 ≤ 255 := by
  induction h with
  | done => simp
  | overflow hn => simp [UInt32.not_le.mpr hn]
  | @fits _ _ b _ _ _ ih => simp [ih, toUInt32_le b]

theorem Written.sublist (h : Written bytes fields x) {payload : List UInt8} (hx : x = .ok payload) :
    ∃ more : List UInt8, more.map UInt8.toUInt32 = fields.map (·.2) ∧
      (bytes ++ more).Sublist payload := by
  induction h with
  | done hsublist =>
    cases hx
    exact ⟨[], rfl, by rwa [List.append_nil]⟩
  | overflow => cases hx
  | @fits _ _ b _ _ _ ih =>
    obtain ⟨more, hmore, hsublist⟩ := ih hx
    exact ⟨b :: more, by rw [List.map_cons, hmore]; rfl, by rwa [List.append_assoc] at hsublist⟩

end WireField

namespace Request

/-- The numbers of a request that have to fit a byte, in the order in which they go over the
wire. -/
def fields : Request → List (WireField × UInt32)
  | actuatorSet scene level duration _ =>
    [(.sceneId, scene), (.dimmingDuration, duration), (.level, level)]
  | actuatorGet scene => [(.sceneId, scene)]
  | controllerSet group scene duration =>
    [(.groupId, group), (.sceneId, scene), (.dimmingDuration, duration)]
  | controllerGet group => [(.groupId, group)]
  | indicatorSet bitmask => [(.indicator, bitmask)]
  | indicatorGet => []
  | associationSet group _ => [(.groupId, group)]
  | associationClear group => [(.groupId, group)]
  | configurationSet parameter value => [(.parameter, parameter), (.value, value)]

theorem written_encode (r : Request) : WireField.Written [] r.fields r.encode := by
  cases r with
  | actuatorSet =>
    refine .narrow
      (fun scene => .narrow (fun duration => .narrow (fun level => .done ?_) _ _) _ _) _ _
    exact .cons _ (.cons_cons _ (.cons_cons _ (.cons _ (List.Sublist.refl _))))
  | controllerSet =>
    refine .narrow
      (fun group => .narrow (fun scene => .narrow (fun duration => .done ?_) _ _) _ _) _ _
    exact .cons _ (List.Sublist.refl _)
  | configurationSet =>
    refine .narrow (fun parameter => .narrow (fun value => .done ?_) _ _) _ _
    exact .cons _ (.cons_cons _ (.cons _ (List.Sublist.refl _)))
  | associationSet =>
    refine .narrow (fun group => .done ?_) _ _
    exact .cons _ (.cons_cons _ (List.nil_sublist _))
  | indicatorGet => exact .done (List.nil_sublist _)
  | _ => exact .narrow (fun _ => .done (.cons _ (.refl _))) _ _

/-! ## Places -/

/-- The request that asks for what another one stores. -/
def question? : Request → Option Request
  | actuatorSet scene _ _ _ => some (.actuatorGet scene)
  | controllerSet group _ _ => some (.controllerGet group)
  | indicatorSet _ => some .indicatorGet
  | _ => none

/-- The report of what a request stores. -/
inductive Tells : Request → Report → Prop where
  | actuatorSet {scene level duration : UInt8} {overrideLevel : Bool} :
      Tells (.actuatorSet scene.toUInt32 level.toUInt32 duration.toUInt32 overrideLevel)
        (.actuator ⟨scene, level, ⟨duration⟩⟩)
  | controllerSet {group scene duration : UInt8} :
      Tells (.controllerSet group.toUInt32 scene.toUInt32 duration.toUInt32)
        (.controller ⟨group, scene, ⟨duration⟩⟩)
  | indicatorSet {lights : UInt8} : Tells (.indicatorSet lights.toUInt32) (.indicator lights)

theorem Tells.unique {r : Request} {a b : Report} (ha : r.Tells a) (hb : r.Tells b) : a = b := by
  cases ha with
  | actuatorSet =>
    generalize hr : Request.actuatorSet _ _ _ _ = s at hb
    cases hb <;> simp_all [UInt8.toUInt32_inj]
  | controllerSet =>
    generalize hr : Request.controllerSet _ _ _ = s at hb
    cases hb <;> simp_all [UInt8.toUInt32_inj]
  | indicatorSet =>
    generalize hr : Request.indicatorSet _ = s at hb
    cases hb <;> simp_all [UInt8.toUInt32_inj]

/-- Whether a frame writes the place that the request writes. -/
def overwrites (r : Request) (f : OutboundFrame) : Bool :=
  match r, f.commandClass, f.payload with
  | actuatorSet scene _ _ _, .sceneActuatorConf, [0x01, s, _, _, _] => s.toUInt32 = scene
  | controllerSet group _ _, .sceneControllerConf, [0x01, g, _, _] => g.toUInt32 = group
  | indicatorSet _, .indicator, 0x01 :: _ :: _ => true
  | _, _, _ => false

end Request

namespace Node

/-- The requests to store something, and the nodes that do. -/
inductive Takes : Node → Request → Prop where
  | actuatorSet {k : Dimmer} {scene level duration : UInt32} {overrideLevel : Bool} :
      k.sceneCapable = true → Takes (.dimmer k) (.actuatorSet scene level duration overrideLevel)
  | controllerSet {k : Keypad} {group scene duration : UInt32} :
    Takes (.keypad k) (.controllerSet group scene duration)
  | indicatorSet {k : Keypad} {bitmask : UInt32} : Takes (.keypad k) (.indicatorSet bitmask)
  | associationSet {k : Keypad} {group : UInt32} {members : List DeviceId} :
      Takes (.keypad k) (.associationSet group members)
  | configurationSet {k : Keypad} {parameter value : UInt32} :
    Takes (.keypad k) (.configurationSet parameter value)

/-- What a request leaves of a node: its place holds the numbers of the request, and a group has the
given members besides those that it had. -/
inductive Stored : Request → Node → Node → Prop where
  | actuatorSet {k : Dimmer} {scene level duration : UInt8} {overrideLevel : Bool}
      {scenes : ByteMap UInt8 (UInt8 × UInt8)} :
      (∀ s, scenes.get? s = if s = scene then some (level, duration) else k.scenes.get? s) →
      Stored (.actuatorSet scene.toUInt32 level.toUInt32 duration.toUInt32 overrideLevel)
        (.dimmer k) (.dimmer { k with scenes })
  | controllerSet {k : Keypad} {group scene duration : UInt8}
    {scenes : ByteMap UInt8 (UInt8 × UInt8)} :
      (∀ g, scenes.get? g = if g = group then some (scene, duration) else k.scenes.get? g) →
      Stored (.controllerSet group.toUInt32 scene.toUInt32 duration.toUInt32) (.keypad k)
        (.keypad { k with scenes })
  | indicatorSet {k : Keypad} {lights : UInt8} :
      Stored (.indicatorSet lights.toUInt32) (.keypad k) (.keypad { k with lights })
  | associationSet {k : Keypad} {group : UInt8} {members : List DeviceId}
    {groups : ByteMap UInt8 (ByteSet DeviceId)}
      {listeners : ByteSet DeviceId} : groups.get? group = some listeners →
      (∀ d, listeners.contains d = true ↔
        d ∈ members ∨ ∃ former, k.groups.get? group = some former ∧ former.contains d = true) →
      (∀ g, g ≠ group → groups.get? g = k.groups.get? g) →
      Stored (.associationSet group.toUInt32 members) (.keypad k) (.keypad { k with groups })
  | configurationSet {k : Keypad} {parameter value : UInt8} {parameters : ByteMap UInt8 UInt8} :
      (∀ p, parameters.get? p = if p = parameter then some value else k.parameters.get? p) →
      Stored (.configurationSet parameter.toUInt32 value.toUInt32) (.keypad k)
        (.keypad { k with parameters })

variable {node : Node} {r : Request} {d : DeviceId} {payload : List UInt8}

theorem Takes.stored (h : node.Takes r) (hp : r.encode = .ok payload) :
    ∃ after, node.receive ⟨d, r.commandClass, payload⟩ = (after, [], []) ∧ Stored r node after := by
  have hfit := r.written_encode.eq_ok_iff.mp ⟨payload, hp⟩
  -- the numbers of a request that is encoded are bytes, and these are what the node stores
  cases h with
  | @actuatorSet k scene level duration overrideLevel hcapable =>
    obtain ⟨scene, rfl⟩ := exists_byte (hfit (.sceneId, scene) (by simp [Request.fields]))
    obtain ⟨level, rfl⟩ := exists_byte (hfit (.level, level) (by simp [Request.fields]))
    obtain ⟨duration, rfl⟩ :=
      exists_byte (hfit (.dimmingDuration, duration) (by simp [Request.fields]))
    simp only [Request.encode, WireField.narrow_toUInt32] at hp
    cases hp
    refine ⟨.dimmer { k with scenes := k.scenes.insert scene (level, duration) }, ?_,
      .actuatorSet fun s => ByteMap.get?_insert _ _ _ _⟩
    simp [receive, Dimmer.receive?, Request.commandClass, hcapable]
  | @controllerSet k group scene duration =>
    obtain ⟨group, rfl⟩ := exists_byte (hfit (.groupId, group) (by simp [Request.fields]))
    obtain ⟨scene, rfl⟩ := exists_byte (hfit (.sceneId, scene) (by simp [Request.fields]))
    obtain ⟨duration, rfl⟩ :=
      exists_byte (hfit (.dimmingDuration, duration) (by simp [Request.fields]))
    simp only [Request.encode, WireField.narrow_toUInt32] at hp
    cases hp
    exact ⟨.keypad { k with scenes := k.scenes.insert group (scene, duration) }, rfl,
      .controllerSet fun g => ByteMap.get?_insert _ _ _ _⟩
  | @indicatorSet k bitmask =>
    obtain ⟨lights, rfl⟩ := exists_byte (hfit (.indicator, bitmask) (by simp [Request.fields]))
    simp only [Request.encode, WireField.narrow_toUInt32] at hp
    cases hp
    exact ⟨.keypad { k with lights }, rfl, .indicatorSet⟩
  | @associationSet k group members =>
    obtain ⟨group, rfl⟩ := exists_byte (hfit (.groupId, group) (by simp [Request.fields]))
    simp only [Request.encode, WireField.narrow_toUInt32] at hp
    cases hp
    let listeners := ByteSet.addAll ((k.groups.get? group).getD ByteMap.empty) members
    refine ⟨.keypad { k with groups := k.groups.insert group listeners }, ?_,
      .associationSet ((ByteMap.get?_insert ..).trans (if_pos rfl)) (fun e => ?_) fun g hg => ?_⟩
    · show _ = (keypad { k with groups := k.groups.insert group (ByteSet.addAll _ members) }, _)
      conv_rhs => rw [← DeviceId.map_mk members]
      rfl
    · rw [ByteSet.contains_addAll]
      cases k.groups.get? group with
      | none => simp [ByteMap.contains]
      | some former => simp
    · rw [ByteMap.get?_insert, if_neg hg]
  | @configurationSet k parameter value =>
    obtain ⟨parameter, rfl⟩ := exists_byte (hfit (.parameter, parameter) (by simp [Request.fields]))
    obtain ⟨value, rfl⟩ := exists_byte (hfit (.value, value) (by simp [Request.fields]))
    simp only [Request.encode, WireField.narrow_toUInt32] at hp
    cases hp
    exact ⟨.keypad { k with parameters := k.parameters.insert parameter value }, rfl,
      .configurationSet fun p => ByteMap.get?_insert _ _ _ _⟩

/-! ## Places that stay -/

/-- A node holds what a report tells. -/
inductive Holds : Node → Report → Prop where
  | actuator {k : Dimmer} {scene level duration : UInt8} : k.sceneCapable = true →
      k.scenes.get? scene = some (level, duration) →
      Holds (.dimmer k) (.actuator ⟨scene, level, ⟨duration⟩⟩)
  | controller {k : Keypad} {group scene duration : UInt8} :
      k.scenes.get? group = some (scene, duration) →
        Holds (.keypad k) (.controller ⟨group, scene, ⟨duration⟩⟩)
  | indicator {k : Keypad} {lights : UInt8} : k.lights = lights →
    Holds (.keypad k) (.indicator lights)

theorem receive_keypad_cases (k : Keypad) (f : OutboundFrame) :
    ∃ k', ((keypad k).receive f).1 = .keypad k' ∧
    ((∃ group scene duration, f.commandClass = .sceneControllerConf ∧
        f.payload = [0x01, group, scene, duration] ∧
        k' = { k with scenes := k.scenes.insert group (scene, duration) }) ∨
      (∃ lights rest, f.commandClass = .indicator ∧ f.payload = 0x01 :: lights :: rest ∧
        k' = { k with lights }) ∨
      k'.scenes = k.scenes ∧ k'.lights = k.lights) := by
  obtain ⟨destination, c, payload⟩ := f
  unfold receive
  cases h : k.receive? c payload with
  | none => exact ⟨k, by simp [h], .inr (.inr ⟨rfl, rfl⟩)⟩
  | some x =>
    refine ⟨x.1, by simp [h], ?_⟩
    unfold Keypad.receive? at h
    split at h <;> cases h <;> try exact .inr (.inr ⟨rfl, rfl⟩)
    next lights rest => exact .inr (.inl ⟨lights, rest, rfl, rfl, rfl⟩)
    next group scene duration => exact .inl ⟨group, scene, duration, rfl, rfl, rfl⟩

theorem receive_dimmer_cases (k : Dimmer) (f : OutboundFrame) :
    ∃ k', ((dimmer k).receive f).1 = .dimmer k' ∧
    ((∃ scene duration flags level, f.commandClass = .sceneActuatorConf ∧
        f.payload = [0x01, scene, duration, flags, level] ∧
        k' = { k with scenes := k.scenes.insert scene (level, duration) }) ∨
      k'.scenes = k.scenes ∧ k'.sceneCapable = k.sceneCapable) := by
  obtain ⟨destination, c, payload⟩ := f
  unfold receive
  cases h : k.receive? c payload with
  | none => exact ⟨k, by simp [h], .inr ⟨rfl, rfl⟩⟩
  | some x =>
    refine ⟨x.1, by simp [h], ?_⟩
    unfold Dimmer.receive? at h
    split at h
    next =>
      cases h
      exact .inr ⟨rfl, rfl⟩
    next scene duration flags level =>
      split at h <;> cases h
      exact .inl ⟨scene, duration, flags, level, rfl, rfl, rfl⟩
    next =>
      split at h <;> cases h
      exact .inr ⟨rfl, rfl⟩
    next => cases h

variable {get : Request} {report : Report} {f : OutboundFrame}

theorem Stored.holds {after : Node} (h : Stored r node after) (hnode : node.Takes r)
    (hget : r.question? = some get) :
    ∃ report, r.Tells report ∧ after.Holds report := by
  cases h with
  | actuatorSet hscenes =>
    generalize hr : Request.actuatorSet _ _ _ _ = s at hnode
    cases hnode with
    | actuatorSet hcapable =>
      cases hr
      exact ⟨_, .actuatorSet, .actuator hcapable ((hscenes _).trans (if_pos rfl))⟩
  | controllerSet hscenes => exact ⟨_, .controllerSet, .controller ((hscenes _).trans (if_pos rfl))⟩
  | indicatorSet => exact ⟨_, .indicatorSet, .indicator rfl⟩
  | associationSet | configurationSet => cases hget

theorem Holds.receive (h : node.Holds report) (htells : r.Tells report)
    (hf : r.overwrites f = false) :
    (node.receive f).1.Holds report := by
  obtain ⟨destination, c, payload⟩ := f
  cases htells with
  | @actuatorSet scene level duration =>
    cases h with
    | @actuator k _ _ _ hcapable hscene =>
      obtain ⟨k', hk', hcases⟩ := receive_dimmer_cases k ⟨destination, c, payload⟩
      rw [hk']
      rcases hcases with ⟨s, _, _, _, rfl, rfl, rfl⟩ | ⟨hscenes, hcapable'⟩
      · have hne : scene ≠ s := by simpa [Request.overwrites, UInt8.toUInt32_inj, eq_comm] using hf
        exact .actuator hcapable (((ByteMap.get?_insert ..).trans (if_neg hne)).trans hscene)
      · exact .actuator (hcapable'.trans hcapable) (by rw [hscenes, hscene])
  | @controllerSet group scene duration =>
    cases h with
    | @controller k _ _ _ hgroup =>
      obtain ⟨k', hk', hcases⟩ := receive_keypad_cases k ⟨destination, c, payload⟩
      rw [hk']
      rcases hcases with ⟨g, _, _, rfl, rfl, rfl⟩ | ⟨_, _, -, -, rfl⟩ | ⟨hscenes, -⟩
      · have hne : group ≠ g := by simpa [Request.overwrites, UInt8.toUInt32_inj, eq_comm] using hf
        exact .controller (((ByteMap.get?_insert ..).trans (if_neg hne)).trans hgroup)
      · exact .controller hgroup
      · exact .controller (by rw [hscenes, hgroup])
  | indicatorSet =>
    cases h with
    | @indicator k _ hlights =>
      obtain ⟨k', hk', hcases⟩ := receive_keypad_cases k ⟨destination, c, payload⟩
      rw [hk']
      rcases hcases with ⟨_, _, _, -, -, rfl⟩ | ⟨_, _, rfl, rfl, -⟩ | ⟨-, hlights'⟩
      · exact .indicator hlights
      · simp [Request.overwrites] at hf
      · exact .indicator (hlights'.trans hlights)

theorem Holds.takeAll (h : node.Holds report) (htells : r.Tells report) {fs : List OutboundFrame}
    (hfs : ∀ f ∈ fs, r.overwrites f = false) : (node.takeAll fs).Holds report := by
  induction fs generalizing node with
  | nil => exact h
  | cons f fs ih =>
    exact ih (h.receive htells (hfs f List.mem_cons_self)) fun g hg =>
      hfs g (List.mem_cons_of_mem _ hg)

theorem descriptor_takeAll (node : Node) (fs : List OutboundFrame) :
    (node.takeAll fs).descriptor = node.descriptor := by
  induction fs generalizing node with
  | nil => rfl
  | cons f fs ih => exact (ih _).trans (node.receive_spec f).1

theorem Holds.answer (h : node.Holds report) (htells : r.Tells report)
    (hget : r.question? = some get) (d : DeviceId) :
    ∃ question reply, get.encode = .ok question ∧
      node.receive ⟨d, get.commandClass, question⟩ = (node, [reply], []) ∧
      Event.decode reply = .ok (some ⟨node.descriptor.id, report⟩) := by
  cases htells with
  | @actuatorSet scene level duration =>
    cases hget
    cases h with
    | @actuator k _ _ _ hcapable hscene =>
      refine ⟨[0x02, scene], .ofClass k.id .sceneActuatorConf [0x03, scene, level, duration], ?_,
        ?_, rfl⟩
      · simp only [Request.encode, WireField.narrow_toUInt32]
        rfl
      · simp [Node.receive, Dimmer.receive?, Request.commandClass, hcapable, hscene]
  | @controllerSet group scene duration =>
    cases hget
    cases h with
    | @controller k _ _ _ hgroup =>
      refine ⟨[0x02, group], .ofClass k.id .sceneControllerConf [0x03, group, scene, duration], ?_,
        ?_, rfl⟩
      · simp only [Request.encode, WireField.narrow_toUInt32]
        rfl
      · simp [Node.receive, Keypad.receive?, Request.commandClass, hgroup]
  | indicatorSet =>
    cases hget
    cases h with
    | @indicator k _ hlights =>
      subst hlights
      exact ⟨[0x02], k.indicatorReport, rfl, rfl, rfl⟩

/-- A request to store something is encoded if its numbers fit bytes, and then has these bytes in
their order; otherwise it is refused for the first that does not fit. A node that takes it stores
what was given, changes nothing else and sends nothing. Where it can be asked back, the node then
reports what was given, whatever frames came in between, unless one of them writes the same
place. -/
theorem stores_and_reports (h : node.Takes r) (d : DeviceId) :
    ((∃ payload, r.encode = .ok payload) ↔ ∀ x ∈ r.fields, x.2 ≤ 255) ∧
      (∀ e, r.encode = .error e ↔
        ∃ field n, r.fields.find? (fun x => 255 < x.2) = some (field, n) ∧
          e = .fieldOverflow field n) ∧
      ∀ payload, r.encode = .ok payload →
        (∃ bytes : List UInt8, bytes.map UInt8.toUInt32 = r.fields.map (·.2) ∧
          bytes.Sublist payload) ∧
        ∃ after, node.receive ⟨d, r.commandClass, payload⟩ = (after, [], []) ∧ Stored r node after ∧
          ∀ get, r.question? = some get → ∃ report, r.Tells report ∧ ∀ fs : List OutboundFrame,
            (∀ f ∈ fs, r.overwrites f = false) → ∃ question reply, get.encode = .ok question ∧
              (after.takeAll fs).receive ⟨d, get.commandClass, question⟩ =
                (after.takeAll fs, [reply], []) ∧
              Event.decode reply = .ok (some ⟨node.descriptor.id, report⟩) := by
  refine ⟨r.written_encode.eq_ok_iff, fun e => r.written_encode.eq_error_iff, fun payload hp => ?_⟩
  obtain ⟨after, hreceive, hstored⟩ := h.stored (d := d) hp
  refine ⟨r.written_encode.sublist hp, after, hreceive, hstored, fun get hget => ?_⟩
  obtain ⟨report, htells, hholds⟩ := hstored.holds h hget
  refine ⟨report, htells, fun fs hfs => ?_⟩
  have hid : (after.takeAll fs).descriptor = node.descriptor := by
    rw [descriptor_takeAll, ← (node.receive_spec ⟨d, r.commandClass, payload⟩).1, hreceive]
  rw [← hid]
  exact (hholds.takeAll htells hfs).answer htells hget d

/-- The group of another button is bound, its own is filled, emptied and asked about, and a bound in
the wrong length is ignored. -/
def inBetween : List OutboundFrame := [
  ⟨⟨2⟩, .sceneControllerConf, [0x01, 5, 8, 0]⟩,
  ⟨⟨2⟩, .association, [0x01, 4, 10, 11]⟩,
  ⟨⟨2⟩, .association, [0x04, 4]⟩,
  ⟨⟨2⟩, .sceneControllerConf, [0x02, 4]⟩,
  ⟨⟨2⟩, .sceneControllerConf, [0x01, 4, 8, 0, 0]⟩]

theorem stores_and_reports_inBetween :
    let node := keypad (.new ⟨2⟩ false)
    node.Takes (.controllerSet 4 7 3) ∧
      (∀ f ∈ inBetween, (Request.controllerSet 4 7 3).overwrites f = false) ∧
      ∃ after reply, node.receive ⟨⟨2⟩, .sceneControllerConf, [0x01, 4, 7, 3]⟩ = (after, [], []) ∧
        (after.takeAll inBetween).receive ⟨⟨2⟩, .sceneControllerConf, [0x02, 4]⟩ =
          (after.takeAll inBetween, [reply], []) ∧
        Event.decode reply = .ok (some ⟨⟨2⟩, .controller ⟨4, 7, ⟨3⟩⟩⟩) := by
  intro node
  have htakes : node.Takes (.controllerSet 4 7 3) := .controllerSet
  have hfs : ∀ f ∈ inBetween, (Request.controllerSet 4 7 3).overwrites f = false := by decide
  obtain ⟨-, -, hstores⟩ := stores_and_reports htakes ⟨2⟩
  obtain ⟨-, after, hreceive, -, hreports⟩ := hstores [0x01, 4, 7, 3] rfl
  obtain ⟨report, htells, hanswer⟩ := hreports _ rfl
  obtain rfl := htells.unique (@Request.Tells.controllerSet 4 7 3)
  obtain ⟨question, reply, hquestion, hreply, hdecode⟩ := hanswer inBetween hfs
  cases hquestion
  exact ⟨htakes, hfs, after, reply, hreceive, hreply, hdecode⟩

end Node

end MeshScenes
