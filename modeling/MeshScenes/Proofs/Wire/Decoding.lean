import MeshScenes.Wire.Event

/-!
# Decoding

The grammar of the reports that nodes send, and what decoding makes of any frame: an event where the
payload is in the grammar, or the error that says where it leaves it.
-/

namespace MeshScenes

/-- A message to the hub: its command, its name in errors, and the number of parameters it cannot do
without. -/
structure Message where
  command : UInt8
  layout : Layout
  parameters : Nat

/-- The messages of a class. As long as the command is not known, errors name the class as a
whole. -/
structure Dialect where
  id : UInt8
  layout : Layout
  least : Nat
  messages : List Message

def dialects : List Dialect := [
  ⟨0x20, .basic, 2, [⟨0x01, .basic, 1⟩, ⟨0x03, .basic, 1⟩]⟩,
  ⟨0x21, .replication, 1,
    [⟨0x31, .transferGroup, 3⟩, ⟨0x32, .transferGroupName, 2⟩,
      ⟨0x33, .transferScene, 4⟩, ⟨0x34, .transferSceneName, 2⟩]⟩,
  ⟨0x2B, .activationSet, 2, [⟨0x01, .activationSet, 1⟩]⟩,
  ⟨0x2C, .actuatorReport, 4, [⟨0x03, .actuatorReport, 3⟩]⟩,
  ⟨0x2D, .controllerReport, 4, [⟨0x03, .controllerReport, 3⟩]⟩,
  ⟨0x87, .indicatorReport, 2, [⟨0x03, .indicatorReport, 1⟩]⟩]

namespace Report

/-- The payloads of a class that carry a report. -/
inductive Written : UInt8 → List UInt8 → Report → Prop where
  | basicSet (value : UInt8) (rest : List UInt8) :
    Written 0x20 (0x01 :: value :: rest) (.basic value)
  | basicReport (value : UInt8) (rest : List UInt8) :
    Written 0x20 (0x03 :: value :: rest) (.basic value)
  | group (sequence group device : UInt8) (rest : List UInt8) :
      Written 0x21 (0x31 :: sequence :: group :: device :: rest)
        (.transfer (.group sequence group device))
  | groupName (sequence group : UInt8) (name : List UInt8) :
      Written 0x21 (0x32 :: sequence :: group :: name) (.transfer (.groupName sequence group name))
  | scene (sequence scene device level : UInt8) (rest : List UInt8) :
      Written 0x21 (0x33 :: sequence :: scene :: device :: level :: rest)
        (.transfer (.scene sequence scene device level))
  | sceneName (sequence scene : UInt8) (name : List UInt8) :
      Written 0x21 (0x34 :: sequence :: scene :: name) (.transfer (.sceneName sequence scene name))
  | activation (scene : UInt8) : Written 0x2B [0x01, scene] (.activation ⟨scene, none⟩)
  | timedActivation (scene duration : UInt8) (rest : List UInt8) :
      Written 0x2B (0x01 :: scene :: duration :: rest) (.activation ⟨scene, some ⟨duration⟩⟩)
  | actuator (scene level duration : UInt8) (rest : List UInt8) :
      Written 0x2C (0x03 :: scene :: level :: duration :: rest)
        (.actuator ⟨scene, level, ⟨duration⟩⟩)
  | controller (group scene duration : UInt8) (rest : List UInt8) :
      Written 0x2D (0x03 :: group :: scene :: duration :: rest)
        (.controller ⟨group, scene, ⟨duration⟩⟩)
  | indicator (bitmask : UInt8) (rest : List UInt8) :
    Written 0x87 (0x03 :: bitmask :: rest) (.indicator bitmask)

/-- The report that is read when more bytes follow: an activation may gain its duration, a name goes
on, and to all other reports they mean nothing. -/
def extended (more : List UInt8) : Report → Report
  | .activation ⟨scene, none⟩ => .activation ⟨scene, more.head?.map Duration.mk⟩
  | .transfer (.groupName sequence group name) =>
    .transfer (.groupName sequence group (name ++ more))
  | .transfer (.sceneName sequence scene name) =>
    .transfer (.sceneName sequence scene (name ++ more))
  | r => r

variable {c : UInt8} {payload : List UInt8} {r : Report}

theorem Written.append (h : Written c payload r) (more : List UInt8) :
    Written c (payload ++ more) (r.extended more) := by
  cases h with
  | basicSet value rest => exact .basicSet value (rest ++ more)
  | basicReport value rest => exact .basicReport value (rest ++ more)
  | group sequence group device rest => exact .group sequence group device (rest ++ more)
  | groupName sequence group name => exact .groupName sequence group (name ++ more)
  | scene sequence scene device level rest =>
    exact .scene sequence scene device level (rest ++ more)
  | sceneName sequence scene name => exact .sceneName sequence scene (name ++ more)
  | activation scene =>
    cases more with
    | nil => exact .activation scene
    | cons duration rest => exact .timedActivation scene duration rest
  | timedActivation scene duration rest => exact .timedActivation scene duration (rest ++ more)
  | actuator scene level duration rest => exact .actuator scene level duration (rest ++ more)
  | controller group scene duration rest => exact .controller group scene duration (rest ++ more)
  | indicator bitmask rest => exact .indicator bitmask (rest ++ more)

theorem written_iff : (∃ r, Written c payload r) ↔ ∃ k ∈ dialects, k.id = c ∧
    ∃ m ∈ k.messages, payload.head? = some m.command ∧ m.parameters < payload.length := by
  constructor
  · intro ⟨r, h⟩
    cases h <;> simp [dialects]
  · rintro ⟨k, hk, rfl, m, hm, hhead, hlength⟩
    obtain ⟨parameters, rfl⟩ := List.head?_eq_some_iff.mp hhead
    have hlength : m.parameters ≤ parameters.length := Nat.le_of_lt_succ hlength
    simp only [dialects, List.mem_cons, List.not_mem_nil, or_false] at hk
    -- message by message: enough parameters are the ones that the report is made of
    rcases hk with rfl | rfl | rfl | rfl | rfl | rfl <;>
      simp only [List.mem_cons, List.not_mem_nil, or_false] at hm
    · rcases hm with rfl | rfl
      · match parameters, hlength with
        | value :: rest, _ => exact ⟨_, .basicSet value rest⟩
      · match parameters, hlength with
        | value :: rest, _ => exact ⟨_, .basicReport value rest⟩
    · rcases hm with rfl | rfl | rfl | rfl
      · match parameters, hlength with
        | sequence :: group :: device :: rest, _ => exact ⟨_, .group sequence group device rest⟩
      · match parameters, hlength with
        | sequence :: group :: name, _ => exact ⟨_, .groupName sequence group name⟩
      · match parameters, hlength with
        | sequence :: scene :: device :: level :: rest, _ =>
          exact ⟨_, .scene sequence scene device level rest⟩
      · match parameters, hlength with
        | sequence :: scene :: name, _ => exact ⟨_, .sceneName sequence scene name⟩
    · subst hm
      match parameters, hlength with
      | [scene], _ => exact ⟨_, .activation scene⟩
      | scene :: duration :: rest, _ => exact ⟨_, .timedActivation scene duration rest⟩
    · subst hm
      match parameters, hlength with
      | scene :: level :: duration :: rest, _ => exact ⟨_, .actuator scene level duration rest⟩
    · subst hm
      match parameters, hlength with
      | group :: scene :: duration :: rest, _ => exact ⟨_, .controller group scene duration rest⟩
    · subst hm
      match parameters, hlength with
      | bitmask :: rest, _ => exact ⟨_, .indicator bitmask rest⟩

end Report

theorem Layout.read_of_ne {α : Type} {layout : Layout} {command c : UInt8} {size : Nat}
    {fields : List UInt8 → Option α} {parameters : List UInt8} (h : command ≠ c) :
    layout.read command size fields (c :: parameters) = .error (.unexpectedCommand layout c) :=
  if_pos (Ne.symm h)

namespace Event

/-- What comes of a frame. -/
inductive Decodes (f : InboundFrame) : Except EncodingError (Option Event) → Prop where
  | foreign : (∀ k ∈ dialects, k.id ≠ f.commandClass) → Decodes f (.ok none)
  | empty {k : Dialect} : k ∈ dialects → k.id = f.commandClass → f.payload = [] →
      Decodes f (.error (.truncated k.layout k.least 0))
  | unexpected {k : Dialect} {command : UInt8} {parameters : List UInt8} : k ∈ dialects →
    k.id = f.commandClass →
      f.payload = command :: parameters → (∀ m ∈ k.messages, m.command ≠ command) →
      Decodes f (.error (.unexpectedCommand k.layout command))
  | short {k : Dialect} {m : Message} {parameters : List UInt8} : k ∈ dialects →
    k.id = f.commandClass →
      m ∈ k.messages → f.payload = m.command :: parameters → parameters.length < m.parameters →
      Decodes f (.error (.truncated m.layout (m.parameters + 1) (parameters.length + 1)))
  | report {r : Report} : Report.Written f.commandClass f.payload r →
    Decodes f (.ok (some ⟨f.source, r⟩))

variable {f : InboundFrame} {source : DeviceId}

theorem exists_decodes (f : InboundFrame) : ∃ r, Decodes f r := by
  by_cases hclass : ∃ k ∈ dialects, k.id = f.commandClass
  · obtain ⟨k, hk, hid⟩ := hclass
    cases hpayload : f.payload with
    | nil => exact ⟨_, .empty hk hid hpayload⟩
    | cons command parameters =>
      by_cases hcommand : ∃ m ∈ k.messages, m.command = command
      · obtain ⟨m, hm, rfl⟩ := hcommand
        rcases Nat.lt_or_ge parameters.length m.parameters with hlength | hlength
        · exact ⟨_, .short hk hid hm hpayload hlength⟩
        · have hhead : f.payload.head? = some m.command ∧ m.parameters < f.payload.length := by
            rw [hpayload]
            exact ⟨rfl, Nat.lt_succ_of_le hlength⟩
          obtain ⟨r, hr⟩ := Report.written_iff.mpr ⟨k, hk, hid, m, hm, hhead⟩
          exact ⟨_, .report hr⟩
      · exact ⟨_, .unexpected hk hid hpayload fun m hm heq => hcommand ⟨m, hm, heq⟩⟩
  · exact ⟨_, .foreign fun k hk hid => hclass ⟨k, hk, hid⟩⟩

theorem decode_of_foreign (h : ∀ k ∈ dialects, k.id ≠ f.commandClass) : decode f = .ok none := by
  unfold decode
  cases hc : CommandClass.ofId? f.commandClass with
  | none => rfl
  | some c =>
    have hid : c.id = f.commandClass := by
      simpa using List.find?_some hc
    rw [← hid] at h
    cases c with
    | configuration | association => rfl
    | _ => exact absurd h (by decide)

theorem decode_of_error {c : CommandClass} {payload : List UInt8} {e : EncodingError}
    (h : Report.decode c payload = .error e) : decode ⟨source, c.id, payload⟩ = .error e := by
  unfold decode
  rw [CommandClass.ofId?_id]
  dsimp only
  rw [h]
  rfl

theorem decode_of_empty {k : Dialect} (hk : k ∈ dialects) :
    decode ⟨source, k.id, []⟩ = .error (.truncated k.layout k.least 0) := by
  simp only [dialects, List.mem_cons, List.not_mem_nil, or_false] at hk
  rcases hk with rfl | rfl | rfl | rfl | rfl | rfl <;> rfl

theorem decode_of_unexpected {k : Dialect} {command : UInt8} {parameters : List UInt8}
    (hk : k ∈ dialects) (hcommand : ∀ m ∈ k.messages, m.command ≠ command) :
    decode ⟨source, k.id, command :: parameters⟩ =
      .error (.unexpectedCommand k.layout command) := by
  simp only [dialects, List.mem_cons, List.not_mem_nil, or_false] at hk
  rcases hk with rfl | rfl | rfl | rfl | rfl | rfl <;>
    simp only [List.mem_cons, List.not_mem_nil, or_false, forall_eq_or_imp, forall_eq] at hcommand
  · apply decode_of_error (c := .basic)
    unfold Report.decode decodeBasic
    rw [List.head?_cons, if_neg (by simpa using Ne.symm hcommand.1), Layout.read_of_ne hcommand.2]
    rfl
  · apply decode_of_error (c := .controllerReplication)
    obtain ⟨hgroup, hgroupName, hscene, hsceneName⟩ := hcommand
    have htransfer : Transfer.decode (command :: parameters) =
        .error (.unexpectedCommand .replication command) := by
      unfold Transfer.decode
      split <;> rename_i heq <;> cases heq
      · exact absurd rfl hgroup
      · exact absurd rfl hgroupName
      · exact absurd rfl hscene
      · exact absurd rfl hsceneName
      · rfl
    exact congrArg (Except.map _) htransfer
  · exact decode_of_error (c := .sceneActivation)
      (congrArg (Except.map _) (Layout.read_of_ne hcommand))
  · exact decode_of_error (c := .sceneActuatorConf)
      (congrArg (Except.map _) (Layout.read_of_ne hcommand))
  · exact decode_of_error (c := .sceneControllerConf)
      (congrArg (Except.map _) (Layout.read_of_ne hcommand))
  · exact decode_of_error (c := .indicator) (congrArg (Except.map _) (Layout.read_of_ne hcommand))

theorem decode_of_short {k : Dialect} {m : Message} {parameters : List UInt8} (hk : k ∈ dialects)
    (hm : m ∈ k.messages) (hlength : parameters.length < m.parameters) :
    decode ⟨source, k.id, m.command :: parameters⟩ =
      .error (.truncated m.layout (m.parameters + 1) (parameters.length + 1)) := by
  simp only [dialects, List.mem_cons, List.not_mem_nil, or_false] at hk
  rcases hk with rfl | rfl | rfl | rfl | rfl | rfl <;>
    simp only [List.mem_cons, List.not_mem_nil, or_false] at hm
  · rcases hm with rfl | rfl <;> match parameters, hlength with | [], _ => rfl
  · rcases hm with rfl | rfl | rfl | rfl
    · match parameters, hlength with
      | [], _ | [_], _ | [_, _], _ => rfl
    · match parameters, hlength with
      | [], _ | [_], _ => rfl
    · match parameters, hlength with
      | [], _ | [_], _ | [_, _], _ | [_, _, _], _ => rfl
    · match parameters, hlength with
      | [], _ | [_], _ => rfl
  · subst hm
    match parameters, hlength with
    | [], _ => rfl
  · subst hm
    match parameters, hlength with
    | [], _ | [_], _ | [_, _], _ => rfl
  · subst hm
    match parameters, hlength with
    | [], _ | [_], _ | [_, _], _ => rfl
  · subst hm
    match parameters, hlength with
    | [], _ => rfl

theorem decode_of_written {c : UInt8} {payload : List UInt8} {r : Report}
    (h : Report.Written c payload r) :
    decode ⟨source, c, payload⟩ = .ok (some ⟨source, r⟩) := by
  cases h <;> rfl

theorem decode_eq_iff {r : Except EncodingError (Option Event)} : decode f = r ↔ Decodes f r := by
  have hdecode : ∀ {r}, Decodes f r → decode f = r := by
    intro r h
    obtain ⟨source, c, payload⟩ := f
    cases h with
    | foreign h => exact decode_of_foreign h
    | empty hk hid hpayload =>
      subst hid hpayload
      exact decode_of_empty hk
    | unexpected hk hid hpayload hcommand =>
      subst hid hpayload
      exact decode_of_unexpected hk hcommand
    | short hk hid hm hpayload hlength =>
      subst hid hpayload
      exact decode_of_short hk hm hlength
    | report hr => exact decode_of_written hr
  refine ⟨?_, hdecode⟩
  rintro rfl
  obtain ⟨r, hr⟩ := exists_decodes f
  rwa [hdecode hr]

/-- What decoding makes of any frame. A class without reports gives no event. A payload whose
command is not one of its class is refused for the command, whatever its length; one that is empty,
or has too few parameters for its command, is refused with its length. Every other payload gives the
event that the grammar says, and does so with more bytes behind it too. -/
theorem decode_grammar (source : DeviceId) (c : UInt8) (payload : List UInt8) :
    (decode ⟨source, c, payload⟩ = .ok none ↔ ∀ k ∈ dialects, k.id ≠ c) ∧
      (∀ layout command, decode ⟨source, c, payload⟩ = .error (.unexpectedCommand layout command) ↔
        ∃ k ∈ dialects, k.id = c ∧ k.layout = layout ∧ payload.head? = some command ∧
          ∀ m ∈ k.messages, m.command ≠ command) ∧
      (∀ layout size actual, decode ⟨source, c, payload⟩ = .error (.truncated layout size actual) ↔
        actual = payload.length ∧ ∃ k ∈ dialects, k.id = c ∧
          (payload = [] ∧ k.layout = layout ∧ k.least = size ∨
            ∃ m ∈ k.messages, payload.head? = some m.command ∧
            payload.length ≤ m.parameters ∧ m.layout = layout ∧ m.parameters + 1 = size)) ∧
      (∀ field n, decode ⟨source, c, payload⟩ ≠ .error (.fieldOverflow field n)) ∧
      ((∃ e, decode ⟨source, c, payload⟩ = .ok (some e)) ↔ ∃ k ∈ dialects, k.id = c ∧
        ∃ m ∈ k.messages, payload.head? = some m.command ∧ m.parameters < payload.length) ∧
      (∀ e, decode ⟨source, c, payload⟩ = .ok (some e) ↔
        e.source = source ∧ Report.Written c payload e.report) ∧
      ∀ e more, decode ⟨source, c, payload⟩ = .ok (some e) →
        decode ⟨source, c, payload ++ more⟩ = .ok (some ⟨source, e.report.extended more⟩) := by
  -- the outcomes are the constructors of `Decodes`, so each part is an inversion
  simp only [decode_eq_iff]
  have hevent : ∀ e, Decodes ⟨source, c, payload⟩ (.ok (some e)) ↔
      e.source = source ∧ Report.Written c payload e.report := by
    intro ⟨s, r⟩
    constructor
    · intro h
      cases h with
      | report hr => exact ⟨rfl, hr⟩
    · rintro ⟨rfl, hr⟩
      exact .report hr
  refine ⟨⟨?_, fun h => .foreign h⟩, fun layout command => ⟨?_, ?_⟩, fun layout size actual =>
    ⟨?_, ?_⟩, ?_, ?_, hevent, ?_⟩
  · intro h
    cases h with
    | foreign h => exact h
  · intro h
    cases h with
    | @unexpected k _ parameters hk hid hpayload hcommand =>
      refine ⟨k, hk, hid, rfl, ?_, hcommand⟩
      rw [show payload = _ from hpayload]
      rfl
  · rintro ⟨k, hk, hid, rfl, hhead, hcommand⟩
    obtain ⟨parameters, rfl⟩ := List.head?_eq_some_iff.mp hhead
    exact .unexpected hk hid rfl hcommand
  · intro h
    cases h with
    | @empty k hk hid hpayload =>
      obtain rfl : payload = [] := hpayload
      exact ⟨rfl, k, hk, hid, .inl ⟨rfl, rfl, rfl⟩⟩
    | @short k m parameters hk hid hm hpayload hlength =>
      obtain rfl : payload = m.command :: parameters := hpayload
      exact ⟨rfl, k, hk, hid, .inr ⟨m, hm, rfl, hlength, rfl, rfl⟩⟩
  · rintro ⟨rfl, k, hk, hid, ⟨rfl, rfl, rfl⟩ | ⟨m, hm, hhead, hlength, rfl, rfl⟩⟩
    · exact .empty hk hid rfl
    · obtain ⟨parameters, rfl⟩ := List.head?_eq_some_iff.mp hhead
      exact .short hk hid hm rfl hlength
  · intro field n h
    cases decode_eq_iff.mp h
  · rw [← Report.written_iff]
    exact ⟨fun ⟨e, he⟩ => ⟨e.report, ((hevent e).mp he).2⟩, fun ⟨r, hr⟩ => ⟨_, .report hr⟩⟩
  · intro e more h
    exact .report (((hevent e).mp h).2.append more)

/-- A wrong command is told before a short payload. -/
example : decode ⟨⟨12⟩, 0x2C, [0x01, 7]⟩ = .error (.unexpectedCommand .actuatorReport 0x01) := rfl

end Event

end MeshScenes
