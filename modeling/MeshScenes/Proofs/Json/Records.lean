import MeshScenes.Json.Records
import MeshScenes.Proofs.Timestamp

/-!
# Reading the JSON forms

Each record of a snapshot is read back from the JSON value that it is written as.
-/

namespace MeshScenes

open Json JsonValue

namespace Json

def known (names : List String) (fields : List (String × JsonValue)) : List (String × JsonValue) :=
  fields.filter fun f => names.contains f.1

theorem mem_known {names : List String} {fields : List (String × JsonValue)}
    {f : String × JsonValue} :
    f ∈ known names fields ↔ f ∈ fields ∧ f.1 ∈ names := by
  unfold known
  rw [List.mem_filter, List.contains_iff_mem]

theorem mapM_named_eq_some_iff {fields : List (Option String × JsonValue)}
    {named : List (String × JsonValue)} :
    fields.mapM (fun f => f.1.map fun name => (name, f.2)) = some named ↔
      fields = named.map fun f => (some f.1, f.2) := by
  induction fields generalizing named with
  | nil => cases named <;> simp
  | cons f fields ih =>
    obtain ⟨name, v⟩ := f
    rw [List.mapM_cons]
    cases name with
    | none => cases named <;> simp
    | some name =>
      simp only [Option.map_some, Option.bind_eq_bind, Option.bind_some, Option.bind_eq_some_iff,
        Option.pure_def, Option.some.injEq, ih]
      cases named with
      | nil => simp
      | cons g named =>
        rw [List.map_cons]
        constructor
        · rintro ⟨_, rfl, heq⟩
          obtain ⟨rfl, rfl⟩ := List.cons_eq_cons.mp heq
          rfl
        · intro heq
          obtain ⟨hfirst, rfl⟩ := List.cons_eq_cons.mp heq
          cases hfirst
          exact ⟨named, rfl, rfl⟩

theorem Fields.read?_object_eq_some_iff {names : List String}
    {fields : List (Option String × JsonValue)} {f : Fields} :
    Fields.read? names (.object fields) = some f ↔
      ∃ named, fields = named.map (fun e => (some e.1, e.2)) ∧
        isRepeated ((known names named).map (·.1)) = false ∧
        f = ⟨true, known names named⟩ := by
  have hread : Fields.read? names (.object fields) =
      (fields.mapM fun f : Option String × JsonValue => f.1.map fun name =>
        (name, f.2)).bind fun named =>
        if isRepeated ((known names named).map (·.1)) then none
          else some (⟨true, known names named⟩ : Fields) := rfl
  simp only [hread, Option.bind_eq_some_iff, mapM_named_eq_some_iff]
  apply exists_congr
  intro named
  cases isRepeated ((known names named).map (·.1)) <;> simp [eq_comm]

theorem Fields.read?_ofFields {names : List String} {fields : List (String × JsonValue)}
    (hnames : fields.map (·.1) = names) (hdistinct : isRepeated names = false) :
    Fields.read? names (ofFields fields) = some ⟨true, fields⟩ := by
  have hknown : known names fields = fields := by
    apply List.filter_eq_self.mpr
    intro f hf
    rw [← hnames, List.contains_iff_mem]
    exact List.mem_map_of_mem hf
  refine read?_object_eq_some_iff.mpr ⟨fields, rfl, ?_, ?_⟩
  · rw [hknown, hnames, hdistinct]
  · rw [hknown]

theorem readByte?_ofByte (n : UInt8) : readByte? (ofByte n) = some n := by
  show ((if n.toNat < 256 then some n.toNat else none) : Option Nat).map UInt8.ofNat = _
  rw [if_pos n.toNat_lt]
  exact congrArg some UInt8.ofNat_toNat

theorem readList?_map_of_mem {α β : Type} {read : JsonValue → Option α} {write : β → JsonValue}
    {f : β → α} {bs : List β} (h : ∀ b ∈ bs, read (write b) = some (f b)) :
    readList? read (array (bs.map write)) = some (bs.map f) := by
  show (bs.map write).mapM read = some (bs.map f)
  induction bs with
  | nil => rfl
  | cons b bs ih =>
    rw [List.map_cons, List.mapM_cons, h b List.mem_cons_self, ih fun c hc =>
      h c (List.mem_cons_of_mem _ hc)]
    rfl

theorem readList?_map {α : Type} {read : JsonValue → Option α} {write : α → JsonValue}
    (h : ∀ a, read (write a) = some a) (as : List α) :
    readList? read (array (as.map write)) = some as := by
  rw [readList?_map_of_mem (f := id) fun a _ => h a, List.map_id]

end Json

theorem DeviceId.ofJson?_toJson (d : DeviceId) : ofJson? d.toJson = some d := by
  unfold ofJson? toJson
  rw [readByte?_ofByte]
  rfl

theorem ButtonId.ofJson?_toJson (b : ButtonId) : ofJson? b.toJson = some b := by
  unfold ofJson? toJson
  rw [readByte?_ofByte]
  rfl

theorem SceneId.ofJson?_toJson (s : SceneId) : ofJson? s.toJson = some s := by
  show (readByte? (JsonValue.ofByte s.byte)).bind ofByte? = _
  rw [readByte?_ofByte]
  exact ofByte?_byte s

theorem Duration.ofJson?_toJson (d : Duration) : ofJson? d.toJson = some d := by
  unfold ofJson? toJson
  rw [readByte?_ofByte]
  rfl

theorem DeviceRecord.ofJson?_toJson (r : DeviceRecord) : ofJson? r.toJson = some r := by
  unfold ofJson? toJson
  rw [Fields.read?_ofFields (by rfl) (by decide)]
  simp [Fields.required?, Fields.get?, List.lookup_cons, DeviceId.ofJson?_toJson, readByte?_ofByte]

theorem ControllerRecord.ofJson?_toJson (r : ControllerRecord) : ofJson? r.toJson = some r := by
  unfold ofJson? toJson
  rw [Fields.read?_ofFields (by rfl) (by decide)]
  simp [Fields.required?, Fields.get?, List.lookup_cons, DeviceId.ofJson?_toJson,
    ButtonId.ofJson?_toJson]

theorem SceneRecord.ofJson?_toJson (r : SceneRecord) : ofJson? r.toJson = some r := by
  unfold ofJson? toJson
  rw [Fields.read?_ofFields (by rfl) (by decide)]
  simp [Fields.required?, Fields.withDefault?, Fields.get?, List.lookup_cons,
    SceneId.ofJson?_toJson, Duration.ofJson?_toJson, readText?, readBool?,
    readList?_map DeviceRecord.ofJson?_toJson, readList?_map ControllerRecord.ofJson?_toJson]

theorem Timestamp.ofJson?_toJson (t : Timestamp) : ofJson? t.toJson = some t := parse?_render t

theorem Snapshot.ofJson?_toJson (s : Snapshot) : ofJson? s.toJson = some s := by
  unfold ofJson? toJson
  rw [Fields.read?_ofFields (by rfl) (by decide)]
  obtain ⟨savedAt, scenes⟩ := s
  cases savedAt with
  | none =>
    simp [Fields.required?, Fields.optional?, Fields.get?, List.lookup_cons,
      readList?_map SceneRecord.ofJson?_toJson]
  | some t =>
    have hread : Timestamp.ofJson? (text t.render) = some t := Timestamp.ofJson?_toJson t
    simp [Fields.required?, Fields.optional?, Fields.get?, List.lookup_cons,
      readList?_map SceneRecord.ofJson?_toJson, Timestamp.toJson, hread]

end MeshScenes
