import Mathlib.Data.List.Nodup
import Mathlib.Data.String.Basic
import MeshScenes.Hub.Storage
import MeshScenes.Proofs.Json.Parsing
import MeshScenes.Proofs.Json.Records

/-!
# Records of other versions

The record of a scene may leave out what has a default, name what no version knows yet, and do so in
any order (`Varied`). What remains is read as it was written. A record that cannot be read
(`Faulty`) makes the whole snapshot one that is not loaded.
-/

namespace MeshScenes

open Json JsonValue

/-! ## Fields by name -/

namespace Json

variable {names : List String} {name : String} {v : JsonValue}

theorem isRepeated_eq_false_iff : isRepeated names = false ↔ names.Nodup := by
  induction names with
  | nil => simp [isRepeated]
  | cons n names ih => simp [isRepeated, ih, List.nodup_cons]

theorem lookup_eq_some_iff {fields : List (String × JsonValue)}
    (hdistinct : (fields.map (·.1)).Nodup) :
    fields.lookup name = some v ↔ (name, v) ∈ fields := by
  induction fields with
  | nil => simp
  | cons f fields ih =>
    rw [List.map_cons, List.nodup_cons] at hdistinct
    rw [List.lookup_cons, List.mem_cons]
    by_cases hname : name = f.1
    · have hother : (name, v) ∉ fields := fun h => hdistinct.1 (hname ▸ List.mem_map_of_mem h)
      rw [hname, beq_self_eq_true]
      simp only [Option.some.injEq]
      constructor
      · rintro rfl
        exact .inl rfl
      · rintro (h | h)
        · rw [← h]
        · exact absurd (hname ▸ h) hother
    · have hne : (name, v) ≠ f := fun h => hname (congrArg Prod.fst h)
      rw [beq_false_of_ne hname]
      simp only [ih hdistinct.2, hne, false_or]

theorem Fields.get?_object_iff {fields : List (Option String × JsonValue)} {f : Fields}
    (h : Fields.read? names (.object fields) = some f) (hname : name ∈ names) :
    f.get? name = some v ↔ (some name, v) ∈ fields := by
  obtain ⟨named, rfl, hdistinct, rfl⟩ := Fields.read?_object_eq_some_iff.mp h
  show (known names named).lookup name = some v ↔ _
  rw [lookup_eq_some_iff (isRepeated_eq_false_iff.mp hdistinct), mem_known, List.mem_map]
  constructor
  · rintro ⟨hmem, -⟩
    exact ⟨_, hmem, rfl⟩
  · rintro ⟨e, hmem, heq⟩
    cases heq
    exact ⟨hmem, hname⟩

theorem Fields.count_le_one {fields : List (Option String × JsonValue)} {f : Fields}
    (h : Fields.read? names (.object fields) = some f) (hname : name ∈ names) :
    (fields.map (·.1)).count (some name) ≤ 1 := by
  obtain ⟨named, rfl, hdistinct, rfl⟩ := Fields.read?_object_eq_some_iff.mp h
  have hcount : (named.map (·.1)).count name ≤ 1 := by
    have hle := List.nodup_iff_count_le_one.mp (isRepeated_eq_false_iff.mp hdistinct) name
    have hsame : ((known names named).map (·.1)) = (named.map (·.1)).filter names.contains := by
      unfold known
      rw [List.filter_map]
      rfl
    rwa [hsame, List.count_filter (List.contains_iff_mem.mpr hname)] at hle
  have hmap : (named.map fun e => (some e.1, e.2)).map (·.1) = (named.map (·.1)).map some := by
    rw [List.map_map, List.map_map]
    rfl
  rw [hmap, List.count_map_of_injective _ _ (Option.some_injective String)]
  exact hcount

theorem Fields.read?_array {items : List JsonValue} {f : Fields}
    (h : Fields.read? names (.array items) = some f) :
    f = ⟨false, names.zip items⟩ := by
  unfold Fields.read? at h
  dsimp only at h
  split at h
  · cases h
  · cases h
    rfl

theorem Fields.required?_eq_some {α : Type} {f : Fields} {read : JsonValue → Option α} {a : α}
    (h : f.required? name read = some a) : ∃ v, f.get? name = some v ∧ read v = some a :=
  Option.bind_eq_some_iff.mp h

theorem readList?_eq_none {α : Type} {read : JsonValue → Option α} {items : List JsonValue}
    (hv : v ∈ items) (h : read v = none) : readList? read (.array items) = none := by
  show items.mapM read = none
  induction items with
  | nil => cases hv
  | cons w items ih =>
    rw [List.mapM_cons]
    rcases List.mem_cons.mp hv with rfl | hv
    · rw [h]
      rfl
    · rw [ih hv]
      cases read w <;> rfl

end Json

/-! ## Records that vary -/

namespace SceneRecord

def names : List String := ["id", "name", "duration", "override_level", "devices", "controllers"]

def optionalNames : List String := ["duration", "override_level", "devices", "controllers"]

def fields (r : SceneRecord) : List (String × JsonValue) :=
  [("id", r.id.toJson), ("name", text r.name), ("duration", r.duration.toJson),
    ("override_level", bool r.overrideLevel),
    ("devices", array (r.devices.map DeviceRecord.toJson)),
    ("controllers", array (r.controllers.map ControllerRecord.toJson))]

example (r : SceneRecord) : r.toJson = ofFields r.fields := rfl

/-- The fields of objects that come from the one written, by any number of changes in any order. -/
inductive Varied (r : SceneRecord) : List (String × JsonValue) → Prop where
  | written : Varied r r.fields
  | reordered {fs gs : List (String × JsonValue)} : Varied r fs → fs.Perm gs → Varied r gs
  | inserted {before after : List (String × JsonValue)} {name : String} (v : JsonValue) :
      Varied r (before ++ after) → name ∉ names → Varied r (before ++ (name, v) :: after)
  | leftOut {before after : List (String × JsonValue)} {name : String} {v : JsonValue} :
      Varied r (before ++ (name, v) :: after) → name ∈ optionalNames → Varied r (before ++ after)

/-- The record with the defaults for what is not named: three seconds, the override, no devices, no
controllers. -/
def restrictedTo (r : SceneRecord) (given : List String) : SceneRecord where
  id := r.id
  name := r.name
  duration := if "duration" ∈ given then r.duration else ⟨3⟩
  overrideLevel := if "override_level" ∈ given then r.overrideLevel else true
  devices := if "devices" ∈ given then r.devices else []
  controllers := if "controllers" ∈ given then r.controllers else []

/-- What all varied objects have in common. -/
structure Tells (r : SceneRecord) (fs : List (String × JsonValue)) : Prop where
  distinct : ((known names fs).map (·.1)).Nodup
  own : ∀ f ∈ fs, f.1 ∈ names → f ∈ r.fields
  required : ∀ name ∈ names, name ∉ optionalNames → name ∈ fs.map (·.1)

variable {r : SceneRecord} {fs : List (String × JsonValue)}

theorem nodup_fields (r : SceneRecord) : (r.fields.map (·.1)).Nodup := by
  show names.Nodup
  decide

theorem Varied.tells (h : r.Varied fs) : r.Tells fs := by
  induction h with
  | written =>
    exact ⟨(List.filter_sublist.map _).nodup r.nodup_fields, fun f hf _ => hf,
      fun name hname _ => hname⟩
  | reordered _ hperm ih =>
    refine ⟨?_, fun f hf => ih.own f (hperm.symm.subset hf), fun name hname hrequired => ?_⟩
    · exact ((hperm.filter _).map _).nodup_iff.mp ih.distinct
    · exact (hperm.map _).subset (ih.required name hname hrequired)
  | @inserted before after name v _ hname ih =>
    refine ⟨?_, fun f hf hf' => ih.own f ?_ hf', fun n hn hrequired => ?_⟩
    · -- A name that is not known does not show among the known fields.
      have hsame : known names (before ++ (name, v) :: after) = known names (before ++ after) := by
        unfold known
        rw [List.filter_append, List.filter_append, List.filter_cons_of_neg]
        rwa [List.contains_iff_mem]
      rw [hsame]
      exact ih.distinct
    · rcases List.mem_append.mp hf with hf | hf
      · exact List.mem_append_left _ hf
      · rcases List.mem_cons.mp hf with rfl | hf
        · exact absurd hf' hname
        · exact List.mem_append_right _ hf
    · have hsub : (before ++ after).Sublist (before ++ (name, v) :: after) :=
        (List.sublist_cons_self _ _).append_left before
      exact (hsub.map _).subset (ih.required n hn hrequired)
  | @leftOut before after name v _ hname ih =>
    have hsub : (before ++ after).Sublist (before ++ (name, v) :: after) :=
      (List.sublist_cons_self _ _).append_left before
    refine ⟨((hsub.filter _).map _).nodup ih.distinct, fun f hf => ih.own f (hsub.subset hf),
      fun n hn hrequired => ?_⟩
    -- What is left out was not required.
    have hmem := ih.required n hn hrequired
    have hne : n ≠ name := fun heq => hrequired (heq ▸ hname)
    simpa [hne] using hmem

theorem Tells.lookup_eq (h : r.Tells fs) {name : String} (hname : name ∈ names) :
    (known names fs).lookup name = if name ∈ fs.map (·.1) then r.fields.lookup name else none := by
  by_cases hmem : name ∈ fs.map (·.1)
  · rw [if_pos hmem]
    obtain ⟨⟨n, v⟩, hf, rfl⟩ := List.mem_map.mp hmem
    rw [(lookup_eq_some_iff h.distinct).mpr (mem_known.mpr ⟨hf, hname⟩),
      (lookup_eq_some_iff r.nodup_fields).mpr (h.own _ hf hname)]
  · rw [if_neg hmem]
    apply Option.eq_none_iff_forall_ne_some.mpr
    intro v hv
    exact hmem (List.mem_map_of_mem (mem_known.mp ((lookup_eq_some_iff h.distinct).mp hv)).1)

section
variable {α : Type} {name : String} {read : JsonValue → Option α} {v : JsonValue} {a : α}

theorem Tells.required? (h : r.Tells fs) (hname : name ∈ names) (hrequired : name ∉ optionalNames)
    (hv : r.fields.lookup name = some v) (hread : read v = some a) :
    Fields.required? ⟨true, known names fs⟩ name read = some a := by
  unfold Fields.required? Fields.get?
  rw [h.lookup_eq hname, if_pos (h.required name hname hrequired), hv]
  exact hread

theorem Tells.withDefault? (h : r.Tells fs) (hname : name ∈ names)
    (hv : r.fields.lookup name = some v) (hread : read v = some a) (value : α) :
    Fields.withDefault? ⟨true, known names fs⟩ name value read =
      some (if name ∈ fs.map (·.1) then a else value) := by
  unfold Fields.withDefault? Fields.get?
  rw [h.lookup_eq hname]
  by_cases hmem : name ∈ fs.map (·.1)
  · simp only [if_pos hmem, hv, hread]
  · simp only [if_neg hmem]

end

theorem Varied.ofJson? (h : r.Varied fs) :
    SceneRecord.ofJson? (ofFields fs) = some (r.restrictedTo (fs.map (·.1))) := by
  have ht := h.tells
  let f : Fields := ⟨true, known names fs⟩
  let given := fs.map (·.1)
  have hread : Fields.read? names (ofFields fs) = some f :=
    Fields.read?_object_eq_some_iff.mpr ⟨fs, rfl, isRepeated_eq_false_iff.mpr ht.distinct, rfl⟩
  have hid : f.required? "id" SceneId.ofJson? = some r.id :=
    ht.required? (by decide) (by decide) rfl r.id.ofJson?_toJson
  have hname : f.required? "name" readText? = some r.name :=
    ht.required? (by decide) (by decide) rfl rfl
  have hduration : f.withDefault? "duration" default Duration.ofJson? =
      some (if "duration" ∈ given then r.duration else default) :=
    ht.withDefault? (by decide) rfl r.duration.ofJson?_toJson default
  have hoverride : f.withDefault? "override_level" true readBool? =
      some (if "override_level" ∈ given then r.overrideLevel else true) :=
    ht.withDefault? (by decide) rfl (show readBool? (bool r.overrideLevel) = _ from rfl) true
  have hdevices : f.withDefault? "devices" [] (readList? DeviceRecord.ofJson?) =
      some (if "devices" ∈ given then r.devices else []) :=
    ht.withDefault? (by decide) rfl (readList?_map DeviceRecord.ofJson?_toJson r.devices) []
  have hcontrollers : f.withDefault? "controllers" [] (readList? ControllerRecord.ofJson?) =
      some (if "controllers" ∈ given then r.controllers else []) :=
    ht.withDefault? (by decide) rfl (readList?_map ControllerRecord.ofJson?_toJson r.controllers) []
  unfold SceneRecord.ofJson?
  rw [show Fields.read? ["id", "name", "duration", "override_level", "devices", "controllers"]
    (ofFields fs) = some f from hread]
  simp only [Option.bind_eq_bind, Option.bind_some, hid, hname, hduration, hoverride, hdevices,
    hcontrollers]
  rfl

/-! ## Records that cannot be read -/

def NoId (v : JsonValue) : Prop := ∀ n, 1 ≤ n → n ≤ 255 → v ≠ natural n

/-- A record without what it needs, one that says something twice, and one with an id that is none.
As an array the record has its fields by their places, the id first and then the name. -/
inductive Faulty : JsonValue → Prop where
  | missing {fields : List (Option String × JsonValue)} {name : String} :
      name = "id" ∨ name = "name" → (∀ v, (some name, v) ∉ fields) → Faulty (.object fields)
  | repeated {fields : List (Option String × JsonValue)} {name : String} :
      name ∈ names → 2 ≤ (fields.map (·.1)).count (some name) → Faulty (.object fields)
  | noId {fields : List (Option String × JsonValue)} {v : JsonValue} :
      (some "id", v) ∈ fields → NoId v → Faulty (.object fields)
  | short {items : List JsonValue} : items.length < 2 → Faulty (.array items)
  | noIdFirst {v : JsonValue} (items : List JsonValue) : NoId v → Faulty (.array (v :: items))

theorem ofJson?_of_noId {v : JsonValue} (h : NoId v) : SceneId.ofJson? v = none := by
  apply Option.eq_none_iff_forall_ne_some.mpr
  intro id hid
  obtain ⟨b, hb, hid⟩ := Option.bind_eq_some_iff.mp hid
  obtain ⟨n, hn, rfl⟩ := Option.map_eq_some_iff.mp hb
  unfold readNatural? at hn
  split at hn
  next m =>
    split at hn
    next hlt =>
      cases hn
      refine h n ?_ (by omega) rfl
      apply Nat.one_le_iff_ne_zero.mpr
      rintro rfl
      cases hid
    next => cases hn
  next => cases hn

theorem ofJson?_eq_some {v : JsonValue} (h : SceneRecord.ofJson? v = some r) :
    ∃ f, Fields.read? names v = some f ∧ f.required? "id" SceneId.ofJson? = some r.id ∧
      f.required? "name" readText? = some r.name := by
  unfold SceneRecord.ofJson? at h
  simp only [Option.bind_eq_bind, Option.bind_eq_some_iff] at h
  obtain ⟨f, hf, id, hid, name, hname, _, -, _, -, _, -, _, -, heq⟩ := h
  cases heq
  exact ⟨f, hf, hid, hname⟩

theorem Faulty.ofJson? {v : JsonValue} (h : Faulty v) : SceneRecord.ofJson? v = none := by
  apply Option.eq_none_iff_forall_ne_some.mpr
  intro r hr
  obtain ⟨f, hf, hid, hname⟩ := ofJson?_eq_some hr
  obtain ⟨v, hv, hread⟩ := Fields.required?_eq_some hid
  obtain ⟨w, hw, -⟩ := Fields.required?_eq_some hname
  cases h with
  | missing hname habsent =>
    rcases hname with rfl | rfl
    · exact habsent v ((Fields.get?_object_iff hf (by decide)).mp hv)
    · exact habsent w ((Fields.get?_object_iff hf (by decide)).mp hw)
  | repeated hname hcount =>
    have := Fields.count_le_one hf hname
    omega
  | noId hmem hno =>
    rw [(Fields.get?_object_iff hf (by decide)).mpr hmem] at hv
    cases hv
    rw [ofJson?_of_noId hno] at hread
    cases hread
  | @short items hlength =>
    cases Fields.read?_array hf
    match items, hlength with
    | [], _ => cases hv
    | [_], _ => cases hw
  | noIdFirst items hno =>
    cases Fields.read?_array hf
    cases hv
    rw [ofJson?_of_noId hno] at hread
    cases hread

def read? (text : String) : Option SceneRecord := (JsonValue.parse? text).bind ofJson?

end SceneRecord

/-! ## Snapshots -/

namespace Snapshot

/-- The record is one of the scenes of a snapshot, given by names or by place. -/
inductive Lists : JsonValue → JsonValue → Prop where
  | named {fields : List (Option String × JsonValue)} {items : List JsonValue} {v : JsonValue} :
      (some "scenes", .array items) ∈ fields → v ∈ items → Lists (.object fields) v
  | placed (savedAt : JsonValue) {items : List JsonValue} {v : JsonValue} (more : List JsonValue) :
      v ∈ items → Lists (.array (savedAt :: .array items :: more)) v

theorem Lists.ofJson? {v w : JsonValue} (h : Lists v w) (hw : SceneRecord.Faulty w) :
    Snapshot.ofJson? v = none := by
  apply Option.eq_none_iff_forall_ne_some.mpr
  intro s hs
  unfold Snapshot.ofJson? at hs
  simp only [Option.bind_eq_bind, Option.bind_eq_some_iff] at hs
  obtain ⟨f, hf, _, -, scenes, hscenes, -⟩ := hs
  obtain ⟨u, hu, hscenes⟩ := Fields.required?_eq_some hscenes
  cases h with
  | named hitems hmem =>
    rw [(Fields.get?_object_iff hf (by decide)).mpr hitems] at hu
    cases hu
    rw [readList?_eq_none hmem hw.ofJson?] at hscenes
    cases hscenes
  | placed savedAt more hmem =>
    cases Fields.read?_array hf
    cases hu
    rw [readList?_eq_none hmem hw.ofJson?] at hscenes
    cases hscenes

theorem ofJson?_of_varied {rs : List (SceneRecord × List (String × JsonValue))}
    (h : ∀ e ∈ rs, e.1.Varied e.2) :
    Snapshot.ofJson?
      (ofFields [("saved_at", .null), ("scenes", .array (rs.map fun e => ofFields e.2))]) =
      some ⟨none, rs.map fun e => e.1.restrictedTo (e.2.map (·.1))⟩ := by
  unfold Snapshot.ofJson?
  rw [Fields.read?_ofFields (by rfl) (by decide)]
  simp [Fields.required?, Fields.optional?, Fields.get?, List.lookup_cons,
    readList?_map_of_mem fun e he => (h e he).ofJson?]

theorem load_of_decode?_eq_none {files : FileSystem} {p : Path} {content : List UInt8}
    (hread : files.read p = some (some content)) (h : Store.decode? content = none) :
    Store.load files p = .error .json := by
  unfold Store.load
  simp only [hread, h]

/-- Any text of a varied record is read as what is left of the record, and so is a file that lists
such records. No text of a faulty record is read. A file that lists one anywhere is not loaded, and
the hub stays as it is. -/
theorem reads_other_versions :
    (∀ (r : SceneRecord) fs text, r.Varied fs → JsonValue.parse? text = some (ofFields fs) →
      SceneRecord.read? text = some (r.restrictedTo (fs.map (·.1)))) ∧
    (∀ (rs : List (SceneRecord × List (String × JsonValue))) content, (∀ e ∈ rs, e.1.Varied e.2) →
      JsonValue.ofBytes? content =
        some (ofFields [("saved_at", .null), ("scenes", .array (rs.map fun e => ofFields e.2))]) →
      ∀ files p, FileSystem.read files p = some (some content) →
        Store.load files p = .ok (some ⟨none, rs.map fun e => e.1.restrictedTo (e.2.map (·.1))⟩)) ∧
    (∀ v text, SceneRecord.Faulty v → JsonValue.parse? text = some v →
      SceneRecord.read? text = none) ∧
    ∀ content v w, JsonValue.ofBytes? content = some v → Lists v w → SceneRecord.Faulty w →
      (∀ files p, FileSystem.read files p = some (some content) →
        Store.load files p = .error .json) ∧
      ∀ h : Hub, h.files.read Hub.storePath = some (some content) →
        h.load = (.error (.storage .json), h) := by
  refine ⟨fun r fs text hfs htext => ?_, fun rs content hrs hcontent files p hread => ?_,
    fun v text hv htext => ?_, fun content v w hcontent hlists hw => ?_⟩
  · unfold SceneRecord.read?
    rw [htext]
    exact hfs.ofJson?
  · have hdecode : Store.decode? content =
        some ⟨none, rs.map fun e => e.1.restrictedTo (e.2.map (·.1))⟩ := by
      unfold Store.decode?
      rw [hcontent]
      exact ofJson?_of_varied hrs
    unfold Store.load
    simp only [hread, hdecode]
  · unfold SceneRecord.read?
    rw [htext]
    exact hv.ofJson?
  · have hdecode : Store.decode? content = none := by
      unfold Store.decode?
      rw [hcontent]
      exact hlists.ofJson? hw
    refine ⟨fun files p hread => load_of_decode?_eq_none hread hdecode, fun h hread => ?_⟩
    unfold Hub.load
    rw [load_of_decode?_eq_none hread hdecode]

/-- A scene with everything that can be left out. -/
def hall : SceneRecord := ⟨⟨6, by decide⟩, "hall", ⟨130⟩, false, [⟨⟨10⟩, 40⟩], [⟨⟨2⟩, ⟨3⟩⟩]⟩

/-- The scene in a file of another version, which knows zones and leaves the devices to them. -/
def hallText : String :=
  "\x7b\"zone\":\x7b\"x\":[1.5,\"\\ud800\"]\x7d,\"name\":\"hall\",\"duration\":130,\"id\":6\x7d"

def hallFields : List (String × JsonValue) :=
  [("zone", .object [(some "x", .array [.otherNumber, .damagedText])]), ("name", .text "hall"),
    ("duration", .natural 130), ("id", .natural 6)]

theorem varied_hallFields : hall.Varied hallFields := by
  have h₁ := SceneRecord.Varied.written (r := hall)
  have h₂ : hall.Varied (hall.fields.take 5 ++ []) := h₁.leftOut (by decide)
  have h₃ : hall.Varied (hall.fields.take 4 ++ []) := h₂.leftOut (by decide)
  have h₄ : hall.Varied (hall.fields.take 3 ++ []) := h₃.leftOut (by decide)
  have h₅ := @SceneRecord.Varied.inserted hall [] _ "zone"
      (.object [(some "x", .array [.otherNumber, .damagedText])]) h₄
    (by decide)
  refine h₅.reordered (.cons _ ?_)
  show ([("id", natural 6)] ++ [("name", text "hall"), ("duration", natural 130)]).Perm _
  exact List.perm_append_comm

theorem parse?_hallText : JsonValue.parse? hallText = some (ofFields hallFields) := by
  rfl

def hallFile : String := "\x7b\"saved_at\":null,\"scenes\":[" ++ hallText ++ "]\x7d"

set_option maxRecDepth 2048 in
theorem parse?_hallFile :
    JsonValue.parse? hallFile =
      some (ofFields [("saved_at", .null), ("scenes", .array [ofFields hallFields])]) := by
  rfl

def brokenRecord : JsonValue := ofFields [("id", .natural 256), ("name", .text "b")]

theorem faulty_brokenRecord : SceneRecord.Faulty brokenRecord := by
  refine .noId (v := .natural 256) (.head _) fun n _ hle heq => ?_
  cases heq
  omega

def brokenText : String :=
  "\x7b\"scenes\":[\x7b\"id\":1,\"name\":\"a\"\x7d,\x7b\"id\":256,\"name\":\"b\"\x7d]\x7d"

def brokenValue : JsonValue :=
  ofFields [("scenes", .array [ofFields [("id", .natural 1), ("name", .text "a")], brokenRecord])]

theorem parse?_brokenText : JsonValue.parse? brokenText = some brokenValue := by
  rfl

theorem storePath_eq : Hub.storePath = ⟨["hub", "scenes.json"], false⟩ := by
  have hstart : "scenes.json".startsWith "/" = false := by
    rw [String.startsWith_string_eq_false_iff]
    decide
  have hsplit : "scenes.json".splitOn "/" = ["scenes.json"] := by
    simp +decide [String.splitOn, String.splitOnAux, String.Pos.Raw.get, String.Pos.Raw.next,
      String.Pos.Raw.unoffsetBy]
  unfold Hub.storePath Path.ofText
  simp only [hstart, hsplit]
  rfl

/-- The hub's files when its store holds a text. -/
def stored (text : String) : FileSystem :=
  (FileSystem.empty.write Hub.storePath (Utf8.encode text)).files

theorem read_stored (text : String) :
    (stored text).read Hub.storePath = some (some (Utf8.encode text)) := by
  apply FileSystem.read_write
  rw [storePath_eq]
  rfl

theorem reads_other_versions_hall :
    SceneRecord.read? hallText = some ⟨⟨6, by decide⟩, "hall", ⟨130⟩, true, [], []⟩ ∧
      Store.load (stored hallFile) Hub.storePath =
        .ok (some ⟨none, [⟨⟨6, by decide⟩, "hall", ⟨130⟩, true, [], []⟩]⟩) ∧
      SceneRecord.read? "\x7b\"id\":256,\"name\":\"b\"\x7d" = none ∧
      Store.load (stored brokenText) Hub.storePath = .error .json ∧
      ∃ h : Hub, h.files = stored brokenText ∧ h.load = (.error (.storage .json), h) := by
  obtain ⟨hrecord, hfile, hrejected, hunloaded⟩ := reads_other_versions
  have hload := hfile [(hall, hallFields)] (Utf8.encode hallFile)
    (fun e he => List.mem_singleton.mp he ▸ varied_hallFields)
    (by rw [JsonValue.ofBytes?_encode]; exact parse?_hallFile) _ _ (read_stored hallFile)
  obtain ⟨hbad, hhub⟩ := hunloaded (Utf8.encode brokenText) brokenValue brokenRecord
    (by rw [JsonValue.ofBytes?_encode]; exact parse?_brokenText)
      (.named (.head _) (.tail _ (.head _))) faulty_brokenRecord
  let h : Hub := { Hub.new Manager.new Network.empty 4 false with files := stored brokenText }
  exact ⟨hrecord hall hallFields hallText varied_hallFields parse?_hallText, hload,
    hrejected brokenRecord _ faulty_brokenRecord rfl, hbad _ _ (read_stored brokenText), h, rfl,
    hhub h (read_stored brokenText)⟩

end Snapshot

end MeshScenes
