import MeshScenes.Proofs.Json.Parsing
import MeshScenes.Proofs.FileSystem
import MeshScenes.Proofs.Json.Records
import MeshScenes.Store.Basic

/-!
# Snapshots that were saved

A snapshot is read back from the text that is written for it, and so from the file after a save that
succeeded.
-/

namespace MeshScenes

theorem Store.decode?_encode (s : Snapshot) : decode? (encode s) = some s := by
  unfold decode? encode
  rw [JsonValue.ofBytes?_encode, JsonValue.parse?_pretty]
  exact s.ofJson?_toJson

theorem Path.first_length (p : Path) : p.parent.first p.parent.parts.length = p.parent := by
  unfold Path.first
  rw [List.take_length]
  rfl

/-- A save fails while it makes the directories, or once it has begun to write the file beside the
live one; or it writes that file and moves it to the live one's place. -/
theorem Store.save_cases (mishap : Option Mishap) (files : FileSystem) (p : Path) (s : Snapshot) :
    ((save mishap files p s).failure = some .io ∧
        ∃ n, (save mishap files p s).files = (files.createDirectories (p.parent.first n)).files) ∨
      ∃ made : FileSystem, made = (files.createDirectories p.parent).files ∧
        (((save mishap files p s).failure = some .io ∧
            ∃ content, (save mishap files p s).files = (made.write p.staging content).files) ∨
          ((save mishap files p s).failure = none ∧
            (made.write p.staging (encode s)).result = some () ∧
            ((made.write p.staging (encode s)).files.rename p.staging p).result = some () ∧
            (save mishap files p s).files =
              ((made.write p.staging (encode s)).files.rename p.staging p).files)) := by
  -- a mishap ends the save at its own step; without one the first step that fails does
  by_cases hdirectories : ∃ n, mishap = some (.directories n)
  · obtain ⟨n, rfl⟩ := hdirectories
    exact .inl ⟨rfl, n, rfl⟩
  cases hmade : (files.createDirectories p.parent).result with
  | none =>
    have hsave : save mishap files p s = ⟨some .io, (files.createDirectories p.parent).files⟩ := by
      unfold save
      rcases mishap with _ | (made | written | _)
      · simp [hmade]
      · exact absurd ⟨made, rfl⟩ hdirectories
      · simp [hmade]
      · simp [hmade]
    rw [hsave]
    exact .inl ⟨rfl, p.parent.parts.length, by rw [Path.first_length]⟩
  | some _ =>
    refine .inr ⟨_, rfl, ?_⟩
    unfold save
    rcases mishap with _ | (made | written | _)
    · dsimp only
      rw [hmade]
      cases hwritten :
        ((files.createDirectories p.parent).files.write p.staging (encode s)).result with
      | none => exact .inl ⟨rfl, encode s, rfl⟩
      | some _ =>
        cases hrenamed :
          (((files.createDirectories p.parent).files.write p.staging (encode s)).files.rename
            p.staging p).result with
        | none => exact .inl ⟨rfl, encode s, FileSystem.rename_failed hrenamed⟩
        | some _ => exact .inr ⟨rfl, rfl, rfl, rfl⟩
    · exact absurd ⟨made, rfl⟩ hdirectories
    · dsimp only
      rw [hmade]
      exact .inl ⟨rfl, (encode s).take written, rfl⟩
    · dsimp only
      rw [hmade]
      cases ((files.createDirectories p.parent).files.write p.staging (encode s)).result with
      | none => exact .inl ⟨rfl, encode s, rfl⟩
      | some _ => exact .inl ⟨rfl, encode s, rfl⟩

section
variable {mishap : Option Mishap} {files : FileSystem} {p : Path} {s : Snapshot}

theorem Store.save_succeeded (h : (save mishap files p s).failure = none) :
    ∃ made : FileSystem, (made.write p.staging (encode s)).result = some () ∧
      ((made.write p.staging (encode s)).files.rename p.staging p).result = some () ∧
      (save mishap files p s).files =
        ((made.write p.staging (encode s)).files.rename p.staging p).files := by
  rcases save_cases mishap files p s with ⟨hfailure, -⟩ | ⟨made, -, ⟨hfailure, -⟩ | ⟨-, hmoved⟩⟩
  · rw [hfailure] at h
    cases h
  · rw [hfailure] at h
    cases h
  · exact ⟨made, hmoved⟩

theorem Store.load_save (h : (save mishap files p s).failure = none) :
    load (save mishap files p s).files p = .ok (some s) := by
  obtain ⟨made, hwritten, hrenamed, hfiles⟩ := save_succeeded h
  obtain ⟨place, hplace⟩ := FileSystem.find_write hwritten
  unfold load
  rw [hfiles, FileSystem.read_rename hplace hrenamed]
  simp only [decode?_encode]

end

namespace Snapshot

def read? (text : String) : Option Snapshot := (JsonValue.parse? text).bind ofJson?

/-- The text again, as the snapshot it holds would be written. -/
def rewritten? (print : JsonValue → String) (text : String) : Option String :=
  (read? text).map fun s => print s.toJson

theorem read?_pretty (s : Snapshot) : read? s.toJson.pretty = some s := by
  unfold read?
  rw [JsonValue.parse?_pretty]
  exact s.ofJson?_toJson

theorem read?_compact (s : Snapshot) : read? s.toJson.compact = some s := by
  unfold read?
  rw [JsonValue.parse?_compact]
  exact s.ofJson?_toJson

theorem rewritten?_idem {print : JsonValue → String}
    (hprint : ∀ s : Snapshot, read? (print s.toJson) = some s) {text again : String}
    (h : rewritten? print text = some again) : rewritten? print again = some again := by
  obtain ⟨s, -, rfl⟩ := Option.map_eq_some_iff.mp h
  unfold rewritten?
  rw [hprint]
  rfl

/-- Nothing of a snapshot is lost in its text: it is read back from either layout, and from the file
after a save that succeeded. To write again what was read changes no text that was written. -/
theorem json_lossless (s : Snapshot) :
    read? s.toJson.pretty = some s ∧ read? s.toJson.compact = some s ∧
      (∀ mishap files p, (Store.save mishap files p s).failure = none →
        Store.load (Store.save mishap files p s).files p = .ok (some s)) ∧
      ∀ text again, (rewritten? JsonValue.pretty text = some again →
        rewritten? JsonValue.pretty again = some again) ∧
        (rewritten? JsonValue.compact text = some again →
          rewritten? JsonValue.compact again = some again) :=
  ⟨s.read?_pretty, s.read?_compact, fun _ _ _ h => Store.load_save h,
    fun _ _ => ⟨rewritten?_idem read?_pretty, rewritten?_idem read?_compact⟩⟩

/-- A snapshot whose name needs escapes, at the last instant of the year 9999. -/
def sample : Snapshot where
  savedAt := some ⟨⟨9999, 12, 31, by decide⟩, ⟨23, 59, 59, 999999999, by decide⟩⟩
  scenes := [⟨⟨255, by decide⟩, "a\"b\\c\x01 😀", ⟨255⟩, false, [⟨⟨10⟩, 40⟩], [⟨⟨2⟩, ⟨3⟩⟩]⟩,
    ⟨⟨254, by decide⟩, "", ⟨0⟩, true, [], []⟩]

/-- Where the sample is saved, in a directory that is not there yet. -/
def samplePath : Path := ⟨Path.home ++ ["nested", "scenes.json"], false⟩

/-- A text that leaves out what has a default. -/
def shortText : String := "\x7b\"scenes\":[\x7b\"id\":2,\"name\":\"hall\"\x7d]\x7d"

theorem json_lossless_sample :
    (Store.save none .empty samplePath sample).failure = none ∧
      Store.load (Store.save none .empty samplePath sample).files samplePath = .ok (some sample) ∧
      ∃ again, rewritten? JsonValue.compact shortText = some again ∧ again ≠ shortText ∧
        rewritten? JsonValue.compact again = some again := by
  have hsaved : (Store.save none .empty samplePath sample).failure = none := by decide +kernel
  have hlonger : (rewritten? JsonValue.compact shortText).any (fun again => again ≠ shortText) =
      true := by decide +kernel
  obtain ⟨-, -, hload, hagain⟩ := json_lossless sample
  cases hrewritten : rewritten? JsonValue.compact shortText with
  | none =>
    rw [hrewritten] at hlonger
    cases hlonger
  | some again =>
    rw [hrewritten] at hlonger
    exact ⟨hsaved, hload none .empty samplePath hsaved, again, rfl,
      by simpa using hlonger, (hagain _ _).2 hrewritten⟩

end Snapshot

end MeshScenes
