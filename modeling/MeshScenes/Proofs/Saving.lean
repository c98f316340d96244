import MeshScenes.Proofs.Store

/-!
# Saves that fail

A save works on a file beside the live one until it moves that file into place. So a save that fails
shows a reader nothing but the directories it made on its way, and one that succeeds leaves nothing
beside the live file (`save_atomic`). What was missing may come back with the directories: a path
that leads through one of them and up again reaches what is there (`save_not_atomic`).
-/

namespace MeshScenes

/-! ## The name beside the live one -/

namespace Path

variable {p : Path} {name : String}

theorem stem_append (s : String) : stem (s ++ ".json.tmp") = s ++ ".json" := by
  have hbehind : ((s ++ ".json.tmp").toList.reverse.takeWhile (· ≠ '.')) = ['p', 'm', 't'] := by
    rw [String.toList_append, List.reverse_append]
    rfl
  have hbefore : (s ++ ".json.tmp").toList.take ((s ++ ".json.tmp").length - 3 - 1) = s.toList ++
      ".json".toList := by
    have hlength : (s ++ ".json.tmp").length - 3 - 1 = (s.toList ++ ".json".toList).length := by
      rw [String.length_append, List.length_append, String.length_toList]
      rfl
    rw [String.toList_append, show ".json.tmp".toList = ".json".toList ++
      ['.', 't', 'm', 'p'] by rfl, ← List.append_assoc, hlength, List.take_left]
  unfold stem
  simp only [hbehind, List.length_cons, List.length_nil, Nat.zero_add, Nat.reduceAdd, hbefore]
  rw [if_neg (by simp), ← String.toList_append, String.ofList_toList]

theorem stem_append_ne (name : String) : stem name ++ ".json.tmp" ≠ name := by
  intro h
  have hstem : stem name = stem name ++ ".json" := by
    conv_lhs => rw [← h]
    exact stem_append (stem name)
  have hlength := congrArg String.length hstem
  rw [String.length_append] at hlength
  have : ".json".length = 5 := rfl
  omega

theorem staging_ne (hlast : p.parts.getLast? = some name) (hup : name ≠ up) : p.staging ≠ p := by
  intro heq
  have hsame : p.staging.parts.getLast? = some name := by rw [heq, hlast]
  unfold staging at hsame
  simp only [hlast, hup, ite_false] at hsame
  split at hsame
  · rw [List.getLast?_concat] at hsame
    exact hup (Option.some.inj hsame).symm
  · rw [List.getLast?_concat] at hsame
    exact stem_append_ne name (Option.some.inj hsame)

theorem exists_of_staging {before : List String} {n : String} (h : p.staging.parts = before ++ [n])
    (hup : n ≠ up) :
    ∃ name, p.parts = before ++ [name] ∧ name ≠ up ∧ n ≠ name := by
  unfold staging at h
  rcases List.eq_nil_or_concat p.parts with hparts | ⟨ps, name, hparts⟩
  · simp [hparts] at h
  · rw [List.concat_eq_append] at hparts
    simp only [hparts, List.getLast?_concat, List.dropLast_concat] at h
    split at h
    next hname =>
      rw [hparts] at h
      obtain ⟨-, hlast⟩ := List.append_inj' h rfl
      cases hlast
      exact absurd hname hup
    next hname =>
      split at h
      · obtain ⟨-, hlast⟩ := List.append_inj' h rfl
        cases hlast
        exact absurd rfl hup
      · obtain ⟨rfl, hlast⟩ := List.append_inj' h rfl
        obtain rfl : stem name ++ ".json.tmp" = n := List.head_eq_of_cons_eq hlast
        exact ⟨name, hparts, hname, stem_append_ne name⟩

end Path

/-! ## Steps of a save -/

namespace FileSystem

variable {fs : FileSystem} {p : Path} {place : Location}

theorem exists_beside
    (h : fs.walk [] p.staging.parts = .vacant place ∨
      ∃ old, fs.walk [] p.staging.parts = .file place old) :
    ∃ around before n name, fs.Names p.staging.parts around before n ∧ place = around ++ [n] ∧
      p.parts = before ++ [name] ∧ name ≠ Path.up ∧ around ++ [name] ≠ place := by
  obtain ⟨around, before, n, hnames, rfl⟩ := exists_names h
  obtain ⟨name, hparts, hup, hne⟩ := Path.exists_of_staging hnames.parts_eq hnames.not_up
  refine ⟨around, before, n, name, hnames, rfl, hparts, hup, fun heq => hne ?_⟩
  obtain ⟨-, heq⟩ := List.append_inj' heq rfl
  cases heq
  rfl

theorem find_write_staging (fs : FileSystem) (p : Path) (content : List UInt8) :
    (fs.write p.staging content).files.find p = fs.find p := by
  rcases fs.write_cases p.staging content with hfiles | ⟨place, hwalk, hfiles⟩
  · rw [hfiles]
  · have hplace := place_ne_nil_of_walk hwalk
    have hnone := not_directory_of_walk hwalk
    obtain ⟨around, before, n, name, hnames, rfl, hparts, hup, hne⟩ := exists_beside hwalk
    have hkept := fun q => lookup?_put_directory (q := q) hplace hnone (.file content)
    rw [hfiles]
    apply find_congr
    rw [hparts, walk_append, walk_append, walk_directory_of_lookup? hkept hnames.reaches,
      hnames.reaches, onward_directory, onward_directory]
    by_cases hlong : nameLimit < name.utf8ByteSize
    · rw [walk_long hup hlong, walk_long hup hlong]
    · rw [walk_name hup hlong, walk_name hup hlong, onward_nil, onward_nil, landing, landing,
        lookup?_put fs hplace, if_neg hne]

theorem read_staging_rename (h : (fs.rename p.staging p).result = some ()) :
    (fs.rename p.staging p).files.read p.staging = some none := by
  obtain ⟨old, content, new, hsource, -, -, htarget, hfiles⟩ := rename_cases h
  obtain ⟨hadmissible, -, hwalk⟩ := find_eq_file hsource
  have hold := place_ne_nil_of_walk (.inr ⟨content, hwalk⟩)
  have hnone := not_directory_of_walk (.inr ⟨content, hwalk⟩)
  have hnew := place_ne_nil_of_walk htarget
  have hnone' := not_directory_of_walk htarget
  obtain ⟨around, before, n, name, hnames, rfl, hparts, -, hne⟩ :=
    exists_beside (.inr ⟨content, hwalk⟩)
  obtain ⟨above, first, last, hlive, rfl⟩ := exists_names htarget
  rw [hparts] at hlive
  rw [hlive.place_eq hnames.reaches] at hnew hnone' hfiles
  -- Neither place is a directory, so all directories stay, and with them the walk up to the name.
  have hremoved : (fs.remove (around ++ [n])).lookup? (around ++ [name]) ≠ some .directory := by
    rw [lookup?_remove fs hold, if_neg hne]
    exact hnone'
  have hmoved := hnames.kept fun _ hq => lookup?_put_directory hnew hremoved (.file content)
    (lookup?_remove_directory hold hnone hq)
  have hend : ((fs.remove (around ++ [n])).put (around ++ [name]) (.file content)).walk
      [] p.staging.parts =
      .vacant (around ++ [n]) := by
    rw [hmoved.walk_eq, landing, lookup?_put _ hnew, if_neg hne.symm, lookup?_remove fs hold,
      if_pos rfl]
  rw [hfiles]
  unfold read
  rw [find_of_walk hadmissible hend fun _ _ h => by cases h]

end FileSystem

namespace Store

theorem load_congr {files files' : FileSystem} {p : Path} (h : files'.read p = files.read p) :
    load files' p = load files p := by
  unfold load
  rw [h]

theorem rooted_save {files : FileSystem} (hrooted : files.Rooted) (mishap : Option Mishap)
    (p : Path) (s : Snapshot) :
    (save mishap files p s).files.Rooted := by
  have hmade := hrooted.createDirectories p.parent
  rcases save_cases mishap files p s with
    ⟨-, n, hfiles⟩ | ⟨made, rfl, ⟨-, content, hfiles⟩ | ⟨-, -, -, hfiles⟩⟩
  · rw [hfiles]
    exact hrooted.createDirectories _
  · rw [hfiles]
    exact hmade.write p.staging content
  · rw [hfiles]
    exact (hmade.write p.staging _).rename p.staging p

theorem read_staging_save {mishap : Option Mishap} {files : FileSystem} {p : Path} {s : Snapshot}
    (h : (save mishap files p s).failure = none) :
    (save mishap files p s).files.read p.staging = some none := by
  obtain ⟨made, -, hrenamed, hfiles⟩ := save_succeeded h
  rw [hfiles]
  exact FileSystem.read_staging_rename hrenamed

/-- A reader cannot tell a save that failed from the making of some directories. -/
theorem read_save_failed {mishap : Option Mishap} {files : FileSystem} {p : Path} {s : Snapshot}
    (h : (save mishap files p s).failure ≠ none) :
    ∃ n, (save mishap files p s).files.read p =
      (files.createDirectories (p.parent.first n)).files.read p := by
  rcases save_cases mishap files p s with
    ⟨-, n, hfiles⟩ | ⟨made, rfl, ⟨-, content, hfiles⟩ | ⟨hfailure, -⟩⟩
  · exact ⟨n, by rw [hfiles]⟩
  · refine ⟨p.parent.parts.length, ?_⟩
    rw [hfiles, Path.first_length]
    unfold FileSystem.read
    rw [FileSystem.find_write_staging]
  · exact absurd hfailure h

/-- The file beside the live one has another path. A save that succeeds is read back and leaves
nothing beside the live file. One that fails leaves to be read what would be there if it had made
some of the directories only, and that is what was there before, unless directories were missing and
the path is not plain. -/
theorem save_atomic (p : Path) :
    (∀ name, p.parts.getLast? = some name → name ≠ Path.up → p.staging ≠ p) ∧
      ∀ (files : FileSystem) (mishap : Option Mishap) (s : Snapshot), files.Rooted →
        (save mishap files p s).files.Rooted ∧
          ((save mishap files p s).failure = none →
            load (save mishap files p s).files p = .ok (some s) ∧
              (save mishap files p s).files.read p.staging = some none) ∧
          ((save mishap files p s).failure ≠ none →
            (∃ n, load (save mishap files p s).files p =
              load (files.createDirectories (p.parent.first n)).files p) ∧
              ((files.find p = .lost → p.Plain) →
                load (save mishap files p s).files p = load files p)) := by
  refine ⟨fun name => Path.staging_ne, fun files mishap s hrooted =>
    ⟨rooted_save hrooted mishap p s, fun hsaved => ⟨load_save hsaved, read_staging_save hsaved⟩,
      fun hfailed => ?_⟩⟩
  obtain ⟨n, hread⟩ := read_save_failed hfailed
  refine ⟨⟨n, load_congr hread⟩, fun hplain => load_congr ?_⟩
  rw [hread, FileSystem.read_createDirectories_parent hrooted hplain]

def sampleFiles : FileSystem := (save none .empty Snapshot.samplePath Snapshot.sample).files

theorem save_atomic_sample :
    Snapshot.samplePath.staging ≠ Snapshot.samplePath ∧
      sampleFiles.read Snapshot.samplePath.staging = some none ∧
      (save (some (.writing 9)) sampleFiles Snapshot.samplePath ⟨none, []⟩).failure ≠ none ∧
      load (save (some (.writing 9)) sampleFiles Snapshot.samplePath ⟨none, []⟩).files
        Snapshot.samplePath =
        .ok (some Snapshot.sample) := by
  obtain ⟨hne, hsave⟩ := save_atomic Snapshot.samplePath
  obtain ⟨hrooted, hsucceeds, -⟩ := hsave .empty none Snapshot.sample FileSystem.rooted_empty
  obtain ⟨hload, hgone⟩ := hsucceeds (by decide +kernel)
  obtain ⟨-, -, hfails⟩ := hsave sampleFiles (some (.writing 9)) ⟨none, []⟩ hrooted
  have hfailed :
      (save (some (.writing 9)) sampleFiles Snapshot.samplePath ⟨none, []⟩).failure ≠ none := by
    decide +kernel
  obtain ⟨-, hkept⟩ := hfails hfailed
  exact ⟨hne "scenes.json" rfl (by decide), hgone, hfailed,
    (hkept fun _ => by decide +kernel).trans hload⟩

/-- A path through a directory that is not there, and up again to a file that is. -/
def bentPath : Path := ⟨Path.home ++ ["x", Path.up, "f.json"], false⟩

/-- The file at its end, with a directory in the place beside it. -/
def bentFiles : FileSystem :=
  ((FileSystem.empty.write ⟨Path.home ++ ["f.json"], false⟩
    (encode ⟨none, []⟩)).files.createDirectory ⟨Path.home ++ ["f.json.tmp"], false⟩).files

/-- A save that fails can bring back a file which could not be read before. -/
theorem save_not_atomic :
    bentFiles.Rooted ∧ load bentFiles bentPath = .ok none ∧
      (save none bentFiles bentPath Snapshot.sample).failure = some .io ∧
      load (save none bentFiles bentPath Snapshot.sample).files bentPath =
        .ok (some ⟨none, []⟩) := by
  have hbefore : bentFiles.read bentPath = some none := by decide +kernel
  have hafter : (save none bentFiles bentPath Snapshot.sample).files.read bentPath =
      some (some (encode ⟨none, []⟩)) := by decide +kernel
  refine ⟨(FileSystem.rooted_empty.write _ _).createDirectory _, ?_, by decide +kernel, ?_⟩
  · unfold load
    rw [hbefore]
  · unfold load
    rw [hafter]
    simp only [decode?_encode]

/-- A file in a directory that is not there. -/
def awayPath (name : String) : Path := ⟨Path.home ++ ["x", name], false⟩

/-- Once the directory is there, a name that no entry can have is in the way, whatever was saved. -/
theorem load_save_away {name : String} (hadmissible : (awayPath name).isAdmissible)
    (hup : name ≠ Path.up) (hlong : FileSystem.nameLimit < name.utf8ByteSize) (s : Snapshot) :
    load .empty (awayPath name) = .ok none ∧
      (save none .empty (awayPath name) s).failure = some .io ∧
      load (save none .empty (awayPath name) s).files (awayPath name) = .error .io := by
  have hlost : FileSystem.empty.find (awayPath name) = .lost :=
    FileSystem.find_of_walk hadmissible rfl fun _ _ h => by cases h
  let made := (FileSystem.empty.createDirectory ⟨Path.home ++ ["x"], false⟩).files
  have hmade : FileSystem.empty.createDirectories (awayPath name).parent = ⟨some (), made⟩ := rfl
  let written := (made.write (awayPath name).staging (encode s)).files
  have hblocked : written.find (awayPath name) = .blocked := by
    rw [FileSystem.find_write_staging]
    refine FileSystem.find_of_walk hadmissible ?_ fun _ _ h => by cases h
    show made.walk [] (["hub", "x"] ++ [name]) = .blocked
    rw [FileSystem.walk_append, show made.walk [] ["hub", "x"] = .directory ["hub", "x"] from rfl,
      FileSystem.onward_directory, FileSystem.walk_long hup hlong]
  -- the name is in the way at the latest when the other file is moved
  have hrename : written.rename (awayPath name).staging (awayPath name) = ⟨none, written⟩ := by
    unfold FileSystem.rename
    rw [hblocked]
    cases written.find (awayPath name).staging <;> rfl
  have hsave : save none .empty (awayPath name) s = ⟨some .io, written⟩ := by
    unfold save
    dsimp only
    rw [hmade]
    dsimp only
    rw [hrename]
    cases (made.write (awayPath name).staging (encode s)).result <;> rfl
  rw [hsave]
  unfold load FileSystem.read
  rw [hlost, hblocked]
  exact ⟨rfl, rfl, rfl⟩

def longName : String := String.ofList (List.replicate 256 'n')

theorem isAdmissible_longName : (awayPath longName).isAdmissible = true := by
  have hsize : (awayPath longName).size < 4096 := by decide +kernel
  have hletters : longName.toList.contains '\x00' = false := by
    unfold longName
    rw [String.toList_ofList]
    decide +kernel
  unfold Path.isAdmissible
  rw [decide_eq_true hsize, Bool.true_and, List.all_eq_true]
  intro part hpart
  rcases List.mem_cons.mp hpart with rfl | hpart
  · decide +kernel
  rcases List.mem_cons.mp hpart with rfl | hpart
  · decide +kernel
  · rw [List.mem_singleton.mp hpart, hletters]
    rfl

/-- A save that fails can put a name of more than 255 bytes in the way of a reader who found nothing
there. -/
theorem save_not_atomic_long :
    load .empty (awayPath longName) = .ok none ∧
      (save none .empty (awayPath longName) Snapshot.sample).failure = some .io ∧
      load (save none .empty (awayPath longName) Snapshot.sample).files (awayPath longName) =
        .error .io :=
  load_save_away isAdmissible_longName (by decide +kernel) (by decide +kernel) Snapshot.sample

end Store

end MeshScenes
