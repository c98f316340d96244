import MeshScenes.Store.FileSystem

/-!
# Entries in directories

Where a path ends is told part by part (`walk_append`): one that ends at a file, or where a file
could be, goes through directories up to its last part, which is a name. Every entry stands in a
directory (`Rooted`), and each operation keeps that. Directories that are made on the way of a path
show nothing at its end (`read_createAll`).
-/

namespace MeshScenes

/-- Every part is a name that an entry can have. -/
def Path.Plain (p : Path) : Prop :=
  ∀ part ∈ p.parts, part ≠ Path.up ∧ part.utf8ByteSize ≤ FileSystem.nameLimit

instance (p : Path) : Decidable p.Plain :=
  inferInstanceAs
    (Decidable (∀ part ∈ p.parts, part ≠ Path.up ∧ part.utf8ByteSize ≤ FileSystem.nameLimit))

namespace FileSystem

variable {fs fs' : FileSystem} {here place : Location} {parts : List String}

/-! ## Walks part by part -/

/-- Where a path ends that leads to a place by a name. -/
def landing (fs : FileSystem) (place : Location) : Landing :=
  match fs.lookup? place with
  | some .directory => .directory place
  | some (.file content) => .file place content
  | none => .vacant place

/-- Where a path ends whose first parts end at a landing. -/
def onward (fs : FileSystem) (landing : Landing) : List String → Landing
  | [] => landing
  | part :: rest =>
    match landing with
    | .directory here => fs.walk here (part :: rest)
    | .vacant _ | .lost => .lost
    | .file .. | .blocked => .blocked

@[simp] theorem onward_nil (fs : FileSystem) (landing : Landing) :
    fs.onward landing [] = landing := rfl

@[simp] theorem onward_directory (fs : FileSystem) (here : Location) (rest : List String) :
    fs.onward (.directory here) rest = fs.walk here rest := by
  cases rest <;> rfl

theorem walk_up (fs : FileSystem) (here : Location) (rest : List String) :
    fs.walk here (Path.up :: rest) = fs.walk here.dropLast rest := by
  simp only [walk, ite_true]

section
variable {name : String} (hup : name ≠ Path.up)

include hup

theorem walk_long (hlong : nameLimit < name.utf8ByteSize) (rest : List String) :
    fs.walk here (name :: rest) = .blocked := by
  simp only [walk, hup, hlong, ite_false, ite_true]

theorem walk_name (hshort : ¬nameLimit < name.utf8ByteSize) (rest : List String) :
    fs.walk here (name :: rest) = fs.onward (fs.landing (here ++ [name])) rest := by
  simp only [walk, hup, hshort, ite_false, landing]
  cases fs.lookup? (here ++ [name]) with
  | none => cases rest <;> rfl
  | some e => cases e <;> cases rest <;> rfl

end

theorem walk_append (fs : FileSystem) (here : Location) (parts rest : List String) :
    fs.walk here (parts ++ rest) = fs.onward (fs.walk here parts) rest := by
  induction parts generalizing here with
  | nil => exact (fs.onward_directory here rest).symm
  | cons name parts ih =>
    rw [List.cons_append]
    by_cases hup : name = Path.up
    · rw [hup, walk_up, walk_up, ih]
    · by_cases hlong : nameLimit < name.utf8ByteSize
      · rw [walk_long hup hlong, walk_long hup hlong]
        cases rest <;> rfl
      · rw [walk_name hup hlong, walk_name hup hlong]
        cases fs.landing (here ++ [name]) with
        | directory there => rw [onward_directory, onward_directory, ih]
        | file | vacant | lost | blocked => cases parts <;> cases rest <;> rfl

theorem walk_directory_of_lookup? {d : Location}
    (hkept : ∀ q, fs.lookup? q = some .directory → fs'.lookup? q = some .directory)
    (h : fs.walk here parts = .directory d) : fs'.walk here parts = .directory d := by
  fun_induction walk fs here parts with
  | case1 => exact h
  | case2 _ _ ih =>
    rw [walk_up]
    exact ih h
  | case4 _ _ _ hup hlong next hentry ih =>
    have hlanding : fs'.landing next = .directory next := by simp only [landing, hkept _ hentry]
    rw [walk_name hup hlong, hlanding, onward_directory]
    exact ih h
  | case3 => cases h
  | case5 => cases h
  | case6 => cases h
  | case7 => cases h
  | case8 => cases h

/-- A path that leads by a name from a directory to a place in it. -/
structure Names (fs : FileSystem) (parts : List String) (around : Location) (before : List String)
    (name : String) :
    Prop where
  parts_eq : parts = before ++ [name]
  reaches : fs.walk [] before = .directory around
  not_up : name ≠ Path.up
  short : ¬nameLimit < name.utf8ByteSize

section
variable {around : Location} {before : List String} {name : String}

theorem Names.walk_eq (h : fs.Names parts around before name) :
    fs.walk [] parts = fs.landing (around ++ [name]) := by
  rw [h.parts_eq, walk_append, h.reaches, onward_directory, walk_name h.not_up h.short, onward_nil]

theorem Names.kept (h : fs.Names parts around before name)
    (hkept : ∀ q, fs.lookup? q = some .directory → fs'.lookup? q = some .directory) :
    fs'.Names parts around before name :=
  { h with reaches := walk_directory_of_lookup? hkept h.reaches }

theorem Names.place_eq {place : Location} {first : List String} {last : String}
    (h : fs.Names (before ++ [name]) place first last)
    (hreaches : fs.walk [] before = .directory around) :
    place ++ [last] = around ++ [name] := by
  obtain ⟨rfl, hlast⟩ := List.append_inj' h.parts_eq rfl
  obtain rfl : name = last := List.head_eq_of_cons_eq hlast
  obtain rfl : around = place := by
    have hsame := hreaches.symm.trans h.reaches
    cases hsame
    rfl
  rfl

end

theorem exists_names
    (h : fs.walk [] parts = .vacant place ∨ ∃ content, fs.walk [] parts = .file place content) :
    ∃ around before name, fs.Names parts around before name ∧ place = around ++ [name] := by
  rcases List.eq_nil_or_concat parts with rfl | ⟨before, name, rfl⟩
  · simp [walk] at h
  · rw [List.concat_eq_append] at h ⊢
    rw [walk_append] at h
    -- The parts before the last one end in a directory, or the walk would not get to a place.
    cases hbefore : fs.walk [] before with
    | directory around =>
      rw [hbefore, onward_directory] at h
      have hup : name ≠ Path.up := by
        rintro rfl
        simp [walk] at h
      have hshort : ¬nameLimit < name.utf8ByteSize := by
        intro hlong
        simp [walk_long hup hlong] at h
      refine ⟨around, before, name, ⟨rfl, hbefore, hup, hshort⟩, ?_⟩
      rw [walk_name hup hshort, onward_nil] at h
      unfold landing at h
      split at h <;> simp_all
    | file | vacant | lost | blocked => simp [hbefore, onward] at h

theorem find_congr {p : Path} (h : fs'.walk [] p.parts = fs.walk [] p.parts) :
    fs'.find p = fs.find p := by
  unfold find
  rw [h]

/-! ## What operations do -/

theorem lookup?_put_directory (hplace : place ≠ []) (hnone : fs.lookup? place ≠ some .directory)
    (e : FileEntry) {q : Location} (hq : fs.lookup? q = some .directory) :
    (fs.put place e).lookup? q = some .directory := by
  have hne : q ≠ place := fun heq => hnone (heq ▸ hq)
  rw [lookup?_put fs hplace, if_neg hne, hq]

theorem lookup?_remove_directory (hplace : place ≠ []) (hnone : fs.lookup? place ≠ some .directory)
    {q : Location} (hq : fs.lookup? q = some .directory) :
    (fs.remove place).lookup? q = some .directory := by
  have hne : q ≠ place := fun heq => hnone (heq ▸ hq)
  rw [lookup?_remove fs hplace, if_neg hne, hq]

theorem createDirectory_cases (fs : FileSystem) (p : Path) :
    (fs.createDirectory p).files = fs ∨
      ∃ place, fs.walk [] p.parts = .vacant place ∧
        (fs.createDirectory p).files = fs.put place .directory := by
  unfold createDirectory
  cases hfind : fs.find p with
  | vacant place => exact .inr ⟨place, (find_eq_vacant hfind).2, rfl⟩
  | file | directory | lost | blocked => exact .inl rfl

theorem write_cases (fs : FileSystem) (p : Path) (content : List UInt8) :
    (fs.write p content).files = fs ∨
      ∃ place, (fs.walk [] p.parts = .vacant place ∨ ∃ old, fs.walk [] p.parts = .file place old) ∧
        (fs.write p content).files = fs.put place (.file content) := by
  unfold write
  cases hfind : fs.find p with
  | file place old => exact .inr ⟨place, .inr ⟨old, (find_eq_file hfind).2.2⟩, rfl⟩
  | vacant place =>
    dsimp only
    split
    · exact .inl rfl
    · exact .inr ⟨place, .inl (find_eq_vacant hfind).2, rfl⟩
  | directory | lost | blocked => exact .inl rfl

theorem rename_failed {source target : Path} (h : (fs.rename source target).result = none) :
    (fs.rename source target).files = fs := by
  unfold rename at h ⊢
  split at h
  next => cases h
  next =>
    split at h
    next hdirectory => rw [if_pos hdirectory]
    next => cases h
  next => rfl

/-! ## Rooted file systems -/

/-- Every entry stands in a directory. -/
def Rooted (fs : FileSystem) : Prop :=
  ∀ around name, fs.lookup? (around ++ [name]) ≠ none → fs.lookup? around = some .directory

theorem rooted_empty : empty.Rooted := by
  intro around name h
  cases around with
  | nil => rfl
  | cons part around =>
    have hother : (part :: (around ++ [name]) == Path.home) = false :=
      beq_false_of_ne (by simp [Path.home])
    refine absurd ?_ h
    simp [lookup?, empty, List.lookup_cons, hother]

theorem Rooted.lookup?_of_walk (hrooted : fs.Rooted) {d : Location}
    (hhere : fs.lookup? here = some .directory) (h : fs.walk here parts = .directory d) :
    fs.lookup? d = some .directory := by
  fun_induction walk fs here parts with
  | case1 =>
    cases h
    exact hhere
  | case2 here _ ih =>
    refine ih ?_ h
    rcases List.eq_nil_or_concat here with rfl | ⟨around, name, rfl⟩
    · rfl
    · rw [List.concat_eq_append] at hhere ⊢
      rw [List.dropLast_concat]
      exact hrooted around name (by simp [hhere])
  | case4 _ _ _ _ _ _ hentry ih => exact ih hentry h
  | case3 => cases h
  | case5 => cases h
  | case6 => cases h
  | case7 => cases h
  | case8 => cases h

theorem Names.lookup?_around {around : Location} {before : List String} {name : String}
    (h : fs.Names parts around before name) (hrooted : fs.Rooted) :
    fs.lookup? around = some .directory :=
  hrooted.lookup?_of_walk rfl h.reaches

theorem Rooted.put (hrooted : fs.Rooted) {around : Location} {name : String} {e : FileEntry}
    (haround : fs.lookup? around = some .directory)
    (hnone : fs.lookup? (around ++ [name]) ≠ some .directory) :
    (fs.put (around ++ [name]) e).Rooted := by
  have hplace : around ++ [name] ≠ [] := by simp
  intro above part hpart
  by_cases heq : above ++ [part] = around ++ [name]
  · obtain ⟨rfl, -⟩ := List.append_inj' heq rfl
    exact lookup?_put_directory hplace hnone e haround
  · rw [lookup?_put fs hplace, if_neg heq] at hpart
    exact lookup?_put_directory hplace hnone e (hrooted above part hpart)

theorem Rooted.remove (hrooted : fs.Rooted) (hplace : place ≠ [])
    (hnone : fs.lookup? place ≠ some .directory) :
    (fs.remove place).Rooted := by
  intro above part hpart
  rw [lookup?_remove fs hplace] at hpart
  split at hpart
  next => exact absurd rfl hpart
  next => exact lookup?_remove_directory hplace hnone (hrooted above part hpart)

theorem Rooted.put_of_walk (hrooted : fs.Rooted) {e : FileEntry}
    (h : fs.walk [] parts = .vacant place ∨ ∃ old, fs.walk [] parts = .file place old) :
    (fs.put place e).Rooted := by
  have hnone := not_directory_of_walk h
  obtain ⟨around, before, name, hnames, rfl⟩ := exists_names h
  exact hrooted.put (hnames.lookup?_around hrooted) hnone

theorem Rooted.createDirectory (hrooted : fs.Rooted) (p : Path) :
    (fs.createDirectory p).files.Rooted := by
  rcases fs.createDirectory_cases p with hfiles | ⟨place, hwalk, hfiles⟩
  · rwa [hfiles]
  · rw [hfiles]
    exact hrooted.put_of_walk (.inl hwalk)

theorem Rooted.createAll (hrooted : fs.Rooted) (ps : List Path) :
    (fs.createAll ps).files.Rooted := by
  induction ps generalizing fs with
  | nil => exact hrooted
  | cons p ps ih =>
    have hfirst := hrooted.createDirectory p
    unfold FileSystem.createAll
    dsimp only
    split
    · exact ih hfirst
    · exact hfirst

theorem Rooted.createDirectories (hrooted : fs.Rooted) (p : Path) :
    (fs.createDirectories p).files.Rooted := by
  unfold FileSystem.createDirectories
  split
  · exact hrooted.createAll p.stages
  · exact hrooted

theorem Rooted.write (hrooted : fs.Rooted) (p : Path) (content : List UInt8) :
    (fs.write p content).files.Rooted := by
  rcases fs.write_cases p content with hfiles | ⟨place, hwalk, hfiles⟩
  · rwa [hfiles]
  · rw [hfiles]
    exact hrooted.put_of_walk hwalk

theorem Rooted.rename (hrooted : fs.Rooted) (source target : Path) :
    (fs.rename source target).files.Rooted := by
  cases hresult : (fs.rename source target).result with
  | none => rwa [rename_failed hresult]
  | some _ =>
    obtain ⟨old, content, new, hsource, -, -, htarget, hfiles⟩ := rename_cases hresult
    have hold : fs.walk [] source.parts = .vacant old ∨
        ∃ c, fs.walk [] source.parts = .file old c :=
      .inr ⟨content, (find_eq_file hsource).2.2⟩
    have hplace := place_ne_nil_of_walk hold
    have hnone := not_directory_of_walk hold
    rw [hfiles]
    have hnew := not_directory_of_walk htarget
    obtain ⟨around, before, name, hnames, rfl⟩ := exists_names htarget
    apply (hrooted.remove hplace hnone).put
    · exact lookup?_remove_directory hplace hnone (hnames.lookup?_around hrooted)
    · rw [lookup?_remove fs hplace]
      split
      · exact nofun
      · exact hnew

/-! ## Directories on the way -/

theorem walk_put_directory (h : fs.walk [] parts = .vacant place) :
    (fs.put place .directory).walk [] parts = .directory place := by
  have hplace := place_ne_nil_of_walk (.inl h)
  have hnone := not_directory_of_walk (.inl h)
  obtain ⟨around, before, name, hnames, rfl⟩ := exists_names (.inl h)
  have hkept := hnames.kept fun _ => lookup?_put_directory hplace hnone .directory
  rw [hkept.walk_eq, landing, lookup?_put fs hplace, if_pos rfl]

theorem find_eq_blocked {p : Path} (h : ¬p.isAdmissible) (fs : FileSystem) :
    fs.find p = .blocked := by
  unfold find
  rw [if_neg h]

theorem find_of_walk {p : Path} {landing : Landing} (hadmissible : p.isAdmissible)
    (h : fs.walk [] p.parts = landing) (hfile : ∀ place content, landing ≠ .file place content) :
    fs.find p = landing := by
  unfold find
  rw [if_pos hadmissible, h]
  split
  next place content => exact absurd rfl (hfile place content)
  next => rfl

theorem read_put_directory {p : Path} {before rest : List String} {part : String}
    (hadmissible : p.isAdmissible) (hplain : p.Plain) (hrooted : fs.Rooted)
    (hparts : p.parts = before ++ part :: rest) (hwalk : fs.walk [] before = .vacant place) :
    (fs.put place .directory).read p = some none := by
  have hplace := place_ne_nil_of_walk (.inl hwalk)
  obtain ⟨hup, hshort⟩ := hplain part (by simp [hparts])
  have hentry : (fs.put place .directory).lookup? (place ++ [part]) = none := by
    rw [lookup?_put fs hplace, if_neg (by simp)]
    exact Classical.byContradiction fun hsome =>
      not_directory_of_walk (.inl hwalk) (hrooted place part hsome)
  have hend : (fs.put place .directory).walk [] p.parts =
      (fs.put place .directory).onward (.vacant (place ++ [part])) rest := by
    rw [hparts, walk_append, walk_put_directory hwalk, onward_directory, walk_name hup (by omega),
      landing, hentry]
  unfold read
  cases rest with
  | nil => rw [find_of_walk hadmissible hend nofun, onward_nil]
  | cons next rest =>
    rw [find_of_walk hadmissible hend nofun]
    rfl

/-- To make a directory on the way of a path shows nothing at its end, unless what was missing there
was not told apart from a name that no entry can have, or from a way back up. -/
theorem read_createDirectory_first {p : Path} {k : Nat} (hrooted : fs.Rooted)
    (hk : k < p.parts.length) (hplain : fs.find p = .lost → p.Plain) :
    (fs.createDirectory (p.first k)).files.read p = fs.read p ∧
      ((fs.createDirectory (p.first k)).files.find p = .lost → p.Plain) := by
  rcases fs.createDirectory_cases (p.first k) with hfiles | ⟨place, hwalk, hfiles⟩
  · rw [hfiles]
    exact ⟨rfl, hplain⟩
  · rw [hfiles]
    change fs.walk [] (p.parts.take k) = _ at hwalk
    by_cases hadmissible : p.isAdmissible
    · have hparts : p.parts = p.parts.take k ++ p.parts[k] :: p.parts.drop (k + 1) := by
        rw [← List.drop_eq_getElem_cons hk, List.take_append_drop]
      -- The directory was missing on the way, so nothing was there to be read.
      have hend : fs.walk [] p.parts = .lost := by
        rw [hparts, walk_append, hwalk]
        rfl
      have hlost := find_of_walk hadmissible hend nofun
      have hread : fs.read p = some none := by
        unfold read
        rw [hlost]
      rw [hread]
      exact ⟨read_put_directory hadmissible (hplain hlost) hrooted hparts hwalk,
        fun _ => hplain hlost⟩
    · have hblocked := find_eq_blocked hadmissible
      refine ⟨?_, fun hlost => ?_⟩
      · unfold read
        rw [hblocked, hblocked]
      · rw [hblocked] at hlost
        cases hlost

theorem read_createAll {p : Path} {ps : List Path} (hrooted : fs.Rooted)
    (hps : ∀ q ∈ ps, ∃ k < p.parts.length, q = p.first k) (hplain : fs.find p = .lost → p.Plain) :
    (fs.createAll ps).files.read p = fs.read p := by
  induction ps generalizing fs with
  | nil => rfl
  | cons q ps ih =>
    obtain ⟨k, hk, rfl⟩ := hps q List.mem_cons_self
    obtain ⟨hread, hplain'⟩ := read_createDirectory_first hrooted hk hplain
    unfold FileSystem.createAll
    dsimp only
    split
    · rw [ih (hrooted.createDirectory _) (fun q hq => hps q (List.mem_cons_of_mem _ hq)) hplain',
        hread]
    · exact hread

theorem read_createDirectories_parent {p : Path} (hrooted : fs.Rooted)
    (hplain : fs.find p = .lost → p.Plain) (n : Nat) :
    (fs.createDirectories (p.parent.first n)).files.read p = fs.read p := by
  unfold FileSystem.createDirectories
  split
  · refine read_createAll hrooted (fun q hq => ?_) hplain
    obtain ⟨m, hm, rfl⟩ := List.mem_map.mp hq
    have hlt : m < ((p.parts.dropLast).take n).length := List.mem_range.mp hm
    simp only [List.length_take, List.length_dropLast] at hlt
    refine ⟨m + 1, by omega, ?_⟩
    show (⟨((p.parts.dropLast).take n).take (m + 1), false⟩ : Path) = ⟨p.parts.take (m + 1), false⟩
    rw [List.take_take, List.dropLast_eq_take, List.take_take]
    congr 2
    omega
  · rfl

end FileSystem

end MeshScenes
