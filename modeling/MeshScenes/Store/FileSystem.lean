import MeshScenes.Store.Path

/-!
# A file system

A map from places to files and directories. A path is followed through directories that exist, part
by part; whatever comes first in its way decides how it ends. What an operation leaves behind when
it fails is part of its meaning. Main statements: what was written is read (`read_write`), and what
was moved is read at its new place (`read_rename`).
-/

namespace MeshScenes

inductive FileEntry where
  | file (content : List UInt8)
  | directory
  deriving DecidableEq, Repr

structure FileSystem where
  entries : List (Location × FileEntry)
  deriving DecidableEq, Repr

/-- The result of an operation that may fail, and the files it leaves behind. -/
structure Disk (α : Type) where
  /-- Nothing when the operation failed. -/
  result : Option α
  files : FileSystem

/-- Where a path ends. -/
inductive Landing where
  | file (place : Location) (content : List UInt8)
  | directory (place : Location)
  /-- Nothing is at the place, but the directory around it exists. -/
  | vacant (place : Location)
  /-- A directory on the way is missing. -/
  | lost
  /-- A file is in the way of a directory, or the path is one that no entry can have. -/
  | blocked
  deriving DecidableEq, Repr

namespace FileSystem

/-- Only the directory in which the hub runs. -/
def empty : FileSystem := ⟨[(Path.home, .directory)]⟩

def lookup? (fs : FileSystem) (p : Location) : Option FileEntry :=
  if p = [] then some .directory else fs.entries.lookup p

def put (fs : FileSystem) (p : Location) (e : FileEntry) : FileSystem :=
  ⟨(p, e) :: fs.entries.filter (·.1 ≠ p)⟩

def remove (fs : FileSystem) (p : Location) : FileSystem := ⟨fs.entries.filter (·.1 ≠ p)⟩

/-! ## Following a path -/

/-- The most bytes that a name can have. -/
def nameLimit : Nat := 255

/-- Follows parts from a directory on. -/
def walk (fs : FileSystem) (here : Location) : List String → Landing
  | [] => .directory here
  | part :: rest =>
    if part = Path.up then walk fs here.dropLast rest
    else if nameLimit < part.utf8ByteSize then .blocked
    else
      let place := here ++ [part]
      match fs.lookup? place with
      | some .directory => walk fs place rest
      | some (.file content) => if rest.isEmpty then .file place content else .blocked
      | none => if rest.isEmpty then .vacant place else .lost

def find (fs : FileSystem) (p : Path) : Landing :=
  if p.isAdmissible then
    match fs.walk [] p.parts with
    | .file place content => if p.forDirectory then .blocked else .file place content
    | landing => landing
  else .blocked

/-! ## Operations -/

/-- Creates a directory if there is nothing at the path. -/
def createDirectory (fs : FileSystem) (p : Path) : Disk Unit :=
  match fs.find p with
  | .vacant place => ⟨some (), fs.put place .directory⟩
  | .directory _ => ⟨some (), fs⟩
  | .file .. | .lost | .blocked => ⟨none, fs⟩

/-- Creates directories in order, up to the first one that fails. -/
def createAll (fs : FileSystem) : List Path → Disk Unit
  | [] => ⟨some (), fs⟩
  | p :: ps =>
    let made := fs.createDirectory p
    match made.result with
    | some () => createAll made.files ps
    | none => made

/-- Creates a directory and those above it. -/
def createDirectories (fs : FileSystem) (p : Path) : Disk Unit :=
  if p.isAdmissible then fs.createAll p.stages else ⟨none, fs⟩

/-- Writes a file into a directory that exists. -/
def write (fs : FileSystem) (p : Path) (content : List UInt8) : Disk Unit :=
  match fs.find p with
  | .file place _ => ⟨some (), fs.put place (.file content)⟩
  | .vacant place => if p.forDirectory then ⟨none, fs⟩ else ⟨some (), fs.put place (.file content)⟩
  | .directory _ | .lost | .blocked => ⟨none, fs⟩

/-- Moves a file to another place, over a file that is there. -/
def rename (fs : FileSystem) (source target : Path) : Disk Unit :=
  match fs.find source, fs.find target with
  | .file old content, .file new _ => ⟨some (), (fs.remove old).put new (.file content)⟩
  | .file old content, .vacant new =>
    if target.forDirectory then ⟨none, fs⟩ else ⟨some (), (fs.remove old).put new (.file content)⟩
  | _, _ => ⟨none, fs⟩

/-- The content of a file: fails where there is no file but something else in its way, and has
nothing where there is nothing. -/
def read (fs : FileSystem) (p : Path) : Option (Option (List UInt8)) :=
  match fs.find p with
  | .file _ content => some (some content)
  | .vacant _ | .lost => some none
  | .directory _ | .blocked => none

/-- Every path below the directory in which the hub runs, sorted by its text; directories end with a
slash. -/
def list (fs : FileSystem) : List String :=
  let inside := fs.entries.filter fun (p, _) => Path.home.isPrefixOf p && p ≠ Path.home
  let shown := inside.map fun (p, e) =>
    "/".intercalate (p.drop Path.home.length) ++ match e with
      | .directory => "/"
      | .file _ => ""
  shown.mergeSort fun a b => a ≤ b

/-! ## Look-ups -/

private theorem lookup_filter_ne (l : List (Location × FileEntry)) {p q : Location} (h : q ≠ p) :
    (l.filter (·.1 ≠ p)).lookup q = l.lookup q := by
  induction l with
  | nil => rfl
  | cons e l ih =>
    by_cases hp : e.1 = p
    · have hq : (q == e.1) = false := by simpa [hp] using h
      rw [List.filter_cons_of_neg (by simpa using hp), List.lookup_cons, hq]
      exact ih
    · rw [List.filter_cons_of_pos (by simpa using hp), List.lookup_cons, List.lookup_cons, ih]

theorem lookup?_put (fs : FileSystem) {p : Location} (hp : p ≠ []) (e : FileEntry) (q : Location) :
    (fs.put p e).lookup? q = if q = p then some e else fs.lookup? q := by
  unfold lookup? put
  by_cases hq : q = p
  · subst hq; simp [hp]
  · have : (q == p) = false := by simpa using hq
    simp only [hq, ite_false]
    rw [List.lookup_cons, this]
    simp only [lookup_filter_ne _ hq]

theorem lookup?_remove (fs : FileSystem) {p : Location} (hp : p ≠ []) (q : Location) :
    (fs.remove p).lookup? q = if q = p then none else fs.lookup? q := by
  unfold lookup? remove
  by_cases hq : q = p
  · subst hq
    simp only [hp, ite_false, ite_true, List.lookup_eq_none_iff, List.mem_filter, decide_eq_true_eq]
    intro e he
    have hne := he.2
    simp only [ne_eq, bne_iff_ne]
    exact fun h => hne h.symm
  · simp only [hq, ite_false, lookup_filter_ne _ hq]

theorem lookup?_of_walk_file {fs : FileSystem} {here place : Location} {parts : List String}
    {content : List UInt8} (h : fs.walk here parts = .file place content) :
    fs.lookup? place = some (.file content) := by
  fun_induction walk fs here parts with
  | case1 => cases h
  | case2 _ _ ih => exact ih h
  | case3 => cases h
  | case4 _ _ _ _ _ _ _ ih => exact ih h
  | case5 => simp_all
  | case6 => cases h
  | case7 => cases h
  | case8 => cases h

theorem lookup?_of_walk_vacant {fs : FileSystem} {here place : Location} {parts : List String}
    (h : fs.walk here parts = .vacant place) : fs.lookup? place = none := by
  fun_induction walk fs here parts with
  | case1 => cases h
  | case2 _ _ ih => exact ih h
  | case3 => cases h
  | case4 _ _ _ _ _ _ _ ih => exact ih h
  | case5 => cases h
  | case6 => cases h
  | case7 => simp_all
  | case8 => cases h

/-- A file is never at the root, and the root is never vacant. -/
theorem place_ne_nil_of_walk {fs : FileSystem} {here place : Location} {parts : List String}
    (h : fs.walk here parts = .vacant place ∨ ∃ content, fs.walk here parts = .file place content) :
    place ≠ [] := by
  fun_induction walk fs here parts with
  | case1 => simp at h
  | case2 _ _ ih => exact ih h
  | case3 => simp at h
  | case4 _ _ _ _ _ _ _ ih => exact ih h
  | case5 here part =>
    simp at h
    exact h ▸ List.append_ne_nil_of_right_ne_nil here (List.cons_ne_nil part [])
  | case6 => simp at h
  | case7 here part =>
    simp at h
    exact h ▸ List.append_ne_nil_of_right_ne_nil here (List.cons_ne_nil part [])
  | case8 => simp at h

/-- A walk goes through directories only: it ends at the same place where these are kept, and at the
file that is there. -/
theorem walk_of_lookup? {fs fs' : FileSystem} {here place : Location} {parts : List String}
    {content : List UInt8}
    (hdirectories : ∀ q, fs.lookup? q = some .directory → fs'.lookup? q = some .directory)
    (hfile : fs'.lookup? place = some (.file content))
    (h : fs.walk here parts = .vacant place ∨ ∃ old, fs.walk here parts = .file place old) :
    fs'.walk here parts = .file place content := by
  fun_induction walk fs here parts with
  | case1 => simp at h
  | case2 _ _ ih => simpa [walk] using ih h
  | case3 => simp at h
  | case4 here part rest hu hl next hn ih =>
    simp only [walk, hu, hl, ite_false, hdirectories _ hn, next] at *
    exact ih h
  | case5 here part rest hu hl next old hn hr =>
    obtain rfl : next = place := by simpa using h
    have hr := List.isEmpty_iff.mp hr
    subst hr
    simp [walk, hu, hl, next, hfile]
  | case6 => simp at h
  | case7 here part rest hu hl next hn hr =>
    obtain rfl : next = place := by simpa using h
    have hr := List.isEmpty_iff.mp hr
    subst hr
    simp [walk, hu, hl, next, hfile]
  | case8 => simp at h

theorem not_directory_of_walk {fs : FileSystem} {here place : Location} {parts : List String}
    (h : fs.walk here parts = .vacant place ∨ ∃ old, fs.walk here parts = .file place old) :
    fs.lookup? place ≠ some .directory := by
  rcases h with h | ⟨_, h⟩
  · simp [lookup?_of_walk_vacant h]
  · simp [lookup?_of_walk_file h]

/-- A file that is put where a walk ends does not divert it. -/
theorem walk_put {fs : FileSystem} {here place : Location} {parts : List String}
    (h : fs.walk here parts = .vacant place ∨ ∃ old, fs.walk here parts = .file place old)
    (content : List UInt8) :
    (fs.put place (.file content)).walk here parts = .file place content := by
  have hp := place_ne_nil_of_walk h
  apply walk_of_lookup? _ _ h
  · intro q hq
    have hne : q ≠ place := fun e => not_directory_of_walk h (e ▸ hq)
    rw [lookup?_put _ hp, if_neg hne, hq]
  · rw [lookup?_put _ hp, if_pos rfl]

theorem find_of_walk_file {fs : FileSystem} {p : Path} {place : Location} {content : List UInt8}
    (ha : p.isAdmissible) (hd : ¬p.forDirectory) (h : fs.walk [] p.parts = .file place content) :
    fs.find p = .file place content := by
  simp [find, ha, hd, h]

/-- A path at which a file was written ends at that file. -/
theorem find_write {fs : FileSystem} {p : Path} {content : List UInt8}
    (h : (fs.write p content).result = some ()) :
    ∃ place, (fs.write p content).files.find p = .file place content := by
  by_cases ha : p.isAdmissible
  · by_cases hd : p.forDirectory
    · simp only [write, find, ha, hd] at h
      cases hw : fs.walk [] p.parts <;> simp [hw] at h
    · cases hw : fs.walk [] p.parts with
      | file place old =>
        have hf : fs.find p = .file place old := find_of_walk_file ha hd hw
        refine ⟨place, ?_⟩
        simp only [write, hf]
        exact find_of_walk_file ha hd (walk_put (.inr ⟨old, hw⟩) content)
      | vacant place =>
        have hf : fs.find p = .vacant place := by simp [find, ha, hw]
        refine ⟨place, ?_⟩
        simp only [write, hf, hd]
        exact find_of_walk_file ha hd (walk_put (.inl hw) content)
      | directory | lost | blocked => simp [write, find, ha, hw] at h
  · simp [write, find, ha] at h

theorem read_write {fs : FileSystem} {p : Path} {content : List UInt8}
    (h : (fs.write p content).result = some ()) :
    (fs.write p content).files.read p = some (some content) := by
  obtain ⟨place, hf⟩ := find_write h
  simp [read, hf]

theorem find_eq_file {fs : FileSystem} {p : Path} {place : Location} {content : List UInt8}
    (h : fs.find p = .file place content) :
    p.isAdmissible ∧ ¬p.forDirectory ∧ fs.walk [] p.parts = .file place content := by
  unfold find at h
  by_cases ha : p.isAdmissible
  · rw [if_pos ha] at h
    split at h
    next inside found hw =>
      by_cases hd : p.forDirectory
      · rw [if_pos hd] at h
        cases h
      · rw [if_neg hd] at h
        cases h
        exact ⟨ha, hd, hw⟩
    next hw => exact absurd h (hw place content)
  · rw [if_neg ha] at h
    cases h

theorem find_eq_vacant {fs : FileSystem} {p : Path} {place : Location}
    (h : fs.find p = .vacant place) :
    p.isAdmissible ∧ fs.walk [] p.parts = .vacant place := by
  unfold find at h
  by_cases ha : p.isAdmissible
  · rw [if_pos ha] at h
    split at h
    next inside found hw => split at h <;> cases h
    next hw => exact ⟨ha, h⟩
  · rw [if_neg ha] at h
    cases h

theorem rename_cases {fs : FileSystem} {source target : Path}
    (h : (fs.rename source target).result = some ()) :
    ∃ old content new, fs.find source = .file old content ∧ target.isAdmissible ∧
      ¬target.forDirectory ∧
      (fs.walk [] target.parts = .vacant new ∨ ∃ c, fs.walk [] target.parts = .file new c) ∧
      (fs.rename source target).files = (fs.remove old).put new (.file content) := by
  unfold rename at h ⊢
  split at h
  next old content new replaced hsource htarget =>
    obtain ⟨ha, hd, hw⟩ := find_eq_file htarget
    exact ⟨old, content, new, hsource, ha, hd, .inr ⟨_, hw⟩, rfl⟩
  next old content new hsource htarget =>
    by_cases hd : target.forDirectory
    · rw [if_pos hd] at h
      cases h
    · obtain ⟨ha, hw⟩ := find_eq_vacant htarget
      exact ⟨old, content, new, hsource, ha, hd, .inl hw, by rw [if_neg hd]⟩
  next => cases h

theorem read_rename {fs : FileSystem} {source target : Path} {place : Location}
    {content : List UInt8} (hsource : fs.find source = .file place content)
    (h : (fs.rename source target).result = some ()) :
    (fs.rename source target).files.read target = some (some content) := by
  obtain ⟨old, moved, new, hfind, ha, hd, hw, hfiles⟩ := rename_cases h
  rw [hsource] at hfind
  cases hfind
  obtain ⟨-, -, hwalk⟩ := find_eq_file hsource
  have hnew := place_ne_nil_of_walk hw
  have hold := place_ne_nil_of_walk (.inr ⟨content, hwalk⟩)
  have hmoved : ((fs.remove place).put new (.file content)).walk [] target.parts =
      .file new content := by
    apply walk_of_lookup? _ _ hw
    · -- No directory is taken away.
      intro q hq
      have hne : q ≠ new := fun e => not_directory_of_walk hw (e ▸ hq)
      have hne' : q ≠ place := fun e => not_directory_of_walk (.inr ⟨content, hwalk⟩) (e ▸ hq)
      rw [lookup?_put _ hnew, if_neg hne, lookup?_remove _ hold, if_neg hne', hq]
    · rw [lookup?_put _ hnew, if_pos rfl]
  rw [hfiles]
  unfold read
  rw [find_of_walk_file ha hd hmoved]

end FileSystem

end MeshScenes
