import ClassDiagram.Files.Path
import ClassDiagram.OrderedMap
import ClassDiagram.Utf8

/-!
# Files and directories

A `FileSystem` is a value: the files and directories by their location, and the
working directory from which relative paths start.  They form a tree: everything
stands in a directory, and so does whatever an operation puts there.  There are
no links.  Each operation takes full effect or fails without effect, and fails for
the reason that the first obstacle on the path gives.  Paths and the names in them have a
greatest size, counted in bytes, and a path never holds the character NUL.
-/

namespace ClassDiagram

/-- Why an operation on files fails. -/
inductive IoFault where
  | notFound
  | alreadyExists
  | notADirectory
  | isADirectory
  /-- A path or a name in it has more bytes than the system takes. -/
  | nameTooLong
  /-- The path holds the character NUL. -/
  | nulInPath
  | notText
deriving DecidableEq

/-- The fault in words. -/
def IoFault.message : IoFault → String
  | notFound => "No such file or directory (os error 2)"
  | alreadyExists => "File exists (os error 17)"
  | notADirectory => "Not a directory (os error 20)"
  | isADirectory => "Is a directory (os error 21)"
  | nameTooLong => "File name too long (os error 36)"
  | nulInPath => "file name contained an unexpected NUL byte"
  | notText => "stream did not contain valid UTF-8"

/-- The names on the way from the root. -/
abbrev Location := List (List Char)

/-- What stands at a location. -/
inductive Entry where
  | directory
  | file (content : Bytes)
deriving DecidableEq

/-- What stands at a location if these are the entries.  The root is a directory without one. -/
def entryIn? (entries : OrderedMap Location Entry) (location : Location) : Option Entry :=
  if location = [] then some .directory else entries.get? location

theorem entryIn?_insert {entries : OrderedMap Location Entry} {location : Location}
    (h : location ≠ []) (entry : Entry) (other : Location) :
    entryIn? (entries.insert location entry) other =
      if other = location then some entry else entryIn? entries other := by
  unfold entryIn?
  rw [OrderedMap.get?_insert]
  split
  · next hroot => rw [if_neg fun hsame => h (hsame.symm.trans hroot)]
  · rfl

theorem entryIn?_filterKeys (entries : OrderedMap Location Entry) (keep : Location → Bool)
    (location : Location) : entryIn? (entries.filterKeys keep) location =
      if location = [] ∨ keep location = true then entryIn? entries location else none := by
  unfold entryIn?
  rw [OrderedMap.get?_filterKeys]
  by_cases hroot : location = []
  · simp [hroot]
  · simp [hroot]

/-- All files and directories but the root, as a tree. -/
structure FileSystem where
  entries : OrderedMap Location Entry
  /-- The working directory. -/
  working : Location
  /-- Everything stands in a directory. -/
  parent_directory : ∀ {location : Location} {entry : Entry},
    entryIn? entries location = some entry →
      entryIn? entries location.dropLast = some .directory
  /-- The working directory is there. -/
  working_directory : entryIn? entries working = some .directory

namespace FileSystem

/-- What stands at a location. -/
def entry? (files : FileSystem) (location : Location) : Option Entry :=
  entryIn? files.entries location

/-- Something always stands at the root. -/
theorem ne_nil_of_not_directory {files : FileSystem} {location : Location}
    (h : files.entry? location ≠ some .directory) : location ≠ [] := by
  rintro rfl
  exact h rfl

/-- The same files with another entry at a location in a directory, where no directory stands. -/
def put (files : FileSystem) (location : Location) (entry : Entry)
    (hparent : files.entry? location.dropLast = some .directory)
    (hnew : files.entry? location ≠ some .directory) : FileSystem where
  entries := files.entries.insert location entry
  working := files.working
  parent_directory := by
    have hne := ne_nil_of_not_directory hnew
    intro other found hfound
    rw [entryIn?_insert hne] at hfound ⊢
    -- What was a directory still is one.
    have hkept : entryIn? files.entries other.dropLast = some .directory := by
      split at hfound
      · next hsame => exact hsame ▸ hparent
      · exact files.parent_directory hfound
    split
    · next hsame => exact absurd (hsame ▸ hkept) hnew
    · exact hkept
  working_directory := by
    rw [entryIn?_insert (ne_nil_of_not_directory hnew)]
    split
    · next hsame => exact absurd (hsame ▸ files.working_directory) hnew
    · exact files.working_directory

theorem entry?_put {files : FileSystem} {location : Location} {entry : Entry}
    {hparent : files.entry? location.dropLast = some .directory}
    {hnew : files.entry? location ≠ some .directory} (other : Location) :
    FileSystem.entry? (files.put location entry hparent hnew) other =
      if other = location then some entry else files.entry? other :=
  entryIn?_insert (ne_nil_of_not_directory hnew) entry other

/-- Nothing but the root. -/
def bare : FileSystem where
  entries := ∅
  working := []
  parent_directory := by
    intro location entry hentry
    unfold entryIn? at hentry
    split at hentry
    · next hroot =>
        rw [hroot]
        rfl
    · cases hentry
  working_directory := rfl

/-- An empty working directory below the root. -/
def fresh : FileSystem :=
  let made := bare.put [['w', 'o', 'r', 'k']] .directory (by decide) (by decide)
  { made with working := [['w', 'o', 'r', 'k']], working_directory := by decide }

/-! ## Following paths -/

/-- The most bytes of a path. -/
def maxPathSize : Nat := 4095

/-- The most bytes of a name. -/
def maxNameSize : Nat := 255

/-- One step on from a directory. -/
def descend (location : Location) (step : List Char) : Location :=
  if step = ['.'] then location
  else if step = ['.', '.'] then location.dropLast
  else location ++ [step]

/-- Follows the steps of a path.  Every step has to start from a directory, in which its name is
then looked up; the last one may lead to where nothing stands. -/
def walk (files : FileSystem) (location : Location) : List (List Char) → Except IoFault Location
  | [] => .ok location
  | step :: steps =>
      match files.entry? location with
      | none => .error .notFound
      | some (.file _) => .error .notADirectory
      | some .directory =>
          if maxNameSize < (Utf8.encode step).length then .error .nameTooLong
          else files.walk (descend location step) steps

/-- A step is taken from a directory, by a name that is not too long. -/
theorem walk_cons_eq_ok_iff {files : FileSystem} {location target : Location} {step : List Char}
    {steps : List (List Char)} : files.walk location (step :: steps) = .ok target ↔
      files.entry? location = some .directory ∧ ¬maxNameSize < (Utf8.encode step).length ∧
        files.walk (descend location step) steps = .ok target := by
  rw [walk]
  cases hentry : files.entry? location with
  | none => simp
  | some found =>
      cases found with
      | file content => simp
      | directory =>
          by_cases hlong : maxNameSize < (Utf8.encode step).length
          · simp [hlong]
          · simp [hlong]

/-- The last step is taken from a directory. -/
theorem walk_concat_eq_ok {files : FileSystem} {location target : Location}
    {steps : List (List Char)} {step : List Char}
    (h : files.walk location (steps ++ [step]) = .ok target) :
    ∃ middle, files.entry? middle = some .directory ∧ descend middle step = target := by
  induction steps generalizing location with
  | nil =>
      obtain ⟨hentry, -, hlast⟩ := walk_cons_eq_ok_iff.1 h
      exact ⟨location, hentry, Except.ok.inj hlast⟩
  | cons first steps ih => exact ih (walk_cons_eq_ok_iff.1 h).2.2

/-- The location that a path leads to.  The empty path leads nowhere. -/
def locate (files : FileSystem) (path : String) : Except IoFault Location :=
  if Char.ofNat 0 ∈ path.toList then .error .nulInPath
  else if path = "" then .error .notFound
  else if maxPathSize < (Utf8.encodeText path).length then .error .nameTooLong
  else files.walk (if Path.isAbsolute path then [] else files.working) (Path.steps path)

theorem locate_eq_ok_iff {files : FileSystem} {path : String} {location : Location} :
    files.locate path = .ok location ↔
      (Char.ofNat 0 ∉ path.toList ∧ path ≠ "" ∧ ¬maxPathSize < (Utf8.encodeText path).length) ∧
        files.walk (if Path.isAbsolute path then [] else files.working) (Path.steps path) =
          .ok location := by
  unfold locate
  by_cases hnul : Char.ofNat 0 ∈ path.toList
  · simp [hnul]
  · by_cases hempty : path = ""
    · simp [hempty]
    · by_cases hlong : maxPathSize < (Utf8.encodeText path).length
      · simp [hnul, hempty, hlong]
      · simp [hnul, hempty, hlong]

/-- Whether the last step of a path is a name, so that the path can lead to something new. -/
def endsInName (path : String) : Bool :=
  match (Path.steps path).getLast? with
  | none => false
  | some step => step ≠ ['.'] && step ≠ ['.', '.']

/-- A path that ends in a name leads to a place in a directory. -/
theorem parent_of_locate {files : FileSystem} {path : String} {location : Location}
    (hlocate : files.locate path = .ok location) (hname : endsInName path = true) :
    files.entry? location.dropLast = some .directory := by
  have hwalk := (locate_eq_ok_iff.1 hlocate).2
  unfold endsInName at hname
  split at hname
  · cases hname
  · next step hlast =>
      obtain ⟨front, hsteps⟩ := List.getLast?_eq_some_iff.1 hlast
      rw [hsteps] at hwalk
      obtain ⟨middle, hmiddle, htarget⟩ := walk_concat_eq_ok hwalk
      obtain ⟨hcurrent, hparent⟩ := Bool.and_eq_true_iff.1 hname
      rw [descend, if_neg (of_decide_eq_true hcurrent), if_neg (of_decide_eq_true hparent)]
        at htarget
      rw [← htarget, List.dropLast_concat]
      exact hmiddle

/-- What a path leads to. -/
def find (files : FileSystem) (path : String) : Except IoFault (Location × Entry) := do
  let location ← files.locate path
  match files.entry? location with
  | none => .error .notFound
  | some .directory => return (location, .directory)
  | some (.file content) =>
      if Path.endsWithSlash path then .error .notADirectory
      else return (location, .file content)

/-- Whether a path leads to a file. -/
def isFile (files : FileSystem) (path : String) : Bool :=
  match files.find path with
  | .ok (_, .file _) => true
  | _ => false

/-- Whether a path leads to a directory. -/
def isDirectory (files : FileSystem) (path : String) : Bool :=
  match files.find path with
  | .ok (_, .directory) => true
  | _ => false

/-! ## Reading -/

/-- The bytes of a file. -/
def read (files : FileSystem) (path : String) : Except IoFault Bytes := do
  match ← files.find path with
  | (_, .directory) => .error .isADirectory
  | (_, .file content) => return content

/-- The text of a file. -/
def readText (files : FileSystem) (path : String) : Except IoFault String := do
  let content ← files.read path
  (Utf8.decodeText content).mapError fun _ => .notText

/-- The part of a location below another one. -/
def below? (top location : Location) : Option Location :=
  if top.isPrefixOf location ∧ location ≠ top then some (location.drop top.length) else none

/-- The names that stand directly in a directory, in the order of the entries. -/
def namesIn (files : FileSystem) (path : String) : Except IoFault (List String) := do
  match ← files.find path with
  | (_, .file _) => .error .notADirectory
  | (top, .directory) =>
      return files.entries.keys.filterMap fun location =>
        match below? top location with
        | some [name] => some (String.ofList name)
        | _ => none

/-! ## Writing -/

/-- Writes a file, new or in place of the old one. -/
def write (files : FileSystem) (path : String) (content : Bytes) : Except IoFault FileSystem :=
  match hlocate : files.locate path with
  | .error fault => .error fault
  | .ok location =>
      if hplace : (endsInName path = true ∧ Path.endsWithSlash path = false) ∧
          files.entry? location ≠ some .directory then
        .ok (files.put location (.file content) (parent_of_locate hlocate hplace.1.1) hplace.2)
      else .error .isADirectory

/-- Makes a new directory in one that exists. -/
def makeDirectory (files : FileSystem) (path : String) : Except IoFault FileSystem :=
  match hlocate : files.locate path with
  | .error fault => .error fault
  | .ok location =>
      if hplace : endsInName path = true ∧ files.entry? location = none then
        .ok (files.put location .directory (parent_of_locate hlocate hplace.1)
          (by simp [hplace.2]))
      else .error .alreadyExists

/-- Removes what stands at a location and everything below, but for the working directory and
those above it. -/
def removeTree (files : FileSystem) (location : Location) : FileSystem where
  entries := files.entries.filterKeys fun other =>
    !location.isPrefixOf other || other.isPrefixOf files.working
  working := files.working
  parent_directory := by
    intro other entry hentry
    rw [entryIn?_filterKeys] at hentry ⊢
    split at hentry
    · next hother =>
        -- The directory of what is left is left.
        rw [files.parent_directory hentry, if_pos]
        rcases hother with rfl | hother
        · exact .inl rfl
        · right
          have habove := List.dropLast_prefix other
          simp only [Bool.or_eq_true, Bool.not_eq_true', ← Bool.not_eq_true,
            List.isPrefixOf_iff_prefix] at hother ⊢
          exact hother.imp (fun hbelow h => hbelow (h.trans habove)) habove.trans
    · cases hentry
  working_directory := by
    have hkept : files.working.isPrefixOf files.working = true :=
      List.isPrefixOf_iff_prefix.2 (List.prefix_refl _)
    rw [entryIn?_filterKeys, if_pos (.inr (by simp [hkept]))]
    exact files.working_directory

/-- Removes what a path leads to, with everything below. -/
def remove (files : FileSystem) (path : String) : FileSystem :=
  match files.find path with
  | .ok (location, _) => files.removeTree location
  | .error _ => files

/-! ## Missing directories -/

/-- Makes the first of the paths a directory.  If it cannot be made because a directory above it
is missing, that one is made first; the paths above it follow in the list.  Directories made on
the way remain even if a later one fails. -/
def makeChain (files : FileSystem) : List String → Except IoFault Unit × FileSystem
  | [] => (.ok (), files)
  | path :: above =>
      match files.makeDirectory path with
      | .ok made => (.ok (), made)
      | .error .notFound =>
          match files.makeChain above with
          | (.error fault, made) => (.error fault, made)
          | (.ok (), made) =>
              match made.makeDirectory path with
              | .ok complete => (.ok (), complete)
              | .error fault =>
                  if made.isDirectory path then (.ok (), made) else (.error fault, made)
      | .error fault =>
          if files.isDirectory path then (.ok (), files) else (.error fault, files)

/-- Makes a directory together with all missing ones above it.  There is nothing to make for the
empty path. -/
def makeDirectories (files : FileSystem) (path : String) : Except IoFault Unit × FileSystem :=
  if path = "" then (.ok (), files) else files.makeChain (path :: Path.parents path)

/-- Writes a file after making the missing directories above it. -/
def writeDeep (files : FileSystem) (path : String) (content : Bytes) :
    Except IoFault FileSystem :=
  match files.makeDirectories ((Path.parents path).headD "") with
  | (.error fault, _) => .error fault
  | (.ok (), made) => made.write path content

/-! ## Listing -/

/-- Whether one location comes before another one or is the same: directories are sorted by name,
and their content follows them. -/
def comesFirst : Location → Location → Bool
  | [], _ => true
  | _ :: _, [] => false
  | a :: as, b :: bs => if a = b then comesFirst as bs else decide (a < b)

/-- Everything below a directory, by the location below it, in sorted order. -/
def tree (files : FileSystem) (path : String) : List (Location × Entry) :=
  match files.locate path with
  | .error _ => []
  | .ok top =>
      (files.entries.entries.filterMap fun (location, entry) =>
        (below? top location).map fun rest => (rest, entry)).mergeSort
          fun a b => comesFirst a.1 b.1

end FileSystem

end ClassDiagram
