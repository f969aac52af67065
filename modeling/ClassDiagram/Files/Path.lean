/-!
# Paths

A path is a text with components between slashes.  Empty components and single
dots do not count, except for a dot at the very start.  The last component is
the name of the file, unless it is a dot or two dots; the name splits into stem
and extension at its last dot, unless that is its first character.
-/

namespace ClassDiagram.Path

/-- A component of a path. -/
inductive Component where
  | root
  | current
  | parent
  | name (text : List Char)
deriving DecidableEq

/-- The texts between the slashes of a path, without empty ones. -/
def steps (path : String) : List (List Char) :=
  (path.toList.splitOn '/').filter (· ≠ [])

/-- Whether a path starts at the root. -/
def isAbsolute (path : String) : Bool :=
  path.toList.head? = some '/'

/-- Whether a path ends with a slash. -/
def endsWithSlash (path : String) : Bool :=
  path.toList.getLast? = some '/'

/-- The component that a step stands for; a dot stands for none. -/
def componentOf? (step : List Char) : Option Component :=
  if step = ['.'] then none
  else if step = ['.', '.'] then some .parent
  else some (.name step)

/-- The components of a path. -/
def components (path : String) : List Component :=
  let front :=
    if isAbsolute path then [Component.root]
    else if (steps path).head? = some ['.'] then [.current]
    else []
  front ++ (steps path).filterMap componentOf?

/-- A component as text. -/
def Component.text : Component → List Char
  | root => []
  | current => ['.']
  | parent => ['.', '.']
  | name text => text

/-- The path with the given components. -/
def ofComponents (components : List Component) : String :=
  match components with
  | [.root] => "/"
  | _ => String.ofList (['/'].intercalate (components.map Component.text))

/-- The paths above a path, nearest first, without the empty path. -/
def parents (path : String) : List String :=
  let all := components path
  ((List.range all.length).reverse.filter (0 < ·)).map fun count =>
    ofComponents (all.take count)

/-- The name of the file that a path leads to. -/
def fileName? (path : String) : Option (List Char) :=
  match (components path).getLast? with
  | some (.name text) => some text
  | _ => none

/-- Splits a file name at its last dot. -/
def splitName (name : List Char) : List Char × Option (List Char) :=
  let extension := (name.reverse.takeWhile (· ≠ '.')).reverse
  let stem := ((name.reverse.dropWhile (· ≠ '.')).drop 1).reverse
  if stem = [] then (name, none) else (stem, some extension)

/-- The name of the file without its extension. -/
def fileStem? (path : String) : Option String :=
  (fileName? path).map fun name => String.ofList (splitName name).1

/-- The extension of the file. -/
def extension? (path : String) : Option String :=
  (fileName? path).bind fun name => (splitName name).2.map String.ofList

/-- The path that leads from `base` to `path`. -/
def join (base path : String) : String :=
  if isAbsolute path ∨ base = "" then path
  else if endsWithSlash base then base ++ path
  else base ++ "/" ++ path

/-- Where the output for an input goes: its stem with another extension, in another directory.
An input without a file name is its own stem. -/
def output (input directory extension : String) : String :=
  join directory ((fileStem? input).getD input ++ "." ++ extension)

end ClassDiagram.Path
