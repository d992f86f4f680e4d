import MemoryAtlas.Document.Json

/-!
The files that maps are loaded from, and the paths that lead to them.
-/

namespace MemoryAtlas

/-- What a file holds: text, or a document that has been read already. -/
inductive Content where
  | text (s : String)
  | document (d : Document)

/-- Files by path. -/
abbrev Archive := List (String × Content)

namespace Archive

/-- Why there is no document at a path. -/
inductive Fault where
  | absent
  | throughFile
  | isFolder
  | badName
  | tooLong
  | json (why : Json.Fault)
deriving DecidableEq

/-- How many bytes a name may have. -/
def longestName : Nat := 255

/-- How many bytes a path may have. -/
def longestPath : Nat := 4095

/-- The names along a path; empty ones and `.` lead nowhere. -/
def steps (path : String) : List (List Char) :=
  (path.toList.splitOn '/').filter fun name => !name.isEmpty && name != ['.']

def isDirectory (files : Archive) (place : List (List Char)) : Bool :=
  place.isEmpty || files.any fun file =>
    place.isPrefixOf (steps file.1) && place.length < (steps file.1).length

def isFile (files : Archive) (place : List (List Char)) : Bool :=
  files.any fun file => steps file.1 == place

/-- Follows the names one by one; `..` leads back up, though not beyond the place where paths start. A name
that is too long is only looked at where there could be such a file. -/
def walk (files : Archive) (place : List (List Char)) : List (List Char) → Except Fault (List (List Char))
  | [] => .ok place
  | name :: rest =>
    if !isDirectory files place then .error (if isFile files place then .throughFile else .absent)
    else if name = ['.', '.'] then
      if place.isEmpty then .error .absent else walk files place.dropLast rest
    else if longestName < (String.ofList name).utf8ByteSize then .error .tooLong
    else walk files (place ++ [name]) rest

/-- Nothing is known of what lies behind a path that begins with a slash. -/
def content (files : Archive) (path : String) : Except Fault Content := do
  if path.toList.contains '\x00' then throw .badName
  if longestPath < path.utf8ByteSize then throw .tooLong
  let files := if path.toList.head? = some '/' then [] else files
  let place ← walk files [] (steps path)
  match files.find? fun file => steps file.1 == place with
  | some file => return file.2
  | none => throw (if isDirectory files place then .isFolder else .absent)

def document (files : Archive) (path : String) : Except Fault Document := do
  match ← files.content path with
  | .document d => return d
  | .text s => (Json.read s).mapError .json

/-- One slash stands between the two parts, and a second part that begins with one stands alone. -/
def join (directory name : String) : String :=
  if name.toList.head? = some '/' ∨ directory = "" then name
  else if directory.toList.getLast? = some '/' then directory ++ name
  else directory ++ "/" ++ name

end Archive

end MemoryAtlas
