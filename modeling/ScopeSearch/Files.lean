import ScopeSearch.KeyedList

/-!
# Files

The files that a configuration may be read from, by path.  A path is followed step by step: empty
steps and steps that stay in place are left out, two points lead to the directory above, and every
other step has to be there already, even if the way leads back.  Writing a file makes the
directories on the way to it.  A file holds any octets and is read as UTF-8, if it is that; its
lines may end in any way and are read with line feeds.
-/

set_option autoImplicit false

namespace ScopeSearch

/-- The steps of a path that lead somewhere. -/
def pathSteps (path : List Char) : List (List Char) :=
  (path.splitOn '/').filter fun step => !step.isEmpty && step != ['.']

/-- The root that a path begins at: two slashes are a root of their own. -/
def pathRoot (path : List Char) : List Char :=
  match (path.takeWhile (· == '/')).length with
  | 0 => []
  | 2 => ['/', '/']
  | _ => ['/']

/-- A path in its normal form. -/
def normalPath (path : String) : String :=
  let s := path.toList
  let normal := pathRoot s ++ ['/'].intercalate (pathSteps s)
  if normal.isEmpty then "." else String.ofList normal

/-- A text in which every line ends with a line feed. -/
def withLineFeeds : List Char → List Char
  | [] => []
  | '\r' :: '\n' :: rest => '\n' :: withLineFeeds rest
  | c :: rest => (if c = '\r' then '\n' else c) :: withLineFeeds rest

/-- Where relative paths and absolute ones begin. -/
inductive Origin where
  | root
  /-- The directory so many levels above the working directory. -/
  | above (levels : Nat)
  deriving DecidableEq

/-- A file or a directory, by the names that lead to it. -/
structure Place where
  origin : Origin
  names : List String := []
  deriving DecidableEq

namespace Place

/-- The place with a name in a directory. -/
def child (p : Place) (name : String) : Place :=
  { p with names := p.names ++ [name] }

/-- The directory above; the root is above itself. -/
def parent (p : Place) : Place :=
  match p.names, p.origin with
  | [], .above levels => { origin := .above (levels + 1) }
  | names, _ => { p with names := names.dropLast }

/-- The place where a path begins. -/
def start (path : String) : Place :=
  { origin := if (pathRoot path.toList).isEmpty then .above 0 else .root }

/-- The directories below the root that every system has. -/
def ofSystem : List String :=
  ["bin", "dev", "etc", "home", "lib", "opt", "proc", "root", "sbin", "sys", "tmp", "usr", "var"]

/-- A directory that is there before any file is written. -/
def isGiven (p : Place) : Bool :=
  match p.origin, p.names with
  | _, [] => true
  | .root, [name] => ofSystem.contains name
  | _, _ => false

end Place

/-- Why a file cannot be read or written. -/
inductive FileError where
  /-- A directory is where a file should be. -/
  | isDirectory
  /-- A file is where a directory should be, in the middle of a path or at its end. -/
  | notDirectory (atEnd : Bool)
  /-- A name or a path is too long. -/
  | tooLong
  /-- A path holds the character NUL. -/
  | holdsNul
  /-- The octets of a file are not UTF-8. -/
  | notText
  deriving DecidableEq

/-- The text of an error. -/
def FileError.message : FileError → String
  | .isDirectory => "is a directory"
  | .notDirectory _ => "not a directory"
  | .tooLong => "name too long"
  | .holdsNul => "embedded null byte"
  | .notText => "not UTF-8"

/-- The directories that were made, and the octets of files. -/
structure Files where
  directories : List Place := []
  contents : KeyedList Place ByteArray := []

/-- What the steps of a path lead to. -/
inductive Found where
  | nothing
  | directory (p : Place)
  | file (p : Place)
  deriving DecidableEq

namespace Files

/-- The greatest number of octets of a name. -/
def nameLimit : Nat := 255

/-- The number of octets that no path reaches. -/
def pathLimit : Nat := 4096

/-- A place is a directory. -/
def isDirectory (files : Files) (p : Place) : Bool :=
  p.isGiven || files.directories.contains p

/-- The names that lead along a path. -/
def names (path : String) : List String :=
  (pathSteps path.toList).map String.ofList

/-- What names lead to from a directory. -/
def follow (files : Files) : Place → List String → Except FileError Found
  | p, [] => .ok (.directory p)
  | p, name :: rest =>
    if name = ".." then follow files p.parent rest
    else if nameLimit < name.utf8ByteSize then .error .tooLong
    else if files.isDirectory (p.child name) then follow files (p.child name) rest
    else if rest.isEmpty && files.contents.has (p.child name) then .ok (.file (p.child name))
    else .ok .nothing

/-- The directory that names lead to, every one that is missing being made. -/
def makeDirectories (files : Files) : Place → List String → Except FileError (Place × Files)
  | p, [] => .ok (p, files)
  | p, name :: rest =>
    if name = ".." then makeDirectories files p.parent rest
    else if nameLimit < name.utf8ByteSize then .error .tooLong
    else if files.isDirectory (p.child name) then makeDirectories files (p.child name) rest
    else if files.contents.has (p.child name) then .error (.notDirectory rest.isEmpty)
    else
      makeDirectories { files with directories := p.child name :: files.directories }
        (p.child name) rest

/-- A path can be followed. -/
def isTooLong (path : String) : Bool :=
  pathLimit ≤ (normalPath path).utf8ByteSize

/-- Writes a file, and makes the directories on the way to it. -/
def write (files : Files) (path : String) (octets : ByteArray) : Except FileError Files :=
  if path.contains (Char.ofNat 0) then .error .holdsNul
  else if isTooLong path then .error .tooLong
  else do
    let (p, files) ← files.makeDirectories (.start path) (names path).dropLast
    match (names path).getLast? with
    | none => throw .isDirectory
    | some name =>
      if name = ".." || files.isDirectory (p.child name) then throw .isDirectory
      else if nameLimit < name.utf8ByteSize then throw .tooLong
      else return { files with contents := files.contents.put (p.child name) octets }

/-- The text that octets are read as. -/
def textOf (octets : ByteArray) : Except FileError String :=
  match String.fromUTF8? octets with
  | some s => .ok (String.ofList (withLineFeeds s.toList))
  | none => .error .notText

/-- The text of a file, if there is one. -/
def read? (files : Files) (path : String) : Except FileError (Option String) :=
  if path.contains (Char.ofNat 0) then .ok none
  else if isTooLong path then .error .tooLong
  else do
    match ← files.follow (.start path) (names path) with
    | .nothing => return none
    | .directory _ => throw .isDirectory
    | .file p => (files.contents.find? p).mapM textOf

end Files

end ScopeSearch
