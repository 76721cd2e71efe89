import Trendline.Chart.Svg
import Trendline.Failure
import Trendline.Files.Path

/-!
# File trees

The files that the program sees, as a value.  Reading, writing and making
directories are functions on it, and fail where an operating system fails.

A place is the list of names that lead from the working directory to a file or
directory.  The places above the working directory begin with `..`, and those
that an absolute path leads to begin with `/`; there are only directories
unless something was put there.
-/

namespace Trendline

/-- What a file holds. -/
inductive Content where
  | bytes (data : List UInt8)
  /-- A drawing, in the notation of vector graphics. -/
  | drawing (d : Chart.Drawing)
  deriving DecidableEq

/-- What the file holds, as bytes. -/
def Content.toBytes : Content → List UInt8
  | bytes data => data
  | drawing d => d.svg.toUTF8.toList

/-- Files and directories by their places. -/
structure FileTree where
  files : List (List String × Content) := []
  directories : List (List String) := []

namespace FileTree

/-- The file at a place. -/
def file? (t : FileTree) (place : List String) : Option Content :=
  t.files.lookup place

/-- Whether there is a directory at a place; the working directory and all above it are. -/
def isDirectory (t : FileTree) (place : List String) : Bool :=
  place.all (· == "..") || place == ["/"] || t.directories.contains place

/-- The directory that a directory lies in. -/
def above (place : List String) : List String :=
  if place = ["/"] then place
  else if place.all (· == "..") then place ++ [".."]
  else place.dropLast

/-- The longest name of a file, in bytes. -/
def longestName : Nat :=
  255

/-- Follows components from a place, all of which but the last have to be directories. -/
def follow (t : FileTree) (place : List String) : List String → Except PathError (List String)
  | [] => .ok place
  | name :: rest =>
    if !t.isDirectory place then
      .error (if (t.file? place).isSome then .notDirectory else .notFound)
    else if name = "." then t.follow place rest
    else if name = ".." then t.follow (above place) rest
    else if longestName < name.utf8ByteSize then .error .nameTooLong
    else t.follow (place ++ [name]) rest

/-- The place that a path leads to; there need not be anything. -/
def locate (t : FileTree) (path : String) : Except PathError (List String) :=
  if path.isEmpty then .error .notFound
  else t.follow (if Path.isAbsolute path then ["/"] else []) (Path.components path)

/-- The content of the file at a path. -/
def read (t : FileTree) (path : String) : Except PathError Content := do
  let place ← t.locate path
  match t.file? place with
  | some content => return content
  | none => .error (if t.isDirectory place then .isDirectory else .notFound)

/-- Whether there is a file or directory at a path. -/
def contains (t : FileTree) (path : String) : Bool :=
  match t.read path with
  | .ok _ => true
  | .error e => e == .isDirectory

/-- Puts a file to a place. -/
def putFile (t : FileTree) (place : List String) (content : Content) : FileTree :=
  { t with files := t.files.filter (·.1 != place) ++ [(place, content)] }

/-- Writes a file, whose directory has to be there. -/
def write (t : FileTree) (path : String) (content : Content) : Except PathError FileTree := do
  let place ← t.locate (Path.trimSlashes path)
  let _ ← t.follow place.dropLast ["."]
  if t.isDirectory place ∨ path.toList.getLast? = some '/' then .error .isDirectory
  else return t.putFile place content

/-- Makes a directory in one that is there. -/
def makeDirectory (t : FileTree) (path : String) : Except PathError FileTree := do
  let place ← t.locate (Path.trimSlashes path)
  let _ ← t.follow place.dropLast ["."]
  if t.isDirectory place ∨ (t.file? place).isSome then .error .alreadyExists
  else return { t with directories := t.directories ++ [place] }

/-- Whether there is a directory at a path. -/
def holdsDirectory (t : FileTree) (path : String) : Bool :=
  match t.locate path with
  | .ok place => t.isDirectory place
  | .error _ => false

/-- Makes a directory and the ones above it, with at most `fuel` components. -/
def makeAll : (fuel : Nat) → FileTree → String → Except PathError FileTree
  | 0, t, _ => .ok t
  | fuel + 1, t, path =>
    if path.isEmpty || t.holdsDirectory path then .ok t
    else
      match t.makeDirectory path with
      | .ok t => .ok t
      | .error .notFound => do
        let t ← makeAll fuel t (Path.parent path)
        if t.holdsDirectory path then return t else t.makeDirectory path
      | .error e => .error e

/-- Makes a directory and the ones above it, as far as they are missing. -/
def makeDirectories (t : FileTree) (path : String) : Except PathError FileTree :=
  makeAll (path.length + 1) t path

/-- The tree without what is at a path or below it. -/
def remove (t : FileTree) (path : String) : FileTree :=
  match t.locate path with
  | .error _ => t
  | .ok place =>
    { files := t.files.filter fun f => !place.isPrefixOf f.1
      directories := t.directories.filter fun d => !place.isPrefixOf d }

/-- Puts a file to a path, with the directories it needs; a path with a slash at its end is one. -/
def place (t : FileTree) (path : String) (content : Content) : FileTree :=
  if path.toList.getLast? = some '/' then (t.makeDirectories path).toOption.getD t
  else
    let t := (t.makeDirectories (Path.parent path)).toOption.getD t
    (t.write path content).toOption.getD t

/-- Puts what was found at a path into the tree: a file, or else a directory. -/
def found (t : FileTree) (path : String) (content : Option Content) : FileTree :=
  match t.locate path, content with
  | .ok place, some content => t.putFile place content
  | .ok place, none =>
    if t.isDirectory place then t else { t with directories := t.directories ++ [place] }
  | .error _, _ => t

/-- The path of a place. -/
def pathOf : List String → String
  | "/" :: place => "/" ++ String.intercalate "/" place
  | place => String.intercalate "/" place

/-- The files that are not the same in an earlier tree, under their paths. -/
def changedSince (t before : FileTree) : List (String × Content) :=
  (t.files.filter fun f => before.file? f.1 != some f.2).map fun f => (pathOf f.1, f.2)

/-- The directories that an earlier tree does not have, each after the ones above it. -/
def madeSince (t before : FileTree) : List String :=
  (t.directories.filter (!before.directories.contains ·)).map pathOf

end FileTree

end Trendline
