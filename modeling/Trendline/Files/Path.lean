/-!
# Paths

A path is a text with slashes between its components.  Empty components, as in
`a//b` or at the end of `a/`, stand for the directory they are in, like `.`.
-/

namespace Trendline.Path

/-- Whether the path begins at the root. -/
def isAbsolute (path : String) : Bool :=
  path.toList.head? == some '/'

/-- The components of a path. -/
def components (path : String) : List String :=
  (path.toList.splitOn '/').map fun cs => if cs.isEmpty then "." else String.ofList cs

/-- A path below a directory; an absolute path stays as it is. -/
def join (directory path : String) : String :=
  if isAbsolute path || directory.isEmpty then path
  else if directory.toList.getLast? = some '/' then directory ++ path
  else directory ++ "/" ++ path

/-- The path without slashes at its end. -/
def trimSlashes (path : String) : String :=
  String.ofList (path.toList.reverse.dropWhile (· == '/')).reverse

/-- The path of the directory that a path lies in; one without slashes lies in the empty path. -/
def parent (path : String) : String :=
  let upToSlash := (trimSlashes path).toList.reverse.dropWhile (· != '/')
  trimSlashes (String.ofList upToSlash.reverse)

/-- The paths that lead to a path, the shortest first, and itself; `taken` is what is before it. -/
def leadingTo (taken : List Char) : List Char → List String
  | [] => [String.ofList taken]
  | c :: rest =>
    let longer := leadingTo (taken ++ [c]) rest
    if c = '/' ∧ taken ≠ [] then String.ofList taken :: longer else longer

end Trendline.Path
