import JuliaBlocks.Text.Blank

/-!
Paths in their plain form: no empty and no `.` components, no slash at the end. Two slashes at
the front, and just two, are kept; `..` is kept too, since what it leads to is not known.
-/

namespace JuliaBlocks.Path

def components (path : String) : List String :=
  ((Text.pieces (· == '/') path.toList).map String.ofList).filter fun s => s != "" && s != "."

/-- The slashes that a path starts from. -/
def root (path : String) : String :=
  match path.toList with
  | '/' :: '/' :: '/' :: _ => "/"
  | '/' :: '/' :: _ => "//"
  | '/' :: _ => "/"
  | _ => ""

/-- The plain form of a path; a path with neither root nor components is `.`. -/
def normalize (path : String) : String :=
  let plain := root path ++ String.intercalate "/" (components path)
  if plain = "" then "." else plain

/-- The components with each `..` cancelling the one before it; at the root it goes nowhere. -/
def cancelParents (parts : List String) : List String :=
  (parts.foldl (fun done part => if part = ".." then done.drop 1 else part :: done) []).reverse

/-- The absolute path that a path means in a directory, which is absolute itself. -/
def resolve (directory path : String) : String :=
  let whole := if (root path) = "" then directory ++ "/" ++ path else path
  root whole ++ String.intercalate "/" (cancelParents (components whole))

/-- The place that a path means in a directory: as a file is found, in one form for each place. -/
def place (directory path : String) : String :=
  let whole := if (root path) = "" then directory ++ "/" ++ path else path
  "/" ++ String.intercalate "/" (cancelParents (components whole))

def join (directory entry : String) : String :=
  if directory.toList.getLast? = some '/' then directory ++ entry else directory ++ "/" ++ entry

end JuliaBlocks.Path
