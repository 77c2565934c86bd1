import JuliaBlocks.Shell.Utility.Directory

/-!
Utilities that bring files to other places: copying and moving.
-/

namespace JuliaBlocks.Shell.Utility

/-- What was brought so far: whether all went well, and the names and places of the sources and of the
files that they became. -/
structure Brought where
  fine : Bool := true
  sources : List (List Char × String) := []
  targets : List (List Char × String) := []

/-- Notes that something could not be brought, and says why. -/
def Brought.refuse (b : Brought) (message : List Char) : Exec Brought := do
  report message
  return { b with fine := false }

def pair (source : List Char) (between : String) (target : List Char) : List Char :=
  quoted source ++ between.toList ++ quoted target

/-- Says why one name, after some words, is refused. -/
def blame (words : String) (name : List Char) (place : Place) : List Char :=
  words.toList ++ quoted name ++ ": ".toList ++ ((absence place).getD "Not a directory").toList

/-- Brings sources to a target, which is a directory if there are several. -/
def bring (g : Given) (act : Brought → List Char → List Char → Exec Brought) : Exec Nat := do
  let into (directory : List Char) (sources : List (List Char)) : Exec Nat := do
    let b ← sources.foldlM (fun b source =>
      let part := lastPart source
      act b source (inside directory (if part = ['.', '.'] then ['.'] else part))) {}
    return if b.fine then 0 else 1
  match g.operands, g.argument? 't' with
  | [], none | [], some _ => missing "missing file operand"
  | [name], none => missing ("missing destination file operand after " ++ Octets.toText (quoted name))
  | sources, some directory =>
    if g.has 'T' then
      report "cannot combine --target-directory (-t) and --no-target-directory (-T)".toList
      return 1
    match ← lookUp directory with
    | .directory => into directory sources
    | place =>
      report (blame "target directory " directory place)
      return 1
  | source :: target :: rest, none =>
    let last := rest.getLastD target
    match g.has 'T', rest, ← lookUp last with
    | true, extra :: _, _ => missing ("extra operand " ++ Octets.toText (quoted extra))
    | false, rest, .directory => into last (source :: target :: rest).dropLast
    | false, _ :: _, place =>
      report (blame "target " last place)
      return 1
    | _, [], _ => return if (← act {} source target).fine then 0 else 1

/-! ## Copying -/

/-- Puts a text into the file of a name, which may be executed if it is new and so may its source. -/
def deposit (source target content : List Char) : Exec (Option (List Char)) := do
  let start ← pathOf source
  let path ← pathOf target
  let isNew := (← lookUp target) matches .vacant
  let fault ← store target content
  if isNew && fault.isNone then
    modifyShared fun s =>
      if s.executables.contains start then { s with executables := path :: s.executables } else s
  return fault.map fun why =>
    if target.getLast? = some '/' && why = "Is a directory".toList then "Not a directory".toList
    else why

/-- Copies one source, a directory with all in it. `top` are the names that this started from, and
`made` is the first directory that was made for it; the one made in the end and whether all went well
are given. -/
def copyInto (g : Given) (top : List Char × List Char) :
    Nat → Option String → List Char → List Char → Exec (Option String × Bool)
  | 0, made, _, _ => return (made, false)
  | fuel + 1, made, source, target => do
    let fails (message : List Char) : Exec (Option String × Bool) := do
      report message
      return (made, false)
    let copyText (content : Except (List Char) (List Char)) : Exec (Option String × Bool) := do
      announce g (pair source " -> " target)
      match content with
      | .error why =>
        fails ("cannot open ".toList ++ quoted source ++ " for reading: ".toList ++ why)
      | .ok text =>
        match ← deposit source target text with
        | none => return (made, true)
        | some why =>
          fails ("cannot create regular file ".toList ++ quoted target ++ ": ".toList ++ why)
    match ← lookUp source, ← lookUp target with
    | .directory, .directory | .directory, .vacant | .directory, .fault .missing =>
      let path ← pathOf target
      let isNew := !((← lookUp target) matches .directory)
      if isNew then
        if let .fault _ ← lookUp target then
          return ← fails (blame "cannot create directory " target .vacant)
        addDirectory path
        announce g (pair source " -> " target)
      let made := if isNew then made.or (some path) else made
      let names := entries (← shared).files (← pathOf source)
      names.foldlM (fun (made, fine) name => do
        let name := Octets.ofText name
        let from' := inside source name
        if made = some (← pathOf from') then
          report ("cannot copy a directory, ".toList ++ quoted top.1 ++ ", into itself, ".toList ++
            quoted top.2)
          return (made, false)
        let (made, also) ← copyInto g top fuel made from' (inside target name)
        return (made, fine && also)) (made, true)
    | .directory, .fault _ => fails (blame "cannot stat " target (← lookUp target))
    | .directory, _ =>
      fails ("cannot overwrite non-directory ".toList ++ pair target " with directory " source)
    | _, .directory =>
      fails ("cannot overwrite directory ".toList ++ quoted target ++ " with non-directory".toList)
    | _, .fault .notDirectory => fails (blame "cannot stat " target (.fault .notDirectory))
    | .vacant, _ | .fault _, _ => fails (blame "cannot stat " source (← lookUp source))
    | .file content, place =>
      if g.has 'n' && !(place matches .vacant | .fault _) then return (made, true)
      copyText (.ok (Octets.ofBytes content))
    | _, place =>
      if g.has 'n' && !(place matches .vacant | .fault _) then return (made, true)
      copyText (← contentOf source)

def copyOne (g : Given) (b : Brought) (source target : List Char) : Exec Brought := do
  let start ← pathOf source
  let path ← pathOf target
  let place ← lookUp source
  let isDirectory := place matches .directory
  if (absence place).isSome then return ← b.refuse (blame "cannot stat " source place)
  if isDirectory && !(g.has 'r' || g.has 'R' || g.has 'a') then
    return ← b.refuse ("-r not specified; omitting directory ".toList ++ quoted source)
  if !isDirectory && b.sources.contains (source, start) then
    report ("warning: source file ".toList ++ quoted source ++ " specified more than once".toList)
    return b
  let b := { b with sources := (source, start) :: b.sources }
  let isThere := (absence (← lookUp target)).isNone
  if isThere && start = path && (isDirectory || !g.has 'n') then
    return ← b.refuse (pair source " and " target ++ " are the same file".toList)
  if isThere && !isDirectory && !g.has 'n' && b.targets.contains (target, path) then
    return ← b.refuse ("will not overwrite just-created ".toList ++ pair target " with " source)
  let (_, fine) ← copyInto g (source, target)
    ((← shared).files.directories.length + path.length + 2) none source target
  let b := { b with fine := b.fine && fine }
  return if fine && !isDirectory then { b with targets := (target, path) :: b.targets } else b

def copyFiles : Utility := fun arguments =>
  withOptions { letters := "adfiHlLnpPrRst:Tuvx", long := [("recursive", 'r'), ("archive", 'a'),
    ("force", 'f'), ("no-clobber", 'n'), ("target-directory", 't'), ("verbose", 'v'),
    ("no-target-directory", 'T')] } 1 arguments fun g => do
      if g.has 'n' then
        report ("warning: behavior of -n is non-portable and may change in future; " ++
          "use --update=none instead").toList
      bring g (copyOne g)

/-! ## Moving -/

def rename (start path : String) : Exec Unit := do
  let rebase (p : String) : String := path ++ String.ofList (p.toList.drop start.length)
  let s ← shared
  let (directories, inside) := tree s.files start
  let runs := s.executables.filter fun p => inside.contains p
  let moved := inside.map fun p => (rebase p, (s.files.read? p).getD [])
  inside.forM removeFile
  directories.forM dropDirectory
  directories.forM fun d => addDirectory (rebase d)
  moved.forM fun (p, content) => writeFile p content
  modifyShared fun s => { s with executables := runs.map rebase ++ s.executables }

def moveOne (g : Given) (b : Brought) (source target : List Char) : Exec Brought := do
  let start ← pathOf source
  let path ← pathOf target
  let place ← lookUp source
  let isDirectory := place matches .directory
  let fails (why : String) : Exec Brought :=
    b.refuse ("cannot move ".toList ++ pair source " to " target ++ ": ".toList ++ why.toList)
  let settle (before : Exec Unit) : Exec Brought := do
    if isDotted (lastPart source) then fails "Device or resource busy"
    else if isDirectory && Files.within start path then
      b.refuse ("cannot move ".toList ++ pair source " to a subdirectory of itself, " target)
    else
      before
      rename start path
      announce g ("renamed ".toList ++ pair source " -> " target)
      return { b with targets := (target, path) :: b.targets }
  if (absence place).isSome then return ← b.refuse (blame "cannot stat " source place)
  match ← lookUp target with
  | .fault .notDirectory =>
    if (absence (← lookUp (unslashed target))).isNone && isDirectory then
      b.refuse ("cannot overwrite non-directory ".toList ++ pair target " with directory " source)
    else b.refuse (blame "cannot stat " target (.fault .notDirectory))
  | .fault fault => fails (faultWords fault)
  | .vacant =>
    if !isDirectory && target.getLast? = some '/' then fails "Not a directory"
    else settle (return ())
  | there =>
    if g.has 'n' then return b
    if start = path then
      return ← b.refuse (pair source " and " target ++ " are the same file".toList)
    match isDirectory, there with
    | true, .directory =>
      if !(entries (← shared).files path).isEmpty && !Files.within start path &&
          !isDotted (lastPart source) then
        b.refuse ("cannot overwrite ".toList ++ quoted target ++ ": Directory not empty".toList)
      else settle (dropDirectory path)
    | true, _ =>
      b.refuse ("cannot overwrite non-directory ".toList ++ pair target " with directory " source)
    | false, .directory =>
      b.refuse ("cannot overwrite directory ".toList ++ quoted target ++
        " with non-directory".toList)
    | false, _ =>
      if b.targets.contains (target, path) then
        b.refuse ("will not overwrite just-created ".toList ++ pair target " with " source)
      else settle (removeFile path)

def moveFiles : Utility := fun arguments =>
  withOptions { letters := "bfint:Tuv", long := [("force", 'f'), ("no-clobber", 'n'),
    ("target-directory", 't'), ("verbose", 'v'), ("no-target-directory", 'T')] } 1 arguments fun g =>
    bring g (moveOne g)

end JuliaBlocks.Shell.Utility
