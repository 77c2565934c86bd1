import JuliaBlocks.Shell.Utility.Basic

/-!
Utilities that create and remove files and directories, or change whether files may be executed.
-/

namespace JuliaBlocks.Shell.Utility

/-! ## Changes -/

def addDirectory (path : String) : Exec Unit :=
  modifyShared fun s => { s with
    files := s.files.apply (.makeDirectory path), touched := path :: s.touched }

def dropDirectory (path : String) : Exec Unit :=
  modifyShared fun s => { s with
    files := s.files.apply (.removeDirectory path), touched := path :: s.touched }

/-- The directories in a directory, itself included, and the files in it, at any depth. -/
def tree (files : Files) (path : String) : List String × List String :=
  let inside (p : String) : Bool := p == path || Files.within path p
  (Text.sortDistinct (files.directories.filter inside), Text.sortDistinct (files.paths.filter inside))

/-- Why something is not there, in words. -/
def absence (place : Place) : Option String :=
  match place with
  | .vacant => some "No such file or directory"
  | .fault fault => some (faultWords fault)
  | _ => none

/-! ## Names -/

def inside (directory name : List Char) : List Char :=
  (if directory.getLast? = some '/' then directory else directory ++ ['/']) ++ name

def unslashed (name : List Char) : List Char :=
  (name.reverse.dropWhile (· == '/')).reverse

def lastPart (name : List Char) : List Char :=
  let parts := (Text.pieces (· == '/') name).filter (!·.isEmpty)
  parts.getLastD (if name.isEmpty then [] else ['/'])

/-- Whether a part is one of the two that every directory has. -/
def isDotted (part : List Char) : Bool :=
  part = ['.'] || part = ['.', '.']

/-! ## Operands -/

/-- Points to the help of a utility, which ends it. -/
def adviseHelp : Exec Nat := do
  complain ("Try '".toList ++ (← own).name ++ " --help' for more information.\n".toList)
  return 1

/-- Says what is missing when there are no operands. -/
def missing (message : String) : Exec Nat := do
  report message.toList
  adviseHelp

/-- Says why something fails; the flag tells that it does. -/
def refuse (message : List Char) : Exec Bool := do
  report message
  return false

/-- Says on standard output what was done, if that is asked for. -/
def announce (g : Given) (message : List Char) : Exec Unit := do
  if g.has 'v' then
    let _ ← say (message ++ ['\n'])

/-- Does something for each operand; the status is one if any of it fails. -/
def forEach (names : List (List Char)) (act : List Char → Exec Bool) : Exec Nat :=
  names.foldlM (fun status name => do return if ← act name then status else 1) 0

/-! ## Creating -/

/-- Creates files that do not exist. -/
def touch : Utility := fun arguments =>
  withOptions { letters := "acmhd:r:t:", long := [("no-create", 'c'), ("date", 'd'),
    ("reference", 'r')] } 1 arguments fun g => do
    if g.operands.isEmpty then return ← missing "missing file operand"
    forEach g.operands fun name => do
      let rejects (why : String) : Exec Bool :=
        refuse ("cannot touch ".toList ++ quoted name ++ ": ".toList ++ why.toList)
      match ← lookUpNew name, ← lookUp name with
      | _, .file _ | _, .directory | _, .device _ | _, .stream _ => return true
      | .directory, place =>
        if g.has 'c' && !(place matches .fault .notDirectory) then return true
        refuse ("setting times of ".toList ++ quoted name ++ ": ".toList ++
          ((absence place).getD "").toList)
      | _, .vacant =>
        if !g.has 'c' then writeFile (← pathOf name) []
        return true
      | _, .fault fault =>
        if g.has 'c' then
          if fault = .missing then return true
          return ← refuse ("setting times of ".toList ++ quoted name ++ ": ".toList ++
            (faultWords fault).toList)
        rejects (faultWords fault)

/-- The names that lead to a name part by part, itself the last. -/
def ancestry (name : List Char) : List (List Char) :=
  let ends := (List.range (name.length + 1)).filter fun n =>
    0 < n && name[n - 1]? != some '/' && (name[n]? == some '/' || n == name.length)
  ends.map name.take

def makeDirectories : Utility := fun arguments =>
  withOptions { letters := "m:pvZ", long := [("mode", 'm'), ("parents", 'p'), ("verbose", 'v')] } 1
    arguments fun g => do
      if g.operands.isEmpty then return ← missing "missing operand"
      forEach g.operands fun name => do
        let rejects (name : List Char) (why : String) : Exec Bool :=
          refuse ("cannot create directory ".toList ++ curled name ++ ": ".toList ++ why.toList)
        let make (name : List Char) : Exec Unit := do
          addDirectory (← pathOf name)
          announce g ((← own).name ++ ": created directory ".toList ++ quoted name)
        let one (name : List Char) : Exec Bool := do
          match ← lookUp name with
          | .vacant =>
            make name
            return true
          | .fault .notDirectory =>
            if (absence (← lookUp (unslashed name))).isNone then rejects name "File exists"
            else rejects name "Not a directory"
          | .fault fault => rejects name (faultWords fault)
          | _ => rejects name "File exists"
        if !g.has 'p' then return ← one name
        let names := ancestry name
        let rec each : List (List Char) → Exec Bool
          | [] => if names.isEmpty then one name else return true
          | [last] => do
            match ← lookUp last with
            | .directory => return true
            | _ => one (if last.length < name.length then name else last)
          | first :: rest => do
            match ← lookUp first with
            | .directory => each rest
            | .vacant =>
              make first
              each rest
            | .fault fault => rejects first (faultWords fault)
            | _ => rejects first "Not a directory"
        each names

/-! ## Removing -/

/-- Removes a directory with all in it, from the inside out. -/
def removeTree (g : Given) : Nat → List Char → Exec Unit
  | 0, _ => return ()
  | fuel + 1, name => do
    let path ← pathOf name
    for entry in entries (← shared).files path do
      let name := inside name (Octets.ofText entry)
      match ← lookUp name with
      | .directory => removeTree g fuel name
      | _ =>
        removeFile (← pathOf name)
        announce g ("removed ".toList ++ quoted name)
    dropDirectory path
    announce g ("removed directory ".toList ++ quoted name)

def remove : Utility := fun arguments =>
  withOptions { letters := "dfiIrRv", long := [("force", 'f'), ("recursive", 'r'), ("dir", 'd'),
    ("verbose", 'v')] } 1 arguments fun g => do
    if g.operands.isEmpty then
      if g.has 'f' then return 0
      return ← missing "missing operand"
    forEach g.operands fun name => do
      let rejects (why : String) : Exec Bool :=
        refuse ("cannot remove ".toList ++ quoted name ++ ": ".toList ++ why.toList)
      let path ← pathOf name
      match ← lookUp name with
      | .directory =>
        let files := (← shared).files
        let isEmpty := (entries files path).isEmpty
        if !(g.has 'r' || g.has 'R' || (g.has 'd' && isEmpty)) then
          return ← rejects (if g.has 'd' then "Directory not empty" else "Is a directory")
        if isDotted (lastPart name) then
          return ← refuse ("refusing to remove '.' or '..' directory: skipping ".toList ++
            quoted name)
        removeTree g (files.directories.length + 2) name
        return true
      | .file _ =>
        removeFile path
        announce g ("removed ".toList ++ quoted name)
        return true
      | place =>
        match absence place with
        | some why => if g.has 'f' then return true else rejects why
        | none => return true

/-- Removes directories that are empty, and those they lie in if told to. -/
def removeDirectories : Utility := fun arguments =>
  withOptions { letters := "pv", long := [("parents", 'p'), ("verbose", 'v'),
    ("ignore-fail-on-non-empty", 'i')] } 1 arguments fun g => do
    if g.operands.isEmpty then return ← missing "missing operand"
    forEach g.operands fun name => do
      let one (isParent : Bool) (name : List Char) : Exec Bool := do
        announce g ((← own).name ++ ": removing directory, ".toList ++ quoted name)
        let path ← pathOf name
        let rejects (why : String) : Exec Bool :=
          refuse ((if isParent then "failed to remove directory " else "failed to remove ").toList ++
            quoted name ++ ": ".toList ++ why.toList)
        match ← lookUp name with
        | .directory =>
          if lastPart name = ['.'] then return ← rejects "Invalid argument"
          if lastPart name = ['.', '.'] || !(entries (← shared).files path).isEmpty then
            return ← rejects "Directory not empty"
          dropDirectory path
          return true
        | place => rejects ((absence place).getD "Not a directory")
      if !(← one false name) then return false
      if !g.has 'p' then return true
      let rec each : List (List Char) → Exec Bool
        | [] => return true
        | name :: rest => do if ← one true name then each rest else return false
      each ((ancestry name).dropLast.reverse)

/-! ## Modes -/

/-- Whether a mode lets files be executed that could be or could not; there is no answer if it is no
mode. -/
def executes? (mode : List Char) (before : Bool) : Option Bool :=
  if !mode.isEmpty && mode.all fun c => '0' ≤ c && c ≤ '7' then
    some (mode.any fun d => (d.toNat - 48) % 2 == 1)
  else
    (Text.pieces (· == ',') mode).foldlM (fun before clause =>
      let rest := clause.dropWhile fun c => c == 'u' || c == 'g' || c == 'o' || c == 'a'
      let all := rest.length == clause.length || clause.contains 'a'
      match rest with
      | operator :: permissions =>
        if !permissions.all fun c => "rwxXst".toList.contains c then none
        else
          let named := permissions.contains 'x' || (permissions.contains 'X' && before)
          match operator with
          | '+' => some (before || named)
          | '-' => some (before && !(named && all))
          | '=' => some (named || (before && !all))
          | _ => none
      | [] => none) before

/-- Changes whether files may be executed. -/
def changeMode : Utility := fun arguments => do
  let isMode (a : List Char) : Bool :=
    a.head? == some '-' && a.length != 1 && (a.drop 1).all fun c => "rwxXst,".toList.contains c
  let words := arguments.filter fun a => a.head? != some '-' || isMode a
  match words with
  | [] => missing "missing operand"
  | [mode] => missing ("missing operand after " ++ Octets.toText (curled mode))
  | mode :: names =>
    if (executes? mode false).isNone then
      return ← missing ("invalid mode: " ++ Octets.toText (curled mode))
    forEach names fun name => do
      match ← lookUp name with
      | .file _ =>
        let path ← pathOf name
        let runs := (executes? mode ((← shared).executables.contains path)).getD false
        modifyShared fun s => { s with
          executables := (if runs then [path] else []) ++ s.executables.filter (· != path) }
        return true
      | .directory | .device _ | .stream _ => return true
      | place =>
        refuse ("cannot access ".toList ++ quoted name ++ ": ".toList ++
          ((absence place).getD "").toList)

end JuliaBlocks.Shell.Utility
