import JuliaBlocks.Shell.Utility.Directory

/-!
Utilities that list directories and take names of files apart.
-/

namespace JuliaBlocks.Shell.Utility

/-- How names are listed, and what of a directory is. -/
structure Listing where
  hidden : Bool
  dotted : Bool
  reversed : Bool
  deep : Bool
  marks : Bool
  runs : Bool

def Listing.order (l : Listing) (names : List (List Char)) : List (List Char) :=
  let sorted := names.mergeSort Text.inOrder
  if l.reversed then sorted.reverse else sorted

/-- What follows a name in a listing to tell what it is. -/
def Listing.mark (l : Listing) (name : List Char) : Exec (List Char) := do
  if !l.marks then return []
  match ← lookUp name with
  | .directory => return ['/']
  | _ => return if l.runs && (← shared).executables.contains (← pathOf name) then ['*'] else []

/-- Lists a directory, after its name if that is asked for and before those in it if they are listed
too. The flag tells that something was listed before. -/
def Listing.show (l : Listing) (named : Bool) : Nat → Bool → List Char → Exec Unit
  | 0, _, _ => return ()
  | fuel + 1, later, name => do
    let all := (entries (← shared).files (← pathOf name)).map Octets.ofText
    let visible := all.filter fun entry => l.hidden || entry.head? != some '.'
    if named then
      let _ ← say ((if later then ['\n'] else []) ++ name ++ ":\n".toList)
    for entry in l.order ((if l.dotted then [['.'], ['.', '.']] else []) ++ visible) do
      let _ ← say (entry ++ (← l.mark (inside name entry)) ++ ['\n'])
    if l.deep then
      for entry in l.order visible do
        let below := inside name entry
        match ← lookUp below with
        | .directory => l.show true fuel true below
        | _ => pure ()

def list : Utility := fun arguments =>
  withOptions { letters := "1aAbBcCdDfFghHiIklLmnNopqQrRsStTuUvwxXZ", long := [("all", 'a'),
    ("almost-all", 'A'), ("directory", 'd'), ("reverse", 'r'), ("classify", 'F'),
    ("recursive", 'R')] } 2 arguments fun g => do
      let dotted := g.has 'a' || g.has 'f'
      let l : Listing := {
        hidden := dotted || g.has 'A', dotted, reversed := g.has 'r', deep := g.has 'R'
        marks := g.has 'F' || g.has 'p', runs := g.has 'F' }
      let operands := if g.operands.isEmpty then [['.']] else g.operands
      let mut status := 0
      let mut plain : List (List Char) := []
      let mut directories : List (List Char) := []
      for name in operands do
        match ← lookUp name with
        | .directory =>
          if g.has 'd' then plain := name :: plain else directories := name :: directories
        | .vacant | .fault _ =>
          report (("cannot access ".toList ++ quoted name ++ ": ".toList ++
            ((absence (← lookUp name)).getD "").toList))
          status := 2
        | _ => plain := name :: plain
      for name in l.order plain do
        let _ ← say (name ++ (← l.mark name) ++ ['\n'])
      let depth := (← shared).files.directories.length + 2
      let named := l.deep || 1 < operands.length
      let mut later := !plain.isEmpty
      for name in l.order directories do
        l.show named depth later name
        later := true
      return status

/-! ## Paths -/

/-- Prints the last parts of paths. -/
def baseName : Utility := fun arguments =>
  withOptions { letters := "as:z", long := [("multiple", 'a'), ("suffix", 's')], ordered := true } 1
    arguments fun g => do
      let strip (suffix name : List Char) : List Char :=
        if suffix.isSuffixOf name && suffix != name then name.take (name.length - suffix.length)
        else name
      match g.operands with
      | [] => missing "missing operand"
      | name :: rest =>
        if g.has 'a' || g.has 's' then
          let _ ← say ((g.operands.flatMap fun n =>
            strip ((g.argument? 's').getD []) (lastPart n) ++ ['\n']))
          return 0
        match rest with
        | _ :: extra :: _ =>
          report ("extra operand ".toList ++ curled extra)
          complain ("Try '".toList ++ (← own).name ++ " --help' for more information.\n".toList)
          return 1
        | rest =>
          let _ ← say (strip (rest.headD []) (lastPart name) ++ ['\n'])
          return 0

def directoryPart (name : List Char) : List Char :=
  let trimmed := (name.reverse.dropWhile (· == '/')).reverse
  if trimmed.isEmpty then (if name.isEmpty then ['.'] else ['/'])
  else
    let front := (trimmed.reverse.dropWhile (· != '/')).reverse
    if front.isEmpty then ['.']
    else
      let front := (front.reverse.dropWhile (· == '/')).reverse
      if front.isEmpty then ['/'] else front

/-- Prints the directories of paths. -/
def directoryName : Utility := fun arguments =>
  withOptions { letters := "z" } 1 arguments fun g => do
    if g.operands.isEmpty then return ← missing "missing operand"
    let _ ← say (g.operands.flatMap fun n => directoryPart n ++ ['\n'])
    return 0

/-- Prints paths from the root on. -/
def realPath : Utility := fun arguments =>
  withOptions { letters := "efmnqsz" } 1 arguments fun g => do
    if g.operands.isEmpty then return ← missing "missing operand"
    forEach g.operands fun name => do
      match ← lookUp name with
      | .fault fault =>
        if !g.has 'm' then
          report (name ++ ": ".toList ++ (faultWords fault).toList)
          return false
        let _ ← say (Octets.ofText (← pathOf name) ++ ['\n'])
        return true
      | _ =>
        let _ ← say (Octets.ofText (← pathOf name) ++ ['\n'])
        return true

end JuliaBlocks.Shell.Utility
