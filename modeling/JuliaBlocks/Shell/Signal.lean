import JuliaBlocks.Number.Numeral

/-!
The signals of processes by number and name.
-/

namespace JuliaBlocks.Shell.Signal

/-- The names of signals in the order of their numbers, from one on. -/
def names : List String :=
  ["HUP", "INT", "QUIT", "ILL", "TRAP", "ABRT", "BUS", "FPE", "KILL", "USR1", "SEGV", "USR2", "PIPE",
    "ALRM", "TERM", "STKFLT", "CHLD", "CONT", "STOP", "TSTP", "TTIN", "TTOU", "URG", "XCPU", "XFSZ",
    "VTALRM", "PROF", "WINCH", "IO", "PWR", "SYS"]

def greatest : Nat := 64

/-- The name of a signal; zero is the end of a script. -/
def name (number : Nat) : String :=
  if number = 0 then "EXIT"
  else (names[number - 1]?).getD (Numeral.render number)

/-- The signal that a name or number stands for. -/
def ofText? (s : List Char) : Option Nat :=
  if !s.isEmpty && s.all Char.isDigit then
    let n := Numeral.ofDigits (s.filterMap Numeral.asciiDigit?)
    if n ≤ greatest then some n else none
  else
    let upper := String.ofList (s.map Char.toUpper)
    if upper = "EXIT" then some 0 else (names.findIdx? (· == upper)).map (· + 1)

/-- Whether a signal does nothing unless it is asked for. -/
def isHarmless (number : Nat) : Bool :=
  [0, 17, 18, 19, 20, 21, 22, 23, 28].contains number

/-- What is said of a process that a signal ended. -/
def description (number : Nat) : String :=
  match number with
  | 1 => "Hangup"
  | 2 => "Interrupt"
  | 3 => "Quit"
  | 4 => "Illegal instruction"
  | 5 => "Trace/breakpoint trap"
  | 6 => "Aborted"
  | 7 => "Bus error"
  | 8 => "Floating point exception"
  | 9 => "Killed"
  | 10 => "User defined signal 1"
  | 11 => "Segmentation fault"
  | 12 => "User defined signal 2"
  | 13 => "Broken pipe"
  | 14 => "Alarm clock"
  | 15 => "Terminated"
  | n => "Signal " ++ Numeral.render n

end JuliaBlocks.Shell.Signal
