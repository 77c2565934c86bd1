import JuliaBlocks.Number.Binary64
import JuliaBlocks.Shell.Regex

/-!
The syntax of programs for record after record of text: patterns with actions, and functions.
-/

namespace JuliaBlocks.Shell.Awk

inductive Operator
  | add
  | sub
  | mul
  | div
  | mod
  | pow
  | join
  | less
  | lessEqual
  | equal
  | notEqual
  | greater
  | greaterEqual
  | and
  | or
deriving DecidableEq

inductive Expr
  | number (x : Binary64)
  | text (s : List Char)
  /-- A pattern for the record as a whole. -/
  | pattern (r : Regex)
  | name (s : String)
  | field (place : Expr)
  | element (name : String) (key : List Expr)
  | assign (operator : Option Operator) (target value : Expr)
  /-- A step up or down, before or after the value is taken. -/
  | step (up first : Bool) (target : Expr)
  | binary (operator : Operator) (left right : Expr)
  | negate (e : Expr)
  | plus (e : Expr)
  | not (e : Expr)
  | choose (condition yes no : Expr)
  | fits (negated : Bool) (e pattern : Expr)
  | member (key : List Expr) (name : String)
  | call (name : String) (arguments : List Expr)
  | builtin (name : String) (arguments : List Expr)
  /-- Reads a record of the main input, of a file or of what a command prints. -/
  | readLine (target : Option Expr)
  | readFile (target : Option Expr) (name : Expr)
  | readCommand (target : Option Expr) (command : Expr)
  | grouped (e : List Expr)
deriving Inhabited

inductive Output
  | standard
  | file (kept : Bool) (name : Expr)
  | command (text : Expr)

inductive Statement
  | expression (e : Expr)
  | print (items : List Expr) (output : Output)
  | format (items : List Expr) (output : Output)
  | branch (condition : Expr) (yes no : List Statement)
  | loop (condition : Expr) (body : List Statement)
  | repeatLoop (body : List Statement) (condition : Expr)
  | count (start : List Statement) (condition : Option Expr) (next : List Statement)
      (body : List Statement)
  | each (name array : String) (body : List Statement)
  | block (body : List Statement)
  | next
  | nextFile
  | exit (status : Option Expr)
  | answer (value : Option Expr)
  | leave
  | goOn
  | delete (name : String) (key : List Expr)

/-- What a rule applies to. -/
inductive Pattern
  | start
  | stop
  | always
  | holds (e : Expr)
  | range (number : Nat) (first last : Expr)

/-- A pattern with its action; without one the record is printed. -/
structure Rule where
  pattern : Pattern
  action : Option (List Statement)

structure Function where
  parameters : List String
  body : List Statement

structure Program where
  rules : List Rule := []
  functions : List (String × Function) := []

end JuliaBlocks.Shell.Awk
