import JuliaBlocks.Files
import JuliaBlocks.Settings.Issue
import JuliaBlocks.Value

/-!
Why an operation fails, with the one message of each cause. Some failures are reported to the
user as plain errors; the others are defects of the input or of a plugin that nothing catches.

Left out is what handlers of failures let through, such as an interrupt or an exit, and what is due
to the machine or to texts that are none: a recursion that goes too deep, a want of memory, and
halves of surrogate pairs in a text that has to be written.
-/

namespace JuliaBlocks

/-- Why the channel to a session fails. -/
inductive SessionFault
  | stateless (key : String)
  | exited (name : String) (code : Int)
  | withoutInput (name : String)
  | brokenInput (name : String)
  | executableMissing (command : String)
  | cannotStart (name reason : String)
deriving DecidableEq

def SessionFault.message : SessionFault → String
  | stateless key => "session " ++ Text.quoted key ++ " keeps no state to prepare"
  | exited name code =>
    "julia session " ++ Text.quoted name ++ " exited with code " ++ Numeral.render code
  | withoutInput name => "julia session " ++ Text.quoted name ++ " has no input channel"
  | brokenInput name =>
    "cannot write to julia session " ++ Text.quoted name ++ ": [Errno 32] Broken pipe"
  | executableMissing command => "julia executable not found: " ++ Text.quoted command
  | cannotStart name reason =>
    "cannot start julia session " ++ Text.quoted name ++ ": " ++ reason

/-- Why an operation fails. -/
inductive Failure
  /-- A variable name is no identifier. -/
  | invalidVariable (name : String)
  /-- Text cannot be carried to a session. -/
  | session (fault : SessionFault)
  /-- Fields of the settings are refused. -/
  | configuration (issues : List Issue)
  /-- A field of the settings is no text of its form. -/
  | unreadableSetting (field source : String)
  /-- An integer has too many digits to be written. -/
  | unprintableInteger
  /-- A numeral has too many digits to be read. -/
  | overlongNumeral (digits : Nat)
  /-- A result kind, shown in quoted form, is not one of the kinds. -/
  | unknownKind (shown : String)
  /-- A log level is not one of the levels. -/
  | unknownLevel (name : String)
  /-- A logging profile is not one of the profiles. -/
  | unknownProfile (name : String)
  /-- A value of this kind is no collection. -/
  | notCollection (kind : String)
  /-- An infinite number stands where an integer is wanted. -/
  | infiniteDimension
  /-- A file cannot be created. -/
  | uncreatable (fault : PathFault) (path : String)
  /-- An argument of a program holds a null character. -/
  | nullCharacter
  /-- An argument of a program holds halves of surrogate pairs from a place up to another. -/
  | unencodable (start stop : Nat) (first : Nat)
  /-- What is to be waited for is no number, is negative, or has more seconds than a clock counts,
  as a floating-point number or as an integer. -/
  | undefinedInterval
  | negativeInterval
  | endlessInterval
  | overlongInterval
  /-- A value of a kind stands where an integer may. -/
  | notInteger (kind : String)
  /-- A binding of the log context was undone before. -/
  | spentToken
  /-- A plugin's name, or a plugin equal to it, is registered already. -/
  | duplicatePlugin
  /-- A plugin's hook declares an argument that the hook does not have. -/
  | undeclaredArgument
  /-- A hook is called without arguments that its implementation declares. -/
  | missingArguments (names : List String)
  /-- A value of a kind is used by a part that this kind does not have. -/
  | lackingPart (kind part : String)
  /-- A value of a kind stands where only keys may. -/
  | unfitKey (kind : String)
  /-- A value of a kind stands at a place among texts to be joined. -/
  | notText (place : Nat) (kind : String)
  /-- A plugin or sink fails on its own account, in a way that is reported to the user or not. -/
  | raised (kind message : String) (reported : Bool)

namespace Failure

/-- The words for missing arguments: two are joined by a plain `and`, more by commas too. -/
def missingNames : List String → String
  | [] => ""
  | [a] => a
  | [a, b] => a ++ " and " ++ b
  | names => String.intercalate ", " names.dropLast ++ ", and " ++ names.getLastD ""

def message : Failure → String
  | invalidVariable name => "not a Julia identifier: " ++ Text.quoted name
  | session fault => fault.message
  | configuration issues =>
    Numeral.render issues.length ++
      (if issues.length = 1 then " validation error" else " validation errors") ++ " for Settings"
  | unreadableSetting field source =>
    "error parsing value for field \"" ++ field ++ "\" from source \"" ++ source ++ "\""
  | unprintableInteger =>
    "Exceeds the limit (4300 digits) for integer string conversion; " ++
      "use sys.set_int_max_str_digits() to increase the limit"
  | overlongNumeral digits =>
    "Exceeds the limit (4300 digits) for integer string conversion: value has " ++
      Numeral.render digits ++
      " digits; use sys.set_int_max_str_digits() to increase the limit"
  | unknownKind shown => shown ++ " is not a valid ResultKind"
  | unknownLevel name => "Level '" ++ name ++ "' does not exist"
  | unknownProfile name => Text.quoted name
  | notCollection kind => "'" ++ kind ++ "' object is not iterable"
  | infiniteDimension => "cannot convert float infinity to integer"
  | uncreatable fault path => fault.message path
  | nullCharacter => "embedded null byte"
  | unencodable start stop first =>
    "'utf-8' codec can't encode " ++
      (if stop = start + 1 then
        "character '\\u" ++ String.ofList (Text.hexDigits 4 first) ++ "' in position " ++
          Numeral.render start
      else "characters in position " ++ Numeral.render start ++ "-" ++
        Numeral.render (stop - 1 : Nat)) ++ ": surrogates not allowed"
  | undefinedInterval => "Invalid value NaN (not a number)"
  | negativeInterval => "sleep length must be non-negative"
  | endlessInterval => "timestamp out of range for platform time_t"
  | overlongInterval => "timestamp too large to convert to C _PyTime_t"
  | notInteger kind => "'" ++ kind ++ "' object cannot be interpreted as an integer"
  | spentToken => "token has already been used once"
  | duplicatePlugin => "plugin already registered"
  | undeclaredArgument => "argument not declared by the hook"
  | missingArguments names =>
    "<lambda>() missing " ++ Numeral.render names.length ++ " required positional argument" ++
      (if names.length = 1 then "" else "s") ++ ": " ++
      missingNames (names.map fun n => "'" ++ n ++ "'")
  | lackingPart kind part =>
    "'" ++ kind ++ "' object has no attribute '" ++ part ++ "'"
  | unfitKey kind => "unhashable type: '" ++ kind ++ "'"
  | notText place kind =>
    "sequence item " ++ Numeral.render place ++ ": expected str instance, " ++ kind ++ " found"
  | raised _ message _ => message

/-- Whether a failure is reported to the user as an error of their own making. -/
def isReported : Failure → Bool
  | invalidVariable _ => true
  | session _ => true
  | configuration _ => true
  | raised _ _ reported => reported
  | _ => false

end Failure

/-- The display form of a value, as part of an operation that may fail. -/
def Value.display (v : Value) : Except Failure String :=
  match v.display? with
  | some s => .ok s
  | none => .error .unprintableInteger

/-- The quoted form of a value, as part of an operation that may fail. -/
def Value.quoted (v : Value) : Except Failure String :=
  match v.quoted? with
  | some s => .ok s
  | none => .error .unprintableInteger

/-- Values that are to be joined, as the texts they have to be. -/
def Value.texts (values : List Value) (place : Nat := 0) : Except Failure (List String) :=
  match values with
  | [] => .ok []
  | .text s :: rest => do return s :: (← Value.texts rest (place + 1))
  | v :: _ => .error (.notText place v.kindName)

end JuliaBlocks
