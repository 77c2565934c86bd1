/-!
Refusals of single settings: where, and by which rule.
-/

namespace JuliaBlocks

/-- The rules by which a setting is refused. -/
inductive Rule
  /-- A text or number that stands for no truth value. -/
  | boolParsing
  /-- A value of a kind that cannot be a truth value. -/
  | boolType
  /-- A text that is no integer. -/
  | intParsing
  /-- A text or number too long to be taken as an integer. -/
  | intParsingSize
  /-- A number with a fraction where an integer is wanted. -/
  | intFromFloat
  /-- An infinite number, or none, where an integer is wanted. -/
  | finiteNumber
  /-- A value of a kind that cannot be an integer. -/
  | intType
  /-- A text that is no number. -/
  | floatParsing
  /-- A value of a kind that cannot be a number. -/
  | floatType
  /-- A value of a kind that cannot be a text. -/
  | stringType
  /-- Octets that are not UTF-8. -/
  | stringUnicode
  /-- A value of a kind that cannot be a list. -/
  | listType
  /-- A value of a kind that cannot be a path. -/
  | pathType
  /-- A value of the right kind that the program's own conditions exclude. -/
  | condition (message : String)
deriving DecidableEq, Repr

namespace Rule

def name : Rule → String
  | boolParsing => "bool_parsing"
  | boolType => "bool_type"
  | intParsing => "int_parsing"
  | intParsingSize => "int_parsing_size"
  | intFromFloat => "int_from_float"
  | finiteNumber => "finite_number"
  | intType => "int_type"
  | floatParsing => "float_parsing"
  | floatType => "float_type"
  | stringType => "string_type"
  | stringUnicode => "string_unicode"
  | listType => "list_type"
  | pathType => "path_type"
  | condition _ => "value_error"

/-- The message that the program's own conditions come with. -/
def message? : Rule → Option String
  | condition message => some ("Value error, " ++ message)
  | _ => none

end Rule

/-- A refused setting; an item of a list is located by the field and its index. -/
structure Issue where
  location : String
  rule : Rule
deriving DecidableEq, Repr

end JuliaBlocks
