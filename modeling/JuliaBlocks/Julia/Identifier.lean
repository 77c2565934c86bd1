import JuliaBlocks.Text.Line

/-!
Julia identifiers, as far as variables may be named by them: an ASCII letter or underscore, then
ASCII letters, digits, underscores and exclamation marks, and no reserved word.
-/

namespace JuliaBlocks.Julia

/-- The words that cannot be assigned to. -/
def reservedWords : List String :=
  ["baremodule", "begin", "break", "catch", "const", "continue", "do", "else", "elseif", "end",
    "export", "false", "finally", "for", "function", "global", "if", "import", "let", "local",
    "macro", "module", "quote", "return", "struct", "true", "try", "using", "while"]

def isIdentifierStart (c : Char) : Bool :=
  c.isAlpha || c == '_'

def isIdentifierRest (c : Char) : Bool :=
  c.isAlphanum || c == '_' || c == '!'

def hasIdentifierForm : List Char → Bool
  | [] => false
  | c :: rest => isIdentifierStart c && rest.all isIdentifierRest

/-- Whether a variable may have this name. One line feed may follow the identifier; reserved
words are refused only as the whole name. -/
def isIdentifier (name : String) : Bool :=
  hasIdentifierForm (Text.dropFinalNewline name.toList) && !reservedWords.contains name

end JuliaBlocks.Julia
