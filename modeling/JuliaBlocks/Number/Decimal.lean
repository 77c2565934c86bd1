import JuliaBlocks.Number.Binary64

/-!
Floating-point numbers read from decimal text.
-/

namespace JuliaBlocks.Decimal

/-- The longest run of ASCII digits at the front, and what follows. -/
def takeDigits : List Char → List Nat × List Char
  | [] => ([], [])
  | c :: rest =>
    match Numeral.asciiDigit? c with
    | some d => ((d :: (takeDigits rest).1), (takeDigits rest).2)
    | none => ([], c :: rest)

/-- An exponent mark with its digits, and what follows; no mark is the exponent zero. -/
def takeExponent? : List Char → Option (Int × List Char)
  | c :: rest =>
    if c = 'e' ∨ c = 'E' then
      let (negative, rest) := Numeral.takeSign rest
      match takeDigits rest with
      | ([], _) => none
      | (digits, rest) =>
        let size : Int := Numeral.ofDigits digits
        some (if negative then -size else size, rest)
    else some (0, c :: rest)
  | [] => some (0, [])

/-- Reads `digits[.digits][exponent]` or `.digits[exponent]` to the end of the text. -/
def readUnsigned? (negative : Bool) (s : List Char) : Option Binary64 :=
  let (whole, rest) := takeDigits s
  let (places, rest) := match rest with
    | '.' :: rest => takeDigits rest
    | rest => ([], rest)
  if whole.isEmpty && places.isEmpty then none
  else match takeExponent? rest with
    | some (exponent, []) =>
      some (.ofDecimal negative (Numeral.ofDigits (whole ++ places)) (exponent - places.length))
    | _ => none

/-- Reads a plain decimal: an optional sign, ASCII digits with at most one point among them and
an optional exponent, before at most one final line feed. -/
def readPlain? (s : List Char) : Option Binary64 :=
  let (negative, rest) := Numeral.takeSign (Text.dropFinalNewline s)
  readUnsigned? negative rest

/-- Drops underscores that stand between two digits; any other one spoils the text. -/
def dropGrouping? : List Char → Option (List Char)
  | [] => some []
  | '_' :: _ => none
  | [c] => some [c]
  | c :: '_' :: d :: rest =>
    if c.isDigit && d.isDigit then (dropGrouping? (d :: rest)).map (c :: ·) else none
  | c :: rest => (dropGrouping? rest).map (c :: ·)

/-- Reads any written number: white space around it, grouping underscores, and the names of
infinity and of what is no number, in either case. -/
def read? (s : List Char) : Option Binary64 :=
  let (negative, rest) := Numeral.takeSign (Text.stripWhile Text.isSpace s)
  match String.ofList (rest.map Char.toLower) with
  | "inf" | "infinity" => some (.infinity negative)
  | "nan" => some .nan
  | _ => (dropGrouping? rest).bind (readUnsigned? negative)

end JuliaBlocks.Decimal
