import Typeset.Json.Value

/-! The pieces that a JSON text is made of: punctuation, words, strings and numbers. Blanks between
them count for nothing. -/
namespace Typeset.Json

/-- A piece of a JSON text. -/
inductive Lexeme where
  /-- One of the characters that give a text its structure. -/
  | mark (c : Char)
  | null
  | bool (value : Bool)
  | number (numeral : Numeral)
  /-- A string; none if half of a surrogate pair in it lacks the other half. -/
  | string (value : Option String)
  deriving DecidableEq

/-- A piece of a string: a character, or a 16-bit unit that is given by its number. -/
inductive Piece where
  | char (c : Char)
  | unit (value : Nat)
  deriving DecidableEq

/-- Whether a unit is the first half of a pair. -/
def isHighSurrogate (unit : Nat) : Bool := 0xD800 ≤ unit && unit < 0xDC00

/-- Whether a unit is the second half of a pair. -/
def isLowSurrogate (unit : Nat) : Bool := 0xDC00 ≤ unit && unit < 0xE000

/-- The characters that pieces stand for; none if half a pair stands alone. -/
def characters? : List Piece → Option (List Char)
  | [] => some []
  | .char c :: rest => (characters? rest).map (c :: ·)
  | .unit high :: .unit low :: rest =>
    if isHighSurrogate high then
      if isLowSurrogate low then
        (characters? rest).map
          (Char.ofNat (0x10000 + (high - 0xD800) * 0x400 + (low - 0xDC00)) :: ·)
      else none
    else if isLowSurrogate high then none
    else (characters? (.unit low :: rest)).map (Char.ofNat high :: ·)
  | .unit value :: rest =>
    if isHighSurrogate value || isLowSurrogate value then none
    else (characters? rest).map (Char.ofNat value :: ·)

/-- The value of a digit in a base up to sixteen. -/
def digitValue? (base : Nat) (c : Char) : Option Nat :=
  let value :=
    if '0' ≤ c && c ≤ '9' then c.toNat - '0'.toNat
    else if 'a' ≤ c && c ≤ 'f' then c.toNat - 'a'.toNat + 10
    else if 'A' ≤ c && c ≤ 'F' then c.toNat - 'A'.toNat + 10
    else 16
  if value < base then some value else none

/-- The 16-bit unit that four hexadecimal digits give. -/
def unit? (digits : List Char) : Option Nat :=
  (digits.mapM (digitValue? 16)).map fun values => values.foldl (fun unit digit => 16 * unit + digit) 0

/-- The character that a backslash and a letter stand for. -/
def escaped? : Char → Option Char
  | '"' => some '"'
  | '\\' => some '\\'
  | '/' => some '/'
  | 'b' => some '\x08'
  | 'f' => some '\x0c'
  | 'n' => some '\n'
  | 'r' => some '\r'
  | 't' => some '\t'
  | _ => none

/-- A piece put before the pieces that were read, and what is left of the text. -/
def withPiece (piece : Piece) (read : Option (List Piece × List Char)) :
    Option (List Piece × List Char) :=
  read.map fun (pieces, rest) => (piece :: pieces, rest)

/-- The pieces of a string up to its closing quote, and the text after the quote. -/
def stringBody? : List Char → Option (List Piece × List Char)
  | [] => none
  | '"' :: rest => some ([], rest)
  | '\\' :: 'u' :: a :: b :: c :: d :: rest =>
    match unit? [a, b, c, d] with
    | some unit => withPiece (.unit unit) (stringBody? rest)
    | none => none
  | '\\' :: letter :: rest =>
    match escaped? letter with
    | some c => withPiece (.char c) (stringBody? rest)
    | none => none
  | c :: rest => if c.toNat < 0x20 || c = '\\' then none else withPiece (.char c) (stringBody? rest)

/-- The digits in front of a text, and the text after them. -/
def digits (text : List Char) : List Nat × List Char :=
  ((text.takeWhile Char.isDigit).map fun c => c.toNat - '0'.toNat, text.dropWhile Char.isDigit)

/-- A whole number from its decimal digits. -/
def wholeOfDigits (digits : List Nat) : Nat := digits.foldl (fun value digit => 10 * value + digit) 0

/-- The fraction part in front of a text: a point and at least one digit, or nothing. -/
def fraction? : List Char → Option (List Nat × List Char)
  | '.' :: text =>
    let (fraction, rest) := digits text
    if fraction.isEmpty then none else some (fraction, rest)
  | text => some ([], text)

/-- The exponent part in front of a text: an E, a sign or none, and at least one digit; or
nothing. -/
def exponent? : List Char → Option (Option Int × List Char)
  | [] => some (none, [])
  | c :: text =>
    if c = 'e' || c = 'E' then
      let (negative, text) := match text with
        | '+' :: text => (false, text)
        | '-' :: text => (true, text)
        | text => (false, text)
      let (exponent, rest) := digits text
      if exponent.isEmpty then none
      else
        let value : Int := wholeOfDigits exponent
        some (some (if negative then -value else value), rest)
    else some (none, c :: text)

/-- The number in front of a text. A zero may not be followed by more digits before the point. -/
def numeral? (text : List Char) : Option (Numeral × List Char) := do
  let (negative, text) := match text with
    | '-' :: text => (true, text)
    | text => (false, text)
  let (whole, text) := digits text
  if whole.isEmpty || (whole.length > 1 && whole.head? = some 0) then none
  let (fraction, text) ← fraction? text
  let (exponent, rest) ← exponent? text
  return ({ negative, whole, fraction, exponent }, rest)

/-- The word in front of a text, if it is one of the three. -/
def word? (text : List Char) : Option (Lexeme × List Char) :=
  let rest := text.dropWhile Char.isLower
  match String.ofList (text.takeWhile Char.isLower) with
  | "null" => some (.null, rest)
  | "true" => some (.bool true, rest)
  | "false" => some (.bool false, rest)
  | _ => none

/-- The blanks of JSON. -/
def isBlank (c : Char) : Bool := c = ' ' || c = '\n' || c = '\t' || c = '\r'

/-- The characters that give a text its structure. -/
def isMark (c : Char) : Bool :=
  c = '[' || c = ']' || c = '\x7b' || c = '\x7d' || c = ',' || c = ':'

/-- The piece in front of a text that starts with a given character, if it is no blank, and the
text after it. -/
def lexeme? (c : Char) (text : List Char) : Option (Lexeme × List Char) :=
  if isMark c then some (.mark c, text)
  else if c = '"' then
    (stringBody? text).map fun (pieces, rest) =>
      (.string ((characters? pieces).map String.ofList), rest)
  else if c = '-' || c.isDigit then
    (numeral? (c :: text)).map fun (numeral, rest) => (.number numeral, rest)
  else word? (c :: text)

/-- The pieces of a text. Every piece takes at least one character, so that there are no more pieces
than the limit, the length of the text. -/
def lexemesWithin? : Nat → List Char → Option (List Lexeme)
  | _, [] => some []
  | 0, _ :: _ => none
  | limit + 1, c :: text =>
    if isBlank c then lexemesWithin? limit text
    else do
      let (lexeme, rest) ← lexeme? c text
      let lexemes ← lexemesWithin? limit rest
      return lexeme :: lexemes

/-- The pieces of a text. -/
def lexemes? (text : List Char) : Option (List Lexeme) := lexemesWithin? text.length text

end Typeset.Json
