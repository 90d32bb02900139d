import Typeset.Options
import Typeset.Escape
import Typeset.Json.Lexeme

/-! The arguments of the command line. Four options have a value, which stands in the next argument
or in the same one; one other argument may name a file. An argument that starts with a hyphen is
never taken for the value of the option before it. -/
namespace Typeset.Inspect

/-- How styles are written. -/
inductive Codes where
  | ansi | sectionSign | bare
  deriving DecidableEq, Repr

def Codes.escape : Codes → Escape
  | .ansi => .ansi
  | .sectionSign => .sectionSign
  | .bare => .bare

/-- The way of writing styles that has exactly this name. -/
def Codes.ofName? : String → Option Codes
  | "ansi" => some .ansi
  | "minecraft" => some .sectionSign
  | "none" => some .bare
  | _ => none

structure Arguments where
  /-- The file to read; none stands for the standard input. -/
  file : Option String := none
  width : UInt64 := 80
  ribbon : Float := 1.0
  mode : Mode := .pretty
  codes : Codes := .ansi

namespace Arguments

/-- An option that has a value. -/
inductive Flag where
  | width | ribbon | mode | codes
  deriving DecidableEq, Repr

def Flag.all : List Flag := [.width, .ribbon, .mode, .codes]

def Flag.name : Flag → List Char
  | .width => ['w', 'i', 'd', 't', 'h']
  | .ribbon => ['r', 'i', 'b', 'b', 'o', 'n']
  | .mode => ['m', 'o', 'd', 'e']
  | .codes => ['c', 'o', 'd', 'e', 's']

/-- The option with a long name. -/
def Flag.ofName? (name : List Char) : Option Flag := Flag.all.find? fun flag => flag.name = name

/-- The option with a letter, which is the first of its name. -/
def Flag.ofLetter? (letter : Char) : Option Flag :=
  Flag.all.find? fun flag => flag.name.head? = some letter

/-- One argument, or an option together with the argument that is its value. -/
inductive Item where
  | option (flag : Flag) (value : List Char)
  | file (name : List Char)

/-- What an argument is when no value is expected. -/
inductive Reading where
  | complete (flag : Flag) (value : List Char)
  /-- An option whose value is the next argument. -/
  | waiting (flag : Flag)
  | file (name : List Char)
  /-- From here on every argument names a file. -/
  | filesOnly
  | unknown

/-- A value that stands after a letter, with or without an equals sign. -/
def attached : List Char → List Char
  | '=' :: value => value
  | value => value

def reading : List Char → Reading
  | ['-', '-'] => .filesOnly
  | '-' :: '-' :: text =>
    match Flag.ofName? (text.takeWhile (· != '=')), text.dropWhile (· != '=') with
    | some flag, _ :: value => .complete flag value
    | some flag, [] => .waiting flag
    | none, _ => .unknown
  | ['-', letter] =>
    match Flag.ofLetter? letter with
    | some flag => .waiting flag
    | none => .unknown
  | '-' :: letter :: value =>
    match Flag.ofLetter? letter with
    | some flag => .complete flag (attached value)
    | none => .unknown
  | name => .file name

/-- Whether an argument may be the value of the option before it. -/
def isValue : List Char → Bool
  | ['-'] => true
  | '-' :: _ => false
  | _ => true

/-- The items of the arguments; none if one of them is unknown or a value is missing. -/
def items? : List (List Char) → Option (List Item)
  | [] => some []
  | [argument] =>
    match reading argument with
    | .complete flag value => some [.option flag value]
    | .file name => some [.file name]
    | .filesOnly => some []
    | .waiting _ | .unknown => none
  | argument :: next :: rest =>
    match reading argument with
    | .complete flag value => (items? (next :: rest)).map (.option flag value :: ·)
    | .waiting flag =>
      if isValue next then (items? rest).map (.option flag next :: ·) else none
    | .file name => (items? (next :: rest)).map (.file name :: ·)
    | .filesOnly => some ((next :: rest).map .file)
    | .unknown => none

/-- A whole number below 2^64, in digits with or without a plus sign. -/
def word? (text : List Char) : Option UInt64 :=
  let text := match text with
    | '+' :: text => text
    | text => text
  if text.isEmpty || !text.all Char.isDigit then none
  else
    let value := Json.wholeOfDigits (Json.digits text).1
    if value < UInt64.size then some value.toUInt64 else none

/-- A decimal with digits before or after its point, and an exponent if it has one. -/
def decimal? (text : List Char) : Option Float := do
  let (whole, text) := Json.digits text
  let (fraction, text) := match text with
    | '.' :: text => Json.digits text
    | text => ([], text)
  if whole.isEmpty && fraction.isEmpty then none
  let (exponent, rest) ← Json.exponent? text
  if !rest.isEmpty then none
  let decimal : Decimal :=
    { digits := Json.wholeOfDigits (whole ++ fraction)
      exponent := exponent.getD 0 - fraction.length }
  return decimal.toFloat

/-- A floating-point number: a sign or none, and then a decimal, an infinity or no number. -/
def float? (text : List Char) : Option Float :=
  let (negative, text) := match text with
    | '-' :: text => (true, text)
    | '+' :: text => (false, text)
    | text => (false, text)
  let magnitude :=
    match String.ofList (text.map Char.toLower) with
    | "inf" | "infinity" => some (1.0 / 0.0)
    | "nan" => some (0.0 / 0.0)
    | _ => decimal? text
  magnitude.map fun magnitude => if negative then -magnitude else magnitude

/-- The arguments with the value of one option; none if there is no such value. -/
def set? (arguments : Arguments) (flag : Flag) (value : List Char) : Option Arguments :=
  match flag with
  | .width => (word? value).map fun width => { arguments with width }
  | .ribbon => (float? value).map fun ribbon => { arguments with ribbon }
  | .mode =>
    match Mode.parse (String.ofList value) with
    | .ok mode => some { arguments with mode }
    | .error _ => none
  | .codes => (Codes.ofName? (String.ofList value)).map fun codes => { arguments with codes }

/-- The arguments after items; none if an option comes twice, a value is wrong, a file has no name,
or there is a second file. -/
def ofItems? (arguments : Arguments) (given : List Flag) : List Item → Option Arguments
  | [] => some arguments
  | .option flag value :: items => do
    if flag ∈ given then none
    else ofItems? (← arguments.set? flag value) (flag :: given) items
  | .file name :: items =>
    if name.isEmpty || arguments.file.isSome then none
    else ofItems? { arguments with file := some (String.ofList name) } given items

/-- What the arguments of the command line ask for; none if they are not well formed. -/
def parse? (arguments : List String) : Option Arguments :=
  (items? (arguments.map String.toList)).bind (ofItems? {} [])

end Arguments
end Typeset.Inspect
