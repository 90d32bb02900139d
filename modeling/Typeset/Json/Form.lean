import Typeset.Json.Source
import Typeset.Options

/-! The JSON forms of colours, codes, modes and options. A choice among names is a string; it may
also be written as an object with the name as its only key. Options are an object with any of their
fields, or an array that has the fields in order and may stop early; fields that are not given have
their defaults. -/
namespace Typeset

namespace Json.Source

/-- The name that is written as a string, or as the only key of an object whose entry is null. -/
def name? : Source → Option String
  | string value => value
  | object [(key, null)] => key
  | _ => none

def word? : Source → Option UInt64
  | number numeral =>
    match numeral.value? with
    | some (.whole value) => if 0 ≤ value then some value.toNat.toUInt64 else none
    | _ => none
  | _ => none

def float? : Source → Option Float
  | number numeral =>
    numeral.value?.map fun
      | .whole value =>
        if 0 ≤ value then value.toNat.toUInt64.toFloat else -(-value).toNat.toUInt64.toFloat
      | .real value => value
  | _ => none

def bool? : Source → Option Bool
  | bool value => some value
  | _ => none

end Json.Source

open Json (Source)

def Colour.toJson (colour : Colour) : Json := .string colour.name

def Colour.ofJson? (source : Source) : Option Colour := source.name?.bind Colour.ofName?

def Effect.title (effect : Effect) : String := effect.name.capitalize

/-- The form of a code: its name, and for colours an object with the colour. -/
def Code.toJson : Code → Json
  | .colour chosen => .object [("Colour", chosen.toJson)]
  | .effect chosen => .string chosen.title
  | .reset => .string "Reset"

def Code.ofJson? : Source → Option Code
  | .object [(some "Colour", source)] => (Colour.ofJson? source).map .colour
  | source =>
    source.name?.bind fun name =>
      if name = "Reset" then some .reset
      else (Effect.all.find? fun effect => effect.title == name).map .effect

def Mode.toJson (mode : Mode) : Json := .string mode.name

def Mode.ofJson? (source : Source) : Option Mode := source.name?.bind Mode.ofName?

namespace Options

/-- A field of options. -/
inductive Field where
  | width | ribbonFraction | mode | styled
  deriving DecidableEq, Repr

namespace Field

def all : List Field := [.width, .ribbonFraction, .mode, .styled]

/-- The key of a field. -/
def key : Field → String
  | .width => "width"
  | .ribbonFraction => "ribbon_frac"
  | .mode => "mode"
  | .styled => "styled"

/-- The field with a key. -/
def ofKey? (key : String) : Option Field := all.find? fun field => field.key == key

end Field

/-- Options with one field as it is given. -/
def set? (options : Options) (source : Source) : Field → Option Options
  | .width => source.word?.map fun width => { options with width }
  | .ribbonFraction => source.float?.map fun ribbonFraction => { options with ribbonFraction }
  | .mode => (Mode.ofJson? source).map fun mode => { options with mode }
  | .styled => source.bool?.map fun styled => { options with styled }

/-- Options with fields as they are given by key. A key that is not the key of a field counts for
nothing; a field must not be given twice. -/
def setByKey? (options : Options) (given : List Field) :
    List (Option String × Source) → Option Options
  | [] => some options
  | (key, source) :: entries => do
    match Field.ofKey? (← key) with
    | none => setByKey? options given entries
    | some field =>
      if field ∈ given then none
      else setByKey? (← options.set? source field) (field :: given) entries

/-- Options with fields as they are given in order. There must be no more of them than fields. -/
def setInOrder? (options : Options) : List Field → List Source → Option Options
  | _, [] => some options
  | [], _ :: _ => none
  | field :: fields, source :: sources => do
    setInOrder? (← options.set? source field) fields sources

def ofJson? : Source → Option Options
  | .object entries => setByKey? {} [] entries
  | .array items => setInOrder? {} Field.all items
  | _ => none

def toJson (options : Options) : Json :=
  .object
    [(Field.width.key, .number (.whole options.width.toNat)),
     (Field.ribbonFraction.key, .number (.real options.ribbonFraction)),
     (Field.mode.key, options.mode.toJson),
     (Field.styled.key, .bool options.styled)]

end Options
end Typeset
