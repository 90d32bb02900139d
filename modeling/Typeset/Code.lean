import Typeset.Style

/-! Style codes: the instructions that a medium understands. A code either resets everything or
sets one part of the style; no code turns off a single effect. `Style.read` says what a medium
makes of a code. The main statements are that the codes of a style, and those for a change of it,
leave a medium in exactly the style they stand for. -/
namespace Typeset

inductive Code where
  | colour (colour : Colour)
  | effect (effect : Effect)
  /-- Turn everything off, the colour included. -/
  | reset
  deriving DecidableEq, Repr

/-- The code that makes a change, if there is one: turning something off has none. -/
def Change.code? : Change → Option Code
  | .colour chosen => chosen.map .colour
  | .turn effect true => some (.effect effect)
  | .turn _ false => none

namespace Style

/-- The codes that establish a style, whatever was in effect before: a reset, the colour, and every
effect that is on. -/
def codes (style : Style) : List Code :=
  .reset :: ((style.colour.map Code.colour).toList ++
    (Effect.all.filter style.has).map Code.effect)

/-- The codes that make a change while a style is in effect. What no code can turn off is turned
off by a reset, after which the rest of the style is established again. -/
def codesFor (style : Style) (change : Change) : List Code :=
  match change.code? with
  | some code => [code]
  | none => (style.apply change).codes

/-- What is in effect in a medium after it has read one code. -/
def read (style : Style) : Code → Style
  | .colour colour => { style with colour := some colour }
  | .effect effect => style.turn effect true
  | .reset => plain

/-- What is in effect in a medium after it has read codes in turn. -/
def readAll (style : Style) (run : List Code) : Style := run.foldl read style

@[simp] theorem readAll_nil (style : Style) : style.readAll [] = style := rfl

@[simp] theorem readAll_cons (style : Style) (code : Code) (codes : List Code) :
    style.readAll (code :: codes) = (style.read code).readAll codes := rfl

/-- The codes of a style lead to it from any style. -/
@[simp] theorem readAll_codes (before style : Style) :
    before.readAll style.codes = style := by
  obtain ⟨colour, bold, strikethrough, underline, italic, obfuscated⟩ := style
  cases colour <;> cases bold <;> cases strikethrough <;> cases underline <;> cases italic <;>
    cases obfuscated <;> rfl

/-- The codes for a change lead to the changed style. -/
@[simp] theorem readAll_codesFor (style : Style) (change : Change) :
    style.readAll (style.codesFor change) = style.apply change := by
  cases change with
  | colour colour =>
    cases colour with
    | none => simp [codesFor, Change.code?]
    | some colour => rfl
  | turn effect on =>
    cases on with
    | false => simp [codesFor, Change.code?]
    | true => rfl

end Style
end Typeset
