import Typeset.Place
import Typeset.Lookahead

/-! The layout of a document on a page, by recursion. A choice is laid out flat together with all
that follows it, and stays so if that fits; otherwise it is laid out broken, from the same place.
Choices met on the way, inside the flat alternative or after it, are made in the same way.

This says what a layout is. It lays out the rest of the document twice at every choice, so a
document is rendered by `Machine`, which goes through it once. -/
namespace Typeset

/-- The lookahead from a place, with the room that is left there. None if there is no room. Its base is
the indentation of the line, or the column itself where that counts as less. -/
def Page.lookahead? (page : Page) (place : Place) : Option Lookahead :=
  Lookahead.start? page.strategy page.roomBelow (min place.lineIndent (signed place.column))
    (page.roomAt place.lineIndent place.column)

/-- Whether tokens fit at a place. -/
def Page.accepts (page : Page) (place : Place) (tokens : List Token) : Bool :=
  match page.lookahead? place with
  | some ahead => ahead.accepts tokens
  | none => false

namespace Place

/-- The layout of all that is to come at a place. -/
def layout (page : Page) (place : Place) : List Token :=
  match _found : place.next page.width.toNat with
  | .done => []
  | .token token after => token :: after.layout page
  | .choice level flat broken after =>
    let flatTokens := (after.push level flat).layout page
    if page.accepts after flatTokens then flatTokens
    else (after.push level broken).layout page
termination_by place.cost page.width.toNat
decreasing_by
  · exact cost_of_token _found
  · have := cost_of_choice _found
    omega
  · have := cost_of_choice _found
    omega

end Place

/-- The layout of a document on a page. -/
def Doc.layout (page : Page) (doc : Doc) : List Token := (Place.start doc).layout page

end Typeset
