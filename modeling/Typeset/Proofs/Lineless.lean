import Typeset.Proofs.Fit
import Typeset.Proofs.Flatness

/-! Documents without newlines, among them the flat sides of groups. Such a document adds nothing but
text and codes to the line on which it stands, so that a failure in it is met before the line ends, and
both strategies look at the same line only. -/
namespace Typeset

/-- Tokens that stay on the line on which they begin. -/
def Unbroken (tokens : List Token) : Prop := ∀ token ∈ tokens, token.isLine = false

theorem Unbroken.cons {token : Token} {rest : List Token} (notLine : token.isLine = false)
    (unbroken : Unbroken rest) : Unbroken (token :: rest) := by
  intro other member
  rcases List.mem_cons.mp member with rfl | later
  · exact notLine
  · exact unbroken other later

theorem Unbroken.notLine {tokens : List Token} (unbroken : Unbroken tokens) :
    ∀ token ∈ tokens, (!token.isLine) = true := by
  intro token member
  rw [unbroken token member]
  rfl

/-- The line of tokens that stay on it is all of them. -/
theorem Unbroken.firstLine_eq {tokens : List Token} (unbroken : Unbroken tokens) :
    firstLine tokens = tokens := by
  have all := @List.takeWhile_append_of_pos _ _ tokens [] unbroken.notLine
  rwa [List.takeWhile_nil, List.append_nil] at all

theorem Unbroken.fromNewline_eq {tokens : List Token} (unbroken : Unbroken tokens) :
    fromNewline tokens = [] := by
  have none := @List.dropWhile_append_of_pos _ _ tokens [] unbroken.notLine
  rwa [List.dropWhile_nil, List.append_nil] at none

/-- Tokens that stay on their line fit if it has room for them, whatever the strategy. -/
theorem Page.fits_unbroken_iff (page : Page) (cursor : Cursor) {tokens : List Token}
    (unbroken : Unbroken tokens) :
    page.fits cursor tokens = true ↔ LineFits (page.room cursor) tokens := by
  simp [fits_iff_lines, NextLineFits, unbroken.fromNewline_eq]

/-- If tokens hold a failure at all, there is one before the next newline. -/
def FailsEarly (tokens : List Token) : Prop := .fail ∈ tokens → .fail ∈ firstLine tokens

theorem fail_mem_firstLine_cons {token : Token} {rest : List Token} (notLine : token.isLine = false)
    (fails : .fail ∈ firstLine rest) : .fail ∈ firstLine (token :: rest) := by
  rw [firstLine, List.takeWhile_cons_of_pos (by simp [notLine])]
  exact List.mem_cons_of_mem _ fails

theorem FailsEarly.cons {token : Token} {rest : List Token} (notLine : token.isLine = false)
    (early : FailsEarly rest) : FailsEarly (token :: rest) := by
  intro fails
  rcases List.mem_cons.mp fails with rfl | later
  · exact List.mem_cons_self
  · exact fail_mem_firstLine_cons notLine (early later)

/-- Tokens that fail early hold no failure where the rest of the line fits. -/
theorem LineFits.unfailing {room : Int} {tokens : List Token} (fits : LineFits room tokens)
    (early : FailsEarly tokens) : .fail ∉ tokens :=
  fun fails => fits.1 (early fails)

namespace Doc

/-- There is no newline in a document, nor in what its functions give. -/
def Lineless (doc : Doc) : Prop := doc.Every fun node => node ≠ .newline

theorem lineless_iff {doc : Doc} : doc.Lineless ↔ doc.Without [.newline] := by
  have sameNode (node : Doc) : node ≠ .newline ↔ node.kind ∉ [Kind.newline] := by
    cases node <;> simp [kind]
  constructor
  · intro lineless
    exact Every.mono lineless fun node => (sameNode node).mp
  · intro without
    exact Every.mono without fun node => (sameNode node).mpr

theorem Lineless.flatten {doc : Doc} (lineless : doc.Lineless) : doc.flatten.Lineless :=
  lineless_iff.mpr ((lineless_iff.mp lineless).flatten (by decide))

/-- Where the flat sides of a document have no newline, the flat document has none. -/
theorem FlatSidesWithout.lineless_flatten {kinds : List Kind} {doc : Doc}
    (flatSides : doc.FlatSidesWithout kinds) (newline : .newline ∈ kinds)
    (included : ∀ kind ∈ kinds, kind ∈ Kind.replaced) : doc.flatten.Lineless :=
  lineless_iff.mpr ((flatSides.flatten included).mono (by simpa using newline))

/-- What is so of a failure, and stays so with a token more that is no newline, is so of the layout of a
document without newlines if it is so of all that may come after it. -/
theorem Lineless.layoutThen_of_rest {P : List Token → Prop} {doc : Doc} (lineless : doc.Lineless)
    (page : Page) (level : Int64) {rest : Cursor → List Token} (failed : P [.fail])
    (more : ∀ {token : Token} {tokens : List Token}, token.isLine = false → P tokens →
      P (token :: tokens))
    (after : ∀ cursor, P (rest cursor)) (cursor : Cursor) :
    P (doc.layoutThen page level rest cursor) := by
  induction doc generalizing level rest cursor with
  | fail => exact failed
  | empty => exact after cursor
  | literal piece => exact more rfl (after _)
  | newline => exact absurd rfl lineless
  | flatAlt broken flat ihBroken ihFlat => exact ihBroken lineless.2.1 level after cursor
  | cat left right ihLeft ihRight =>
    exact ihLeft lineless.2.1 level (ihRight lineless.2.2 level after) cursor
  | nest amount body ih => exact ih lineless.2 (level + .ofInt amount) after cursor
  | union flat broken ihFlat ihBroken =>
    rw [layoutThen]
    split
    · exact ihFlat lineless.2.1 level after cursor
    · exact ihBroken lineless.2.2 level after cursor
  | column body ih => exact ih _ (lineless.2 _) level after cursor
  | columns body ih => exact ih _ (lineless.2 _) level after cursor
  | nesting body ih => exact ih _ (lineless.2 _) level after cursor
  | styled change body ih =>
    refine more rfl (ih lineless.2 level ?_ _)
    intro stop
    exact more rfl (after _)
  | restore style => exact more rfl (after _)

/-- A document without newlines fails early, if all that may come after it does. -/
theorem Lineless.failsEarly_layoutThen {doc : Doc} (lineless : doc.Lineless) (page : Page)
    (level : Int64) {rest : Cursor → List Token} (after : ∀ cursor, FailsEarly (rest cursor))
    (cursor : Cursor) : FailsEarly (doc.layoutThen page level rest cursor) :=
  lineless.layoutThen_of_rest page level (fun fails => fails) FailsEarly.cons after cursor

/-- A document without newlines stays on its line, if all that may come after it does. -/
theorem Lineless.unbroken_layoutThen {doc : Doc} (lineless : doc.Lineless) (page : Page)
    (level : Int64) {rest : Cursor → List Token} (after : ∀ cursor, Unbroken (rest cursor))
    (cursor : Cursor) : Unbroken (doc.layoutThen page level rest cursor) := by
  have failed : Unbroken [.fail] := Unbroken.cons rfl fun _ none => absurd none List.not_mem_nil
  exact lineless.layoutThen_of_rest page level failed Unbroken.cons after cursor

end Doc
end Typeset
