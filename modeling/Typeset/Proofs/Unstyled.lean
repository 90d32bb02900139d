import Typeset.Options
import Typeset.Proofs.Backtracking
import Typeset.Proofs.Compaction

/-! Styling has no part in layout: a document without its styling is laid out to the same tokens less
the style codes. The two layouts meet the same choices at the same columns, and a lookahead does not
see style codes, so that every choice is made in the same way. -/
namespace Typeset

/-- Tokens without the style codes. -/
def unformatted (tokens : List Token) : List Token := tokens.filter fun token => !token.isFormat

@[simp] theorem unformatted_nil : unformatted [] = [] := rfl

@[simp] theorem unformatted_text (piece : Literal) (rest : List Token) :
    unformatted (.text piece :: rest) = .text piece :: unformatted rest := rfl

@[simp] theorem unformatted_line (indent : Nat) (rest : List Token) :
    unformatted (.line indent :: rest) = .line indent :: unformatted rest := rfl

@[simp] theorem unformatted_format (codes : List Code) (rest : List Token) :
    unformatted (.format codes :: rest) = unformatted rest := rfl

@[simp] theorem unformatted_fail (rest : List Token) :
    unformatted (.fail :: rest) = .fail :: unformatted rest := rfl

namespace Lookahead

/-- A lookahead comes to the same end with and without the style codes. -/
theorem seeAll_unformatted (ahead : Lookahead) (tokens : List Token) :
    ahead.seeAll (unformatted tokens) = ahead.seeAll tokens := by
  induction tokens generalizing ahead with
  | nil => rfl
  | cons token rest ih =>
    cases token with
    | format codes =>
      rw [unformatted_format, ih]
      rfl
    | text piece =>
      simp only [unformatted_text, seeAll]
      cases ahead.see (.text piece) <;> simp [ih]
    | line indent =>
      simp only [unformatted_line, seeAll]
      cases ahead.see (.line indent) <;> simp [ih]
    | fail => rfl

end Lookahead

/-- Tokens fit at a point exactly if they fit without their style codes at an aligned one. -/
theorem Page.fits_unformatted (page : Page) {cursor other : Cursor} (aligned : cursor.Aligned other)
    (tokens : List Token) : page.fits other (unformatted tokens) = page.fits cursor tokens := by
  simp only [fits, Lookahead.accepts, Lookahead.seeAll_unformatted, page.room_aligned aligned,
    page.lookahead_aligned aligned]

namespace Doc

/-- If what comes after a document loses no more than style codes, neither does the document. -/
theorem layoutThen_plain (page : Page) (doc : Doc) (level : Int64)
    {rest plainRest : Cursor → List Token}
    (same : ∀ cursor other : Cursor, cursor.Aligned other →
      plainRest other = unformatted (rest cursor))
    (cursor other : Cursor) (aligned : cursor.Aligned other) :
    doc.plain.layoutThen page level plainRest other =
      unformatted (doc.layoutThen page level rest cursor) := by
  induction doc generalizing level rest plainRest cursor other with
  | fail => simp [layoutThen]
  | empty => simpa [layoutThen] using same cursor other aligned
  | literal piece =>
    simpa [layoutThen, Token.andThen] using same _ _ (aligned.read (.text piece))
  | newline =>
    simpa [layoutThen, Token.andThen] using same _ _ (aligned.read (.line level.toNatClampNeg))
  | flatAlt broken flat ihBroken ihFlat =>
    simpa [layoutThen] using ihBroken level same cursor other aligned
  | cat left right ihLeft ihRight =>
    simpa [layoutThen] using ihLeft level
      (fun cursor other aligned => ihRight level same cursor other aligned) cursor other aligned
  | nest amount body ih => simpa [layoutThen] using ih (level + .ofInt amount) same cursor other aligned
  | union flat broken ihFlat ihBroken =>
    simp only [plain_union, layoutThen, ihFlat level same cursor other aligned,
      ihBroken level same cursor other aligned, page.fits_unformatted aligned]
    split <;> rfl
  | column body ih =>
    simpa [layoutThen, aligned.2] using ih other.column level same cursor other aligned
  | columns body ih =>
    simpa [layoutThen] using ih (some page.width.toNat) level same cursor other aligned
  | nesting body ih => simpa [layoutThen] using ih level.toInt level same cursor other aligned
  | styled change body ih =>
    rw [plain_styled, layoutThen, Token.andThen, unformatted_format]
    refine ih level (fun stop other aligned => ?_) _ _ aligned
    rw [Token.andThen, unformatted_format]
    exact same _ _ aligned
  | restore style =>
    rw [plain_restore, layoutThen, layoutThen, Token.andThen, unformatted_format]
    exact same _ _ aligned

end Doc

namespace Compaction

/-- Nothing in a compact rendering depends on the styling. -/
theorem add_plain (state : Compaction) (doc : Doc) : state.add doc.plain = state.add doc := by
  induction doc generalizing state with
  | fail | empty | literal piece | newline | restore style => simp
  | flatAlt broken flat ihBroken ihFlat => simp [ihBroken]
  | cat left right ihLeft ihRight => simp [ihLeft, ihRight]
  | nest amount body ih => simp [ih]
  | union flat broken ihFlat ihBroken => simp [ihBroken]
  | column body ih => simp [ih]
  | columns body ih => simp [ih]
  | nesting body ih => simp [ih]
  | styled change body ih => simp [ih]

end Compaction

private theorem unformatted_append (first second : List Token) :
    unformatted (first ++ second) = unformatted first ++ unformatted second := by
  simp [unformatted]

/-- A compact rendering has no style codes. -/
theorem unformatted_compact (doc : Doc) : unformatted doc.compact.tokens = doc.compact.tokens := by
  refine Compaction.add_invariant (P := fun state =>
    unformatted state.tokens.toList = state.tokens.toList) {} ?_ ?_ ?_ doc rfl
  · intro state _ kept
    simp [unformatted_append, kept]
  · intro state piece _ kept
    simp [unformatted_append, kept]
  · intro state _ kept
    simp [unformatted_append, kept]

theorem Doc.tokens_render_plain (page : Page) (doc : Doc) :
    (doc.plain.render page).tokens = unformatted (doc.render page).tokens := by
  rw [Doc.tokens_render, Doc.tokens_render]
  exact Doc.layoutThen_plain page doc 0 (fun _ _ _ => unformatted_nil.symm) {} {} ⟨rfl, rfl⟩

theorem Doc.compact_plain (doc : Doc) : doc.plain.compact = doc.compact := by
  rw [Doc.compact, Doc.compact, Compaction.add_plain]

/-- Options that drop the styling give what the same options give with it, less the style codes. -/
theorem Options.tokens_render_unstyled (options : Options) (doc : Doc) :
    ({ options with styled := false }.render doc).tokens =
      unformatted ({ options with styled := true }.render doc).tokens := by
  obtain ⟨width, ribbonFraction, mode, styled⟩ := options
  cases mode with
  | pretty => exact doc.tokens_render_plain _
  | smart => exact doc.tokens_render_plain _
  | compact =>
    change doc.plain.compact.tokens = unformatted doc.compact.tokens
    rw [doc.compact_plain, unformatted_compact]

/-- Styling never influences layout. On every page, a document without its styling is rendered to the
tokens of the document less the style codes, and its compact rendering is the same; so options that
drop the styling give what the same options give with it, less the style codes. -/
theorem styling_never_influences_layout (doc : Doc) :
    (∀ page : Page, (doc.plain.render page).tokens = unformatted (doc.render page).tokens) ∧
    doc.plain.compact = doc.compact ∧
    ∀ options : Options, ({ options with styled := false }.render doc).tokens =
      unformatted ({ options with styled := true }.render doc).tokens := by
  exact ⟨fun page => doc.tokens_render_plain page, doc.compact_plain,
    fun options => options.tokens_render_unstyled doc⟩

end Typeset
