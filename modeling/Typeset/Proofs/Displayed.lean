import Typeset.Doc.Sequence
import Typeset.Proofs.Spelling
import Typeset.Proofs.Texts
import Typeset.Proofs.WellBuilt

/-! Documents that are displayed whatever the page. Two things can go wrong between a document and the
text that it is displayed as: a piece of text with a newline, and a failure in the layout. Where the
texts go on one line and the document is well built, neither happens, and the text is spelt from the
tokens of the layout. -/
namespace Typeset

/-- A rendering went without an error and reads as these characters, its codes left out. -/
def Displays (rendering : Except Error Rendered) (shown : List Char) : Prop :=
  ∃ rendered, rendering = .ok rendered ∧ rendered.write? .bare = .ok (String.ofList shown)

theorem Displays.of_spelling {rendering : Except Error Rendered} {rendered : Rendered}
    (finished : rendering = .ok rendered) (unfailing : .fail ∉ rendered.tokens) :
    Displays rendering (spelling .bare rendered.tokens) := by
  obtain ⟨text, written, chars⟩ := Rendered.write_spelling .bare unfailing
  refine ⟨rendered, finished, ?_⟩
  rw [written, ← chars, String.ofList_toList]

namespace Doc

/-- Nothing goes wrong with a document. -/
structure Displayable (doc : Doc) : Prop where
  built : doc.WellBuilt
  oneLine : doc.Texts Literal.IsOneLine

namespace Displayable

variable {doc : Doc}

theorem displays_render (displayable : doc.Displayable) (page : Page) :
    Displays (doc.render? page) (spelling .bare (doc.render page).tokens) :=
  .of_spelling (doc.render?_eq_ok displayable.oneLine page)
    (displayable.built.unfailing_render page)

theorem displays_compact (displayable : doc.Displayable) :
    Displays doc.compact? (spelling .bare doc.compact.tokens) :=
  .of_spelling (doc.compact?_eq_ok displayable.oneLine)
    (displayable.built.unfailing_add {} List.not_mem_nil)

theorem text {content : String} (oneLine : (Literal.ofString content).IsOneLine) :
    (Doc.text content).Displayable := by
  refine ⟨.text content, ?_⟩
  unfold Doc.text
  split
  · simp [Texts, Every]
  · simpa [Texts, Every] using oneLine

theorem newline : Doc.newline.Displayable := ⟨.newline, by simp [Texts, Every]⟩

/-- A newline that is a text where everything goes on one line. -/
theorem newlineOr {content : String} (oneLine : (Literal.ofString content).IsOneLine) :
    (Doc.flatAlt .newline (.text content)).Displayable := by
  have flat := text oneLine
  refine ⟨.flatAlt .newline ?_ ?_, by simp, newline.oneLine, flat.oneLine⟩
  · unfold Doc.text
    split <;> simp [Lineless, Every]
  · unfold Doc.text
    split <;> simp [Unfailing, Every]

theorem line : Doc.line.Displayable := newlineOr (rfl : (Literal.ofString " ").IsOneLine)

theorem linebreak : Doc.linebreak.Displayable := newlineOr (rfl : (Literal.ofString "").IsOneLine)

theorem cat {left right : Doc} (displayableLeft : left.Displayable)
    (displayableRight : right.Displayable) : (left + right).Displayable :=
  ⟨.cat displayableLeft.built displayableRight.built,
    by simp, displayableLeft.oneLine, displayableRight.oneLine⟩

theorem nest (amount : Int) (displayable : doc.Displayable) : (Doc.nest amount doc).Displayable :=
  ⟨.nest amount displayable.built, by simp, displayable.oneLine⟩

theorem group (displayable : doc.Displayable) : doc.group.Displayable :=
  ⟨.group displayable.built, by simp, displayable.oneLine.flatten, displayable.oneLine⟩

theorem align (displayable : doc.Displayable) : doc.align.Displayable :=
  ⟨displayable.built.align,
    by simp, fun _ => ⟨by simp, fun _ => (displayable.nest _).oneLine⟩⟩

/-- Documents in a row, with a document between them. -/
theorem joinWith {separator : Doc} (between : separator.Displayable) {docs : List Doc}
    (each : ∀ doc ∈ docs, doc.Displayable) :
    (Doc.joinWith (fun left right => left + separator + right) docs).Displayable := by
  induction docs with
  | nil => exact ⟨.empty, by simp [Doc.joinWith, Texts, Every]⟩
  | cons first rest ih =>
    have later := ih fun doc member => each doc (List.mem_cons_of_mem _ member)
    cases rest with
    | nil => exact each first List.mem_cons_self
    | cons second rest => exact .cat (.cat (each first List.mem_cons_self) between) later

end Displayable
end Doc
end Typeset
