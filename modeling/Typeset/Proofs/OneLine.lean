import Typeset.Proofs.Contexts
import Typeset.Proofs.Lineless

/-! Flattening puts a document on one line, once and for all. If the flat sides of alternatives hold
nothing that flattening would replace, the flat document holds nothing of the kind either: it has no
newline on any page, nothing is left to be chosen in it, and to flatten it again, on its own or inside
another group, changes nothing. -/
namespace Typeset

namespace Doc

/-- Without choices, and without a question for the width, a document is laid out alike on all pages. -/
theorem layoutThen_page {doc : Doc} (choiceless : doc.Without [.union])
    (pageless : doc.Without [.columns]) (page other : Page) :
    doc.layoutThen page = doc.layoutThen other := by
  induction doc with
  | fail | empty | literal piece | newline | restore style =>
    funext level rest cursor
    rfl
  | flatAlt broken flat ihBroken ihFlat =>
    have same := ihBroken choiceless.2.1 pageless.2.1
    funext level
    exact congrFun same level
  | cat left right ihLeft ihRight =>
    have sameLeft := ihLeft choiceless.2.1 pageless.2.1
    have sameRight := ihRight choiceless.2.2 pageless.2.2
    funext level rest
    simp only [layoutThen, sameLeft, sameRight]
  | nest amount body ih =>
    have same := ih choiceless.2 pageless.2
    funext level
    exact congrFun same (level + .ofInt amount)
  | union flat broken ihFlat ihBroken =>
    exact absurd List.mem_cons_self choiceless.1
  | column body ih =>
    funext level rest cursor
    have same := ih cursor.column (choiceless.2 _) (pageless.2 _)
    exact congrFun (congrFun (congrFun same level) rest) cursor
  | columns body ih => exact absurd List.mem_cons_self pageless.1
  | nesting body ih =>
    funext level
    have same := ih level.toInt (choiceless.2 _) (pageless.2 _)
    exact congrFun same level
  | styled change body ih =>
    have same := ih choiceless.2 pageless.2
    funext level rest
    simp only [layoutThen, same]

theorem Lineless.unbroken_render {doc : Doc} (lineless : doc.Lineless) (page : Page) :
    Unbroken (doc.render page).tokens := by
  rw [tokens_render]
  exact lineless.unbroken_layoutThen page 0 (fun _ _ none => absurd none List.not_mem_nil) {}

/-- A group that flattening leaves as it leaves what is in it may as well stand in a group of its own:
the outer choice has the same flat document as the inner one. -/
theorem interchangeable_group_group {doc : Doc} (idempotent : doc.flatten.flatten = doc.flatten) :
    doc.group.group.Interchangeable doc.group := by
  have inner : doc.group.flatten = doc.flatten := (flatten_union ..).trans idempotent
  have outer : doc.group.group.flatten = doc.group.flatten := by
    rw [group, flatten_union, inner, idempotent]
  refine ⟨outer, fun page => ?_⟩
  funext level rest cursor
  simp only [group, layoutThen, flatten_union, idempotent]
  split <;> rfl

end Doc

/-- Flattening is sound and idempotent. Let the flat sides of the alternatives in a document hold no
newline, no alternative and no choice. Then the flat document holds none, also in what its functions
give; it is rendered without a newline, and on all pages alike if it does not ask for the width; it is
its own flat document and that of the group; and a group in a group is rendered as the group is,
whatever stands around it. -/
theorem flattening_is_sound_and_idempotent (doc : Doc)
    (flatSides : doc.FlatSidesWithout [.newline, .flatAlt, .union]) :
    doc.flatten.Without [.newline, .flatAlt, .union] ∧
    (∀ page indent, .line indent ∉ (doc.flatten.render page).tokens) ∧
    (doc.Without [.columns] → ∀ page other,
      (doc.flatten.render page).tokens = (doc.flatten.render other).tokens) ∧
    doc.flatten.flatten = doc.flatten ∧ doc.group.flatten = doc.flatten ∧
    ∀ (context : Doc.Context) (page : Page),
      ((context.fill doc.group.group).render page).tokens =
        ((context.fill doc.group).render page).tokens := by
  have flat : doc.flatten.Without Doc.Kind.replaced := flatSides.flatten fun _ member => member
  have idempotent : doc.flatten.flatten = doc.flatten := Doc.flatten_eq_self flat
  refine ⟨flat, ?_, ?_, idempotent, (Doc.flatten_union ..).trans idempotent, ?_⟩
  · intro page indent isToken
    have lineless : doc.flatten.Lineless := flatSides.lineless_flatten (by decide) fun _ mem => mem
    exact absurd (lineless.unbroken_render page _ isToken) (by simp [Token.isLine])
  · intro pageless page other
    have choiceless : doc.flatten.Without [.union] := flat.mono (by decide)
    rw [Doc.tokens_render, Doc.tokens_render,
      Doc.layoutThen_page choiceless (pageless.flatten (by decide)) page other]
  · intro context page
    exact ((Doc.interchangeable_group_group idempotent).fill context).render page

/-- A title in italics, with a space of its own making where the line may break, and a choice of which
the flat side would break too. -/
def title : Doc :=
  .styled (.turn .italic true) (.column fun start => .cat (.literal (.ofString "on"))
    (.cat (.flatAlt .newline (.nesting fun _ => .literal (.ofString " ")))
      (.union (.cat (.literal (.ofString "line")) .newline) (.nest start .newline))))

/-- On one line the title fails where its choice would break, on a page for it as on one too narrow; and
below a line of its own it need not be grouped twice. -/
theorem title_is_flattened_once :
    title.FlatSidesWithout [.newline, .flatAlt, .union] ∧
      title.flatten.Without [.newline, .flatAlt, .union] ∧
      title.Without [.columns] ∧
      (title.flatten.render ⟨3, 3, .smart⟩).tokens = (title.flatten.render ⟨80, 60, .pretty⟩).tokens ∧
      title.group.flatten = title.flatten ∧
      (((Doc.Context.group (.catRight .newline .hole)).fill title.group.group).render
          ⟨3, 3, .smart⟩).tokens =
        (((Doc.Context.group (.catRight .newline .hole)).fill title.group).render
          ⟨3, 3, .smart⟩).tokens := by
  have flatSides : title.FlatSidesWithout [.newline, .flatAlt, .union] := by
    simp [title, Doc.FlatSidesWithout, Doc.Without, Doc.Every, Doc.kind]
  have pageless : title.Without [.columns] := by
    simp [title, Doc.Without, Doc.Every, Doc.kind]
  obtain ⟨flat, _, alike, _, grouped, regrouped⟩ := flattening_is_sound_and_idempotent title flatSides
  exact ⟨flatSides, flat, pageless, alike pageless _ _, grouped, regrouped _ _⟩

end Typeset
