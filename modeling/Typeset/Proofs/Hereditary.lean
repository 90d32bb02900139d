import Typeset.Doc.Basic

/-! Conditions on a whole document: on every node of it, and on every node of what its functions give
for any argument. Most of them say that there are no nodes of some kinds, either in the whole document
or in the flat sides of its alternatives. -/
namespace Typeset.Doc

/-- A condition holds of every node, also of those that functions give. -/
def Every (p : Doc → Prop) : Doc → Prop
  | .flatAlt broken flat => p (.flatAlt broken flat) ∧ broken.Every p ∧ flat.Every p
  | .cat left right => p (.cat left right) ∧ left.Every p ∧ right.Every p
  | .union flat broken => p (.union flat broken) ∧ flat.Every p ∧ broken.Every p
  | .nest amount body => p (.nest amount body) ∧ body.Every p
  | .styled change body => p (.styled change body) ∧ body.Every p
  | .column body => p (.column body) ∧ ∀ start, (body start).Every p
  | .columns body => p (.columns body) ∧ ∀ width, (body width).Every p
  | .nesting body => p (.nesting body) ∧ ∀ level, (body level).Every p
  | leaf => p leaf

theorem Every.mono {p q : Doc → Prop} {doc : Doc} (every : doc.Every p)
    (weaker : ∀ node, p node → q node) : doc.Every q := by
  induction doc with
  | fail | empty | literal piece | newline | restore style => exact weaker _ every
  | flatAlt broken flat ihFirst ihSecond | cat left right ihFirst ihSecond
  | union flat broken ihFirst ihSecond =>
    exact ⟨weaker _ every.1, ihFirst every.2.1, ihSecond every.2.2⟩
  | nest amount body ih | styled change body ih => exact ⟨weaker _ every.1, ih every.2⟩
  | column body ih | columns body ih | nesting body ih =>
    exact ⟨weaker _ every.1, fun argument => ih argument (every.2 argument)⟩

/-- No node returns to a style: the layout alone does that, at the end of what it put in a style. -/
def Unrestored (doc : Doc) : Prop := doc.Every fun node => ∀ style, node ≠ .restore style

/-- The kinds of nodes that documents are made of. -/
inductive Kind where
  | fail | empty | literal | newline | flatAlt | cat | nest | union | column | columns | nesting
  | styled | restore
  deriving DecidableEq

def kind : Doc → Kind
  | fail => .fail
  | empty => .empty
  | literal _ => .literal
  | newline => .newline
  | flatAlt _ _ => .flatAlt
  | cat _ _ => .cat
  | nest _ _ => .nest
  | union _ _ => .union
  | column _ => .column
  | columns _ => .columns
  | nesting _ => .nesting
  | styled _ _ => .styled
  | restore _ => .restore

/-- There are no nodes of these kinds in a document, nor in what its functions give. -/
def Without (kinds : List Kind) (doc : Doc) : Prop := doc.Every fun node => node.kind ∉ kinds

/-- There are no nodes of these kinds in the flat sides of a document's alternatives. -/
def FlatSidesWithout (kinds : List Kind) (doc : Doc) : Prop :=
  doc.Every fun node => ∀ broken flat, node = .flatAlt broken flat → flat.Without kinds

theorem Without.mono {kinds fewer : List Kind} {doc : Doc} (without : doc.Without kinds)
    (included : ∀ kind ∈ fewer, kind ∈ kinds) : doc.Without fewer :=
  Every.mono without fun node absent member => absent (included node.kind member)

end Typeset.Doc
