import Typeset.Proofs.Backtracking
import Typeset.Proofs.Hereditary
import Typeset.Proofs.Verdicts

/-! Where nothing is indented the two strategies are one. All newlines lead to the margin, also those in
alternatives that are given up, and no lookahead has its base left of that; so none goes on to another
line, and the two machines take the same steps with the same tokens. Levels and columns are signed words,
so there are two conditions: no level is left of the least word, where the next one is the largest, and
no column counts as negative. -/
namespace Typeset

/-- No part of a document is nested by more than nothing, and none depends on its place. -/
def Doc.Unindented (doc : Doc) : Prop :=
  doc.Every fun
    | .nest amount _ => amount ≤ 0
    | .column _ | .columns _ | .nesting _ => False
    | _ => True

/-- How far left of a document its parts are nested. -/
def Doc.outdent : Doc → Nat
  | .nest amount body => (-amount).toNat + body.outdent
  | .flatAlt broken flat => max broken.outdent flat.outdent
  | .cat left right => max left.outdent right.outdent
  | .union flat broken => max flat.outdent broken.outdent
  | .styled _ body => body.outdent
  | _ => 0

/-- The most columns that the texts of a document take together. -/
def Doc.textColumns : Doc → Nat
  | .literal piece => piece.width
  | .nest _ body => body.textColumns
  | .flatAlt broken flat => max broken.textColumns flat.textColumns
  | .cat left right => left.textColumns + right.textColumns
  | .union flat broken => max flat.textColumns broken.textColumns
  | .styled _ body => body.textColumns
  | _ => 0

/-! ### Newlines at the margin -/

/-- A document at a level whose newlines lead to the margin: it is not indented, and its parts are not so
far to the left that their level is indented again. -/
structure Indented.AtMargin (next : Indented) : Prop where
  level : next.level.toInt ≤ 0
  unindented : next.doc.Unindented
  outdent : next.doc.outdent ≤ next.level.toInt + (UInt64.size / 2 : Nat)

namespace Indented.AtMargin
variable {outer : Int64}

theorem nest {amount : Int} {body : Doc} (margin : AtMargin ⟨outer, .nest amount body⟩) :
    AtMargin ⟨outer + .ofInt amount, body⟩ := by
  obtain ⟨level, ⟨inward, unindented⟩, outdent⟩ := margin
  have inward : amount ≤ 0 := inward
  simp only [Doc.outdent] at level outdent
  have inner : (outer + .ofInt amount).toInt = outer.toInt + amount :=
    nested_level (by omega) (by simp only [UInt64.size] at outdent ⊢; omega)
  refine ⟨?_, unindented, ?_⟩
  · rw [inner]
    omega
  · dsimp only
    rw [inner]
    omega

/-- A part at the same level that is not nested further left than the whole. -/
theorem part {whole part : Doc} (margin : AtMargin ⟨outer, whole⟩) (unindented : part.Unindented)
    (le : part.outdent ≤ whole.outdent) : AtMargin ⟨outer, part⟩ :=
  ⟨margin.level, unindented, Int.le_trans (Int.ofNat_le.mpr le) margin.outdent⟩

theorem flatAlt {broken flat : Doc} (margin : AtMargin ⟨outer, .flatAlt broken flat⟩) :
    AtMargin ⟨outer, broken⟩ := margin.part margin.unindented.2.1 (Nat.le_max_left _ _)

theorem cat {left right : Doc} (margin : AtMargin ⟨outer, .cat left right⟩) :
    AtMargin ⟨outer, left⟩ ∧ AtMargin ⟨outer, right⟩ :=
  ⟨margin.part margin.unindented.2.1 (Nat.le_max_left _ _),
    margin.part margin.unindented.2.2 (Nat.le_max_right _ _)⟩

theorem union {flat broken : Doc} (margin : AtMargin ⟨outer, .union flat broken⟩) :
    AtMargin ⟨outer, flat⟩ ∧ AtMargin ⟨outer, broken⟩ :=
  ⟨margin.part margin.unindented.2.1 (Nat.le_max_left _ _),
    margin.part margin.unindented.2.2 (Nat.le_max_right _ _)⟩

theorem styled {change : Change} {body : Doc} (margin : AtMargin ⟨outer, .styled change body⟩) :
    AtMargin ⟨outer, body⟩ := margin.part margin.unindented.2 (Nat.le_refl _)

theorem restore (level : outer.toInt ≤ 0) (style : Style) : AtMargin ⟨outer, .restore style⟩ := by
  have least := outer.le_toInt
  refine ⟨level, by simp [Doc.Unindented, Doc.Every], ?_⟩
  simp only [Doc.outdent, UInt64.size]
  omega

end Indented.AtMargin

/-- The most columns that the texts of documents to come take together. -/
def Indented.textColumns : List Indented → Nat
  | [] => 0
  | next :: rest => next.doc.textColumns + textColumns rest

/-- Every newline of documents to come leads to the margin, and no line that comes to them at a column
ends right of a limit. -/
structure Indented.AllAtMargin (limit column : Nat) (upcoming : List Indented) : Prop where
  margin : ∀ next ∈ upcoming, next.AtMargin
  columns : column + textColumns upcoming ≤ limit

namespace Indented.AllAtMargin
variable {limit column : Nat} {next : Indented} {rest : List Indented}

/-- Other documents come instead of the first one, at a column that may be another. -/
theorem replace (margin : AllAtMargin limit column (next :: rest)) (others : List Indented)
    {columnAfter : Nat} (othersMargin : ∀ other ∈ others, other.AtMargin)
    (columns : columnAfter + textColumns (others ++ rest) ≤ column + textColumns (next :: rest)) :
    AllAtMargin limit columnAfter (others ++ rest) :=
  ⟨List.forall_mem_append.mpr ⟨othersMargin, (List.forall_mem_cons.mp margin.margin).2⟩,
    Nat.le_trans columns margin.columns⟩

/-- One other document comes instead of the first one, with no more text than that. -/
theorem replaceFirst (margin : AllAtMargin limit column (next :: rest)) {other : Indented}
    (otherMargin : other.AtMargin) (columns : other.doc.textColumns ≤ next.doc.textColumns) :
    AllAtMargin limit column (other :: rest) :=
  margin.replace [other] (List.forall_mem_singleton.mpr otherMargin)
    (Nat.add_le_add_left (Nat.add_le_add_right columns _) _)

theorem first (margin : AllAtMargin limit column (next :: rest)) : next.AtMargin :=
  margin.margin next List.mem_cons_self

end Indented.AllAtMargin

/-- Every newline that is still to come at a place leads to the margin. -/
def Place.AtMargin (limit : Nat) (place : Place) : Prop :=
  Indented.AllAtMargin limit place.column place.upcoming

/-- A token that is no newline, or one to the margin. -/
def Token.AtMargin (token : Token) : Prop := ∀ indent, token = .line indent → indent = 0

theorem Token.atMargin_of_not_line {token : Token} (inLine : token.isLine = false) :
    token.AtMargin := by
  rintro indent rfl
  cases inLine

/-- The next token leads no further than the margin, and neither does what comes after it or what a
choice offers. -/
def Next.AtMargin (limit : Nat) : Next → Prop
  | .done => True
  | .token emitted after => emitted.AtMargin ∧ after.AtMargin limit
  | .choice level flat broken after =>
    after.column ≤ limit ∧ (after.push level flat).AtMargin limit ∧
      (after.push level broken).AtMargin limit

theorem Place.atMargin_advance {limit : Nat} (width : Nat) (place : Place) (upcoming : List Indented)
    (margin : Indented.AllAtMargin limit place.column upcoming) :
    (place.advance width upcoming).AtMargin limit := by
  fun_induction place.advance width upcoming with
  | case1 => trivial
  | case2 level rest =>
    have nothing : Indented.AllAtMargin limit place.column [] :=
      ⟨by simp, Nat.le_trans (Nat.add_le_add_left (Nat.zero_le _) _) margin.columns⟩
    exact ⟨Token.atMargin_of_not_line rfl, nothing⟩
  | case3 level rest ih => exact ih (margin.replace [] (by simp) (by simp [Indented.textColumns]))
  | case4 level rest piece =>
    refine ⟨Token.atMargin_of_not_line rfl, margin.replace [] (by simp) ?_⟩
    simp only [Indented.textColumns, Doc.textColumns, List.nil_append]
    omega
  | case5 level rest indent =>
    have atMargin : indent = 0 := Int.toNat_eq_zero.mpr margin.first.level
    refine ⟨fun other same => ?_, margin.replace [] (by simp) ?_⟩
    · cases same
      exact atMargin
    · simp [Indented.textColumns, Doc.textColumns, atMargin]
  | case6 level rest broken flat ih =>
    exact ih (margin.replaceFirst margin.first.flatAlt (Nat.le_max_left _ _))
  | case7 level rest left right ih =>
    obtain ⟨atLeft, atRight⟩ := margin.first.cat
    refine ih (margin.replace [⟨level, left⟩, ⟨level, right⟩] (by simp [atLeft, atRight]) ?_)
    simp only [Indented.textColumns, Doc.textColumns, List.cons_append, List.nil_append]
    omega
  | case8 level rest amount body ih =>
    exact ih (margin.replaceFirst margin.first.nest (Nat.le_refl _))
  | case9 level rest flat broken =>
    obtain ⟨atFlat, atBroken⟩ := margin.first.union
    exact ⟨Nat.le_trans (Nat.le_add_right _ _) margin.columns,
      margin.replaceFirst atFlat (Nat.le_max_left _ _),
      margin.replaceFirst atBroken (Nat.le_max_right _ _)⟩
  | case10 level rest body ih => exact margin.first.unindented.1.elim
  | case11 level rest body ih => exact margin.first.unindented.1.elim
  | case12 level rest body ih => exact margin.first.unindented.1.elim
  | case13 level rest change body =>
    have restores := Indented.AtMargin.restore margin.first.level place.style
    refine ⟨Token.atMargin_of_not_line rfl, margin.replace [⟨level, body⟩, ⟨level, .restore place.style⟩]
      (by simp [margin.first.styled, restores]) ?_⟩
    simp only [Indented.textColumns, Doc.textColumns, List.cons_append, List.nil_append]
    omega
  | case14 level rest style =>
    exact ⟨Token.atMargin_of_not_line rfl,
      margin.replace [] (by simp) (by simp [Indented.textColumns, Doc.textColumns])⟩

theorem Place.AtMargin.next {limit : Nat} {place : Place} (margin : place.AtMargin limit)
    (width : Nat) : (place.next width).AtMargin limit :=
  place.atMargin_advance width place.upcoming margin

/-! ### The other strategy -/

def Page.withStrategy (page : Page) (strategy : Strategy) : Page := { page with strategy }

def Lookahead.withStrategy (ahead : Lookahead) (strategy : Strategy) : Lookahead :=
  { ahead with strategy }

def Verdict.withStrategy (strategy : Strategy) : Verdict → Verdict
  | .undecided ahead => .undecided (ahead.withStrategy strategy)
  | known => known

namespace Lookahead

variable {ahead : Lookahead}

theorem withRoom_withStrategy (strategy : Strategy) (room : Int) :
    (ahead.withStrategy strategy).withRoom room = (ahead.withRoom room).withStrategy strategy := by
  unfold withRoom
  split <;> rfl

/-- Whatever the strategy, no newline to the margin is gone past. -/
theorem see_withStrategy (strategy : Strategy) {token : Token} (base : 0 ≤ ahead.baseIndent)
    (margin : token.AtMargin) :
    (ahead.withStrategy strategy).see token = (ahead.see token).withStrategy strategy := by
  cases token with
  | text piece => exact withRoom_withStrategy strategy _
  | format codes => rfl
  | fail => rfl
  | line indent =>
    obtain rfl := margin indent rfl
    have shallow : ¬ ahead.baseIndent < ((0 : Nat) : Int) := Int.not_lt.mpr base
    rw [see, see, if_neg fun deeper => shallow deeper.2.2, if_neg fun deeper => shallow deeper.2.2]
    rfl

theorem seeAll_withStrategy (strategy : Strategy) {tokens : List Token}
    (base : 0 ≤ ahead.baseIndent) (margin : ∀ token ∈ tokens, token.AtMargin) :
    (ahead.withStrategy strategy).seeAll tokens =
      (ahead.seeAll tokens).withStrategy strategy := by
  induction tokens generalizing ahead with
  | nil => rfl
  | cons token rest ih =>
    obtain ⟨first, others⟩ := List.forall_mem_cons.mp margin
    rw [seeAll, seeAll, see_withStrategy strategy base first]
    cases seen : ahead.see token with
    | fits | overflows => rfl
    | undecided next =>
      refine ih ?_ others
      rwa [(kept_of_see seen).1]

end Lookahead

theorem Page.lookahead?_withStrategy (page : Page) (strategy : Strategy) (place : Place) :
    (page.withStrategy strategy).lookahead? place =
      (page.lookahead? place).map (·.withStrategy strategy) := by
  have room : (page.withStrategy strategy).roomAt = page.roomAt := rfl
  have below : (page.withStrategy strategy).roomBelow = page.roomBelow := rfl
  rw [lookahead?, lookahead?, Lookahead.start?, Lookahead.start?, room, below,
    apply_ite (Option.map _)]
  rfl

/-- No column up to a limit counts as negative where there is room: either the page ends before 2^63, or
the limit is less than that. -/
def Page.KeepsColumns (page : Page) (limit : Nat) : Prop :=
  page.width.toNat < UInt64.size / 2 ∨ limit < UInt64.size / 2

/-- A lookahead starts with a base that is not left of the margin. -/
theorem Page.base_of_lookahead? {page : Page} {limit : Nat} (keeps : page.KeepsColumns limit)
    {place : Place} (within : place.column ≤ limit) {ahead : Lookahead}
    (starts : page.lookahead? place = some ahead) : 0 ≤ ahead.baseIndent := by
  rw [lookahead?, Lookahead.start?] at starts
  split at starts
  · cases starts
  · rename_i room
    cases starts
    have column : signed place.column = place.column := by
      rcases keeps with small | small
      · have some : 0 ≤ page.room place.cursor := Int.not_lt.mp room
        exact signed_column small some
      · exact signed_eq (Int.ofNat_lt.mpr (Nat.lt_of_le_of_lt within small))
    rw [column]
    exact Int.le_min.mpr ⟨Int.natCast_nonneg _, Int.natCast_nonneg _⟩

/-! ### Machines in lock step -/

def Attempt.withStrategy (attempt : Attempt) (strategy : Strategy) : Attempt :=
  { attempt with ahead := attempt.ahead.withStrategy strategy }

/-- An attempt whose lookahead goes past no newline to the margin, and which goes back to where nothing
is indented. -/
structure Attempt.AtMargin (limit : Nat) (attempt : Attempt) : Prop where
  base : 0 ≤ attempt.ahead.baseIndent
  goBack : attempt.otherwise.AtMargin limit

namespace Machine

/-- The same machine with another strategy, also in the attempts that are under way. -/
def withStrategy (machine : Machine) (strategy : Strategy) : Machine :=
  { machine with
    page := machine.page.withStrategy strategy
    attempts := machine.attempts.map (·.withStrategy strategy) }

/-- A machine all of whose newlines lead to the margin: those that it has met since its attempts began,
and those that it may still meet, even if it goes back. -/
structure AtMargin (limit : Nat) (machine : Machine) : Prop where
  keeps : machine.page.KeepsColumns limit
  here : machine.place.AtMargin limit
  met : ∀ token ∈ machine.tentative.toList, token.AtMargin
  attempts : ∀ attempt ∈ machine.attempts, attempt.AtMargin limit

variable {limit : Nat}

theorem judge_atMargin (atEnd : Bool) {machine : Machine} {attempts : List Attempt}
    (keeps : machine.page.KeepsColumns limit) (here : machine.place.AtMargin limit)
    (met : ∀ token ∈ machine.tentative.toList, token.AtMargin)
    (under : ∀ attempt ∈ attempts, attempt.AtMargin limit) :
    (machine.judge atEnd attempts).AtMargin limit := by
  have judged := judgement atEnd machine attempts
  generalize machine.judge atEnd attempts = after at judged
  cases judged with
  | settle => exact ⟨keeps, here, by simp, by simp⟩
  | @giveUp top below among seen =>
    obtain ⟨first, others⟩ := forall_among under among
    refine ⟨keeps, first.goBack, fun token member => met token ?_, others⟩
    exact List.mem_of_mem_take (by simpa using member)
  | @wait top below ahead among seen =>
    obtain ⟨first, others⟩ := forall_among under among
    have base : 0 ≤ ahead.baseIndent := by
      rw [(Lookahead.kept_of_seeAll seen).1]
      exact first.base
    exact ⟨keeps, here, met, List.forall_mem_cons.mpr ⟨⟨base, first.goBack⟩, others⟩⟩

/-- Attempts are judged alike with either strategy, as long as no newline before them is indented. -/
theorem judge_withStrategy (atEnd : Bool) (strategy : Strategy) (machine : Machine)
    {attempts : List Attempt} (met : ∀ token ∈ machine.tentative.toList, token.AtMargin)
    (under : ∀ attempt ∈ attempts, attempt.AtMargin limit) :
    (machine.withStrategy strategy).judge atEnd (attempts.map (·.withStrategy strategy)) =
      (machine.judge atEnd attempts).withStrategy strategy := by
  induction attempts with
  | nil => rfl
  | cons top below ih =>
    obtain ⟨first, others⟩ := List.forall_mem_cons.mp under
    have shown : ∀ token ∈ (machine.tentative.extract top.seen).toList, token.AtMargin := by
      intro token member
      rw [toList_extract_from] at member
      exact met token (List.mem_of_mem_drop member)
    have same : (top.withStrategy strategy).ahead.seeAll
        ((machine.withStrategy strategy).tentative.extract (top.withStrategy strategy).seen).toList =
          (top.ahead.seeAll (machine.tentative.extract top.seen).toList).withStrategy strategy :=
      Lookahead.seeAll_withStrategy strategy first.base shown
    rw [List.map_cons, judge, judge, same]
    cases top.ahead.seeAll (machine.tentative.extract top.seen).toList with
    | fits => exact ih others
    | overflows => rfl
    | undecided ahead =>
      cases atEnd with
      | true => exact ih others
      | false => rfl

theorem note_withStrategy (strategy : Strategy) (machine : Machine) (token : Token) :
    (machine.withStrategy strategy).note token = (machine.note token).withStrategy strategy := by
  rw [note, note, apply_ite (fun noted : Machine => noted.withStrategy strategy)]
  rfl

theorem attempt_withStrategy (strategy : Strategy) (machine : Machine) (level : Int64)
    (flat broken : Doc) (place : Place) :
    (machine.withStrategy strategy).attempt level flat broken place =
      (machine.attempt level flat broken place).withStrategy strategy := by
  have room : (machine.withStrategy strategy).page.lookahead? place =
      (machine.page.lookahead? place).map (·.withStrategy strategy) :=
    machine.page.lookahead?_withStrategy strategy place
  rw [attempt, attempt, room]
  cases machine.page.lookahead? place with
  | none => rfl
  | some ahead => rfl

theorem met_push {tentative : Array Token} {token : Token}
    (met : ∀ other ∈ tentative.toList, other.AtMargin) (margin : token.AtMargin) :
    ∀ other ∈ (tentative.push token).toList, other.AtMargin := by
  rw [Array.toList_push]
  exact List.forall_mem_append.mpr ⟨met, List.forall_mem_singleton.mpr margin⟩

/-- A step keeps all newlines at the margin. -/
theorem Step.atMargin {machine after : Machine} {token : Option Token}
    (step : machine.Step token after) (margin : machine.AtMargin limit) : after.AtMargin limit := by
  obtain ⟨keeps, here, met, under⟩ := margin
  have comes := here.next machine.page.width.toNat
  cases step with
  | handOut isDecided => exact ⟨keeps, here, met, under⟩
  | close nothingDecided found attempting => exact judge_atMargin true keeps here met under
  | emit nothingDecided found settled =>
    rw [found] at comes
    exact ⟨by rwa [page_note], comes.2, by simpa using met, by simpa using under⟩
  | @keep token place nothingDecided found attempting =>
    rw [found] at comes
    exact judge_atMargin false (by rwa [page_note]) comes.2 (met_push met comes.1) under
  | @choose level flat broken place nothingDecided found =>
    rw [found] at comes
    rw [attempt]
    cases starts : machine.page.lookahead? place with
    | none => exact ⟨keeps, comes.2.2, met, under⟩
    | some ahead =>
      have begun : Attempt.AtMargin limit ⟨machine.tentative.size, machine.tentative.size, ahead,
          place.push level broken⟩ := ⟨Page.base_of_lookahead? keeps comes.1 starts, comes.2.2⟩
      exact ⟨keeps, comes.2.1, met, List.forall_mem_cons.mpr ⟨begun, under⟩⟩

/-- With all newlines at the margin, a machine takes the same step with either strategy. -/
theorem Step.withStrategy {machine after : Machine} {token : Option Token}
    (step : machine.Step token after) (margin : machine.AtMargin limit) (strategy : Strategy) :
    (machine.withStrategy strategy).Step token (after.withStrategy strategy) := by
  obtain ⟨keeps, here, met, under⟩ := margin
  have comes := here.next machine.page.width.toNat
  cases step with
  | handOut isDecided => exact .handOut isDecided
  | close nothingDecided found attempting =>
    have stillAttempting : (machine.withStrategy strategy).attempts ≠ [] :=
      mt List.map_eq_nil_iff.mp attempting
    rw [← judge_withStrategy true strategy machine met under]
    exact .close nothingDecided found stillAttempting
  | @emit token place nothingDecided found settled =>
    have stillSettled : (machine.withStrategy strategy).attempts = [] :=
      List.map_eq_nil_iff.mpr settled
    have stepped : (machine.withStrategy strategy).Step (some token)
        { (machine.withStrategy strategy).note token with place } :=
      .emit nothingDecided found stillSettled
    rw [note_withStrategy] at stepped
    exact stepped
  | @keep token place nothingDecided found attempting =>
    rw [found] at comes
    have stillAttempting : (machine.withStrategy strategy).attempts ≠ [] :=
      mt List.map_eq_nil_iff.mp attempting
    rw [← judge_withStrategy false strategy
      { machine.note token with place, tentative := machine.tentative.push token }
      (met_push met comes.1) under]
    have stepped : (machine.withStrategy strategy).Step none
        (judge false { (machine.withStrategy strategy).note token with
          place, tentative := machine.tentative.push token }
          (machine.withStrategy strategy).attempts) :=
      .keep nothingDecided found stillAttempting
    rw [note_withStrategy] at stepped
    exact stepped
  | choose nothingDecided found =>
    rw [← attempt_withStrategy]
    exact .choose nothingDecided found

/-- The other machine goes on exactly as this one does, and comes to an end where it does. -/
theorem step?_withStrategy {machine : Machine} (margin : machine.AtMargin limit) (strategy : Strategy) :
    (machine.withStrategy strategy).step? =
      machine.step?.map (Prod.map id (·.withStrategy strategy)) := by
  cases stepped : machine.step? with
  | none =>
    obtain ⟨nothingDecided, found, settled⟩ := step_eq_none_iff.mp stepped
    exact step_eq_none_iff.mpr ⟨nothingDecided, found, List.map_eq_nil_iff.mpr settled⟩
  | some reached => exact step_iff.mpr ((step_iff.mp stepped).withStrategy margin strategy)

/-- After any number of steps the two machines are the same but for the strategy, and have handed out the
same tokens. -/
theorem after_withStrategy {machine : Machine} (margin : machine.AtMargin limit) (strategy : Strategy)
    (count : Nat) : after? step? count (machine.withStrategy strategy) =
      (after? step? count machine).map (Prod.map id (·.withStrategy strategy)) := by
  induction count generalizing machine with
  | zero => rfl
  | succ count ih =>
    rw [after?, after?, step?_withStrategy margin strategy]
    cases stepped : machine.step? with
    | none => rfl
    | some reached =>
      have further := ih ((step_iff.mp stepped).atMargin margin)
      simp only [Option.map_some, Prod.map, id, further, Option.map_map]
      rfl

/-- A run hands out the same tokens with either strategy, and meets the same illegal text first. -/
theorem runAfter_withStrategy {machine : Machine} (margin : machine.AtMargin limit) (strategy : Strategy)
    (out : Array Token) : (machine.withStrategy strategy).runAfter out = machine.runAfter out := by
  induction machine, out using runAfter.induct with
  | case1 machine out stuck =>
    rw [runAfter, runAfter, step?_withStrategy margin strategy, stuck]
    rfl
  | case2 machine out after stepped ih =>
    rw [runAfter, runAfter, step?_withStrategy margin strategy, stepped]
    exact ih ((step_iff.mp stepped).atMargin margin)
  | case3 machine out token after stepped ih =>
    rw [runAfter, runAfter, step?_withStrategy margin strategy, stepped]
    exact ih ((step_iff.mp stepped).atMargin margin)

theorem atMargin_start {page : Page} {doc : Doc} (unindented : doc.Unindented)
    (outdent : doc.outdent ≤ UInt64.size / 2) (keeps : page.KeepsColumns doc.textColumns) :
    (start page doc).AtMargin doc.textColumns := by
  have inRange : (doc.outdent : Int) ≤ (0 : Int64).toInt + (UInt64.size / 2 : Nat) := by
    simpa using Int.ofNat_le.mpr outdent
  have first : Indented.AtMargin ⟨0, doc⟩ := ⟨Int.le_refl 0, unindented, inRange⟩
  have upcoming : Indented.AllAtMargin doc.textColumns 0 [⟨0, doc⟩] :=
    ⟨List.forall_mem_singleton.mpr first, by simp [Indented.textColumns]⟩
  exact ⟨keeps, upcoming, by simp [start], by simp [start]⟩

end Machine

/-- A bold notice, moved to the left, with choices inside and after a choice, one of them between a failure
and something else. -/
def notice : Doc :=
  .styled (.turn .bold true) (.nest (-2) (.cat
    (.union (.cat (.literal (.ofString "keep")) (.union (.literal (.ofString "out")) .newline))
      (.cat (.literal (.ofString "keep")) (.cat .newline (.union .fail (.literal (.ofString "out"))))))
    (.cat .newline (.literal (.ofString "beware")))))

/-- A choice, and a newline at a level that is one left of the least word. -/
def precipice : Doc :=
  .nest (-9223372036854775808) (.nest (-1)
    (.cat (.union (.literal (.ofString "a")) (.literal (.ofString "b"))) .newline))

end Typeset
