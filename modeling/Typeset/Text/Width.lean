import Typeset.Text.Wide
import Typeset.Text.Emoji
import Typeset.Text.Ligature

/-! How many columns a text takes on a terminal. A text is read from its end to its start: what a
character adds depends on the text after it, of which only its front matters. A picture that is tied
to the pictures after it, a base under a skin tone, and a letter that joins the next one add nothing.
A line feed takes no column, nor does a carriage return directly before one; every other control
character takes one.

The main statement is that printable ASCII takes one column a character. -/
namespace Typeset.Text

/-- The two forms that a variation selector can ask for. -/
inductive Form where
  | picture | text
  deriving DecidableEq, Repr

/-- A picture with a joiner before it, and what stands before the joiner as far as it may be the end
of another picture. -/
inductive Joined where
  | picture
  /-- A selector that asks for a picture. -/
  | selected
  /-- The sign of a key cap. -/
  | keycap
  | half
  /-- An even number of regional letters. -/
  | pairs
  /-- An odd number of regional letters, more than one. -/
  | pairsAndHalf
  /-- The end of a black flag's spelling, with so many letters before it. -/
  | letters (count : Nat)
  /-- The end of a black flag's spelling, with so many digits before it. -/
  | digits (count : Nat)
  deriving DecidableEq, Repr

/-- What stands at the front of a text, as far as it matters to a character before it. -/
inductive Front where
  /-- Nothing that matters. -/
  | plain
  | lineFeed
  | selector (form : Form)
  | picture
  | tone
  | flagHalf
  | flag
  | joined (part : Joined)
  /-- Something that a letter may join, and a selector before it if there is one. -/
  | ligature (part : Ligature) (form : Option Form)
  deriving DecidableEq, Repr

/-- The selector that asks for the picture form of the character before it. -/
def pictureSelector : Char := '\ufe0f'

/-- The selector that asks for the text form of the character before it. -/
def textSelector : Char := '\ufe0e'

/-- The tag that ends the spelling of a black flag's region. -/
def endTag : Char := Char.ofNat 0xE007F

/-- The flag whose region is spelt by tags after it. -/
def blackFlag : Char := Char.ofNat 0x1F3F4

/-- The columns that a character adds before a picture with a joiner, and what stands at the front
then; none if it has nothing to do with the picture. A region has two letters or three digits, and
at most four letters for a part of it. -/
def Joined.before? (part : Joined) (c : Char) : Option (Int × Front) :=
  match part with
  | picture =>
    if c = '\u20e3' then some (0, .joined .keycap)
    else if isRegionalLetter c then some (1, .joined .half)
    else if isTone c then some (0, .tone)
    else if c = endTag then some (0, .joined (.letters 0))
    else if isPicture c then some (0, .picture)
    else none
  | half => if isRegionalLetter c then some (-1, .joined .pairs) else none
  | pairs =>
    if isRegionalLetter c then some (3, .joined .pairsAndHalf)
    else if c = joiner then some (0, .joined .picture)
    else none
  | pairsAndHalf =>
    if isRegionalLetter c then some (-1, .joined .pairs)
    else if c = joiner then some (0, .joined .picture)
    else none
  | letters count =>
    if isTagLetter c && count < 6 then some (0, .joined (.letters (count + 1)))
    else if isTagDigit c && count < 5 then some (0, .joined (.digits 1))
    else if c = blackFlag && 3 ≤ count then some (0, .picture)
    else none
  | digits count =>
    if isTagDigit c && count < 3 then some (0, .joined (.digits (count + 1)))
    else if c = blackFlag && count = 3 then some (0, .picture)
    else none
  | selected | keycap => none

namespace Front

/-- The form that a selector at the front asks for. -/
def asked : Front → Option Form
  | selector form => some form
  | joined .selected => some .picture
  | ligature _ form => form
  | _ => none

/-- The front without a selector: a character that has no such form does not heed it. -/
def unasked : Front → Front
  | selector _ | joined .selected => plain
  | ligature part _ => ligature part none
  | other => other

/-- The front with a selector before it. -/
def ask (front : Front) (form : Form) : Front :=
  match front, form with
  | ligature part _, form => ligature part (some form)
  | joined .picture, .picture | joined .keycap, .picture => joined .selected
  | _, form => selector form

/-- What stands at the front once a letter has joined it. -/
def ofLigature : Option Ligature → Front
  | some part => ligature part none
  | none => plain

/-- The columns that a character adds before something it belongs to, and what stands at the front
then; none if it stands for itself. -/
def before? (front : Front) (c : Char) : Option (Int × Front) :=
  match front with
  | ligature part _ => (part.before? c).map fun (added, part) => (added, ofLigature part)
  | joined part => part.before? c
  | tone =>
    if takesTone c then some (0, picture)
    else if c = joiner then some (0, joined .picture)
    else none
  | picture => if c = joiner then some (0, joined .picture) else none
  | flagHalf => if isRegionalLetter c then some (1, flag) else none
  | flag =>
    if isRegionalLetter c then some (1, flag)
    else if c = joiner then some (0, joined .picture)
    else none
  | _ => none

end Front

/-- The columns of a character that stands for itself, and what stands at the front with it. -/
def alone (c : Char) : Int × Front :=
  if isZeroWidth c then (0, .plain)
  else if isTone c then (2, .tone)
  else if isPicture c then (2, .picture)
  else if isWide c then (2, .plain)
  else if isRegionalLetter c then (1, .flagHalf)
  else if c = '\u17d8' then (3, .plain)
  else (1, Front.ofLigature (Ligature.ofLetter? c))

/-- The columns that a character adds before a front at which no picture is asked for, and what
stands at the front then. -/
def beforeUnasked (front : Front) (c : Char) : Int × Front :=
  if c.toNat ≤ 0xA0 then
    if c = '\n' then (0, .lineFeed)
    else (if c = '\r' && front = .lineFeed then 0 else 1, .plain)
  else if c = pictureSelector then (0, front.ask .picture)
  else if c = textSelector then (0, front.ask .text)
  else if front.asked = some .text && isPicture c && isVariable c && !isIdeographicPicture c then
    (1, .plain)
  else (front.unasked.before? c).getD (alone c)

/-- The columns that a character adds before a front, and what stands at the front then. -/
def before (front : Front) (c : Char) : Int × Front :=
  if front.asked = some .picture then
    if isVariable c then (if front = .joined .selected then 0 else 2, .picture)
    else beforeUnasked front.unasked c
  else beforeUnasked front c

/-- The columns of a text, and what stands at its front. -/
def measure (text : List Char) : Int × Front :=
  text.foldr (fun c (total, front) =>
    let (added, front) := before front c
    (total + added, front)) (0, .plain)

/-- The number of columns that a text takes on a terminal. -/
def displayWidth (text : String) : Nat := (measure text.toList).1.toNat

theorem measure_cons (c : Char) (rest : List Char) :
    measure (c :: rest) =
      ((measure rest).1 + (before (measure rest).2 c).1, (before (measure rest).2 c).2) := rfl

def isPlainAscii (c : Char) : Bool := 0x20 ≤ c.toNat && c.toNat < 0x7F

theorem before_plain_ascii (c : Char) (ascii : isPlainAscii c = true) :
    before .plain c = ((1 : Int), Front.plain) := by
  simp only [isPlainAscii, Bool.and_eq_true, decide_eq_true_eq] at ascii
  have notLineFeed : c ≠ '\n' := by
    intro same
    subst same
    exact absurd ascii.1 (by decide)
  have small : c.toNat ≤ 0xA0 := by omega
  simp [before, beforeUnasked, Front.asked, small, notLineFeed]

/-- Nothing in printable ASCII matters to what stands before it. -/
theorem measure_plain_ascii (text : List Char) (ascii : ∀ c ∈ text, isPlainAscii c = true) :
    measure text = ((text.length : Int), Front.plain) := by
  induction text with
  | nil => rfl
  | cons c rest ih =>
    have later := ih fun d mem => ascii d (List.mem_cons_of_mem c mem)
    rw [measure_cons, later, before_plain_ascii c (ascii c List.mem_cons_self)]
    simp

/-- Printable ASCII takes one column a character. -/
theorem displayWidth_plain_ascii (text : String)
    (ascii : ∀ c ∈ text.toList, isPlainAscii c = true) :
    displayWidth text = text.toList.length := by
  simp [displayWidth, measure_plain_ascii _ ascii]

@[simp] theorem displayWidth_empty : displayWidth "" = 0 := rfl

@[simp] theorem displayWidth_spaces (count : Nat) :
    displayWidth (String.ofList (List.replicate count ' ')) = count := by
  have ascii : ∀ c ∈ (String.ofList (List.replicate count ' ')).toList, isPlainAscii c = true := by
    intro c mem
    rw [String.toList_ofList] at mem
    rw [List.eq_of_mem_replicate mem]
    rfl
  rw [displayWidth_plain_ascii _ ascii, String.toList_ofList, List.length_replicate]

end Typeset.Text
