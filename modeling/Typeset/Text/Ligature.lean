import Typeset.Text.ZeroWidth

/-! Letters that are written as one with the letters before them. A text is read from its end to its
start, and what stands at its front decides which letters may join it there: `Ligature.before?` says
what such a letter adds to the width of the text, and what stands at the front then. -/
namespace Typeset.Text

/-- The joiner, which ties what stands on both sides of it together. -/
def joiner : Char := '\u200d'

/-- What stands at the front of a text and may be joined from before. Some letters are joined only
through a joiner; for these it is known whether there is one. -/
inductive Ligature where
  /-- An Arabic alef, which forms one sign with a lam. -/
  | alef
  /-- A Hebrew lamed, which a joiner ties to an alef. -/
  | lamed (joined : Bool)
  /-- A Buginese ya, which a joiner ties to a vowel sign over an a. -/
  | ya (joined : Bool)
  /-- A Buginese vowel sign that is tied to a ya. -/
  | vowelYa
  /-- A Tifinagh consonant, which a joiner or the joining sign ties to a consonant. -/
  | consonant (joined : Bool)
  /-- The joining sign of Tifinagh and a consonant. -/
  | boundConsonant
  /-- The second half of a Lisu tone. -/
  | tone
  /-- An Old Turkic i, which a joiner ties to a ch. -/
  | turkic (joined : Bool)
  /-- A Khmer letter that can be written below another. -/
  | subscript
  deriving DecidableEq, Repr

def isLam (c : Char) : Bool :=
  inRanges [(0x644, 0x644), (0x6B5, 0x6B8), (0x76A, 0x76A), (0x8A6, 0x8A6), (0x8C7, 0x8C7)] c

def isAlef (c : Char) : Bool :=
  inRanges [(0x622, 0x623), (0x625, 0x625), (0x627, 0x627), (0x671, 0x673), (0x675, 0x675),
    (0x773, 0x774), (0x870, 0x882)] c

def isTifinaghConsonant (c : Char) : Bool := inRanges [(0x2D31, 0x2D65), (0x2D6F, 0x2D6F)] c

def isToneStart (c : Char) : Bool := inRanges [(0xA4F8, 0xA4FB)] c

def isToneEnd (c : Char) : Bool := inRanges [(0xA4FC, 0xA4FD)] c

def isSubscript (c : Char) : Bool :=
  inRanges [(0x1780, 0x1782), (0x1784, 0x1787), (0x1789, 0x178C), (0x178E, 0x1793),
    (0x1795, 0x1798), (0x179B, 0x179D), (0x17A0, 0x17A0), (0x17A2, 0x17A2), (0x17A7, 0x17A7),
    (0x17AB, 0x17AC), (0x17AF, 0x17AF)] c

namespace Ligature

/-- What a letter that stands at the front of a text can be joined as. -/
def ofLetter? (c : Char) : Option Ligature :=
  if isAlef c then some .alef
  else if isSubscript c then some .subscript
  else if isTifinaghConsonant c then some (.consonant false)
  else if isToneEnd c then some .tone
  else if c = '\u05dc' then some (.lamed false)
  else if c = '\u1a10' then some (.ya false)
  else if c = Char.ofNat 0x10C03 then some (.turkic false)
  else none

def join : Ligature → Ligature
  | lamed _ => lamed true
  | ya _ => ya true
  | consonant _ => consonant true
  | turkic _ => turkic true
  | other => other

/-- The columns that a character adds before what stands at the front, and what may be joined from
before then; none if the character is not joined to it. A character may take back the column of the
letter below or behind it. -/
def before? (front : Ligature) (c : Char) : Option (Int × Option Ligature) :=
  match front with
  | alef =>
    if isLam c then some (0, none)
    else if isTransparent c then some (0, some alef)
    else none
  | front =>
    if c = joiner then some (0, some front.join)
    else if isIgnorable c then some (0, some front)
    else match front with
      | lamed true => if c = '\u05d0' then some (0, none) else none
      | ya true => if c = '\u1a17' then some (0, some vowelYa) else none
      | vowelYa => if c = '\u1a15' then some (0, none) else none
      | consonant joined =>
        if c = '\u2d7f' then some (1, some boundConsonant)
        else if joined && isTifinaghConsonant c then some (0, none)
        else none
      | boundConsonant => if isTifinaghConsonant c then some (-1, none) else none
      | tone => if isToneStart c then some (0, none) else none
      | turkic true => if c = Char.ofNat 0x10C32 then some (0, none) else none
      | subscript => if c = '\u17d2' then some (-1, none) else none
      | _ => none

end Ligature
end Typeset.Text
