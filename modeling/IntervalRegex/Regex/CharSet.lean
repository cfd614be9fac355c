import IntervalRegex.Text.Blank
import IntervalRegex.Text.Letter

/-!
# Character sets

The sets of characters that one position of a regular expression can stand for, and the two
dialects in which the shorthand classes are read.
-/

namespace IntervalRegex

/-- Whether shorthand classes hold ASCII characters only or all of Unicode. -/
inductive Dialect
  | ascii
  | unicode
deriving DecidableEq, Repr

/-- `\d`, `\s` and `\w`. -/
inductive Shorthand
  | digit
  | blank
  | word
deriving DecidableEq, Repr

def Shorthand.mem : Shorthand → Dialect → Char → Bool
  | digit, .ascii, c => c.isDigit
  | digit, .unicode, c => Text.isDecimalDigit c
  | blank, .ascii, c => c == ' ' || (9 ≤ c.toNat && c.toNat ≤ 13)
  | blank, .unicode, c => Text.isBlank c
  | word, .ascii, c => c.isAlphanum || c == '_'
  | word, .unicode, c => Text.isWord c

/-- One member of a bracketed class. -/
inductive ClassItem
  | single (c : Char)
  | range (first last : Char)
  | shorthand (kind : Shorthand) (negated : Bool)
deriving DecidableEq, Repr

namespace ClassItem

def mem (d : Dialect) (c : Char) : ClassItem → Bool
  | single x => c == x
  | range first last => first ≤ c && c ≤ last
  | shorthand kind negated => kind.mem d c != negated

/-- Whether the member names ASCII characters only. -/
def isAscii : ClassItem → Bool
  | single x => x.toNat < 128
  | range first last => first.toNat < 128 && last.toNat < 128
  | shorthand _ _ => true

/-- Whether the member is a negated shorthand, which holds every character outside ASCII. -/
def isNegated : ClassItem → Bool
  | shorthand _ negated => negated
  | _ => false

end ClassItem

/-- The characters one position can stand for. -/
inductive CharSet
  | single (c : Char)
  /-- A character above U+007F that is written as a byte. -/
  | byte (c : Char)
  /-- Every character but the line feed. -/
  | any
  | shorthand (kind : Shorthand) (negated : Bool)
  | oneOf (negated : Bool) (items : List ClassItem)
deriving DecidableEq, Repr

namespace CharSet

def mem (d : Dialect) (c : Char) : CharSet → Bool
  | single x => c == x
  | byte x => c == x
  | any => c != '\n'
  | shorthand kind negated => kind.mem d c != negated
  | oneOf negated items => (items.any fun item => item.mem d c) != negated

/-- In the ASCII dialect a set that could hold a lone byte above `0x7F` is refused, and so is a
class that names a character outside ASCII. -/
def fits : Dialect → CharSet → Bool
  | .unicode, _ => true
  | .ascii, single _ => true
  | .ascii, byte _ => false
  | .ascii, any => false
  | .ascii, shorthand _ negated => !negated
  | .ascii, oneOf negated items =>
    items.all ClassItem.isAscii && negated == items.any ClassItem.isNegated

end CharSet

end IntervalRegex
