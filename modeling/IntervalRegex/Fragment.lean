import IntervalRegex.Text.Decimal

/-!
# Pattern fragments

The patterns that are generated use digits, `-`, `\.`, `\d`, `\d{n}`, classes of digits and groups of
alternatives. A fragment is such a pattern as a tree; its text never leaves a group open.
-/

namespace IntervalRegex

/-- Joins the texts of alternatives: none give the empty text, one is left as it is, several stand in
a group. -/
def alternate : List (List Char) → List Char
  | [] => []
  | [text] => text
  | texts => "(?:".toList ++ ['|'].intercalate texts ++ [')']

/-- Joins the texts of octets with literal dots. -/
def dotted (octets : List (List Char)) : List Char := ['\\', '.'].intercalate octets

inductive Fragment
  /-- Matches the empty text only. -/
  | nothing
  | digit (value : Nat)
  | minus
  | dot
  | anyDigit
  | anyDigits (count : Nat)
  /-- One of two digits. -/
  | pair (first second : Nat)
  /-- A digit between two, both included. -/
  | digits (first last : Nat)
  | seq (first second : Fragment)
  /-- Alternatives, which stand inside a group. -/
  | bar (left right : Fragment)
  | group (body : Fragment)
deriving DecidableEq, Repr

namespace Fragment

def text : Fragment → List Char
  | nothing => []
  | digit value => [value.digitChar]
  | minus => ['-']
  | dot => ['\\', '.']
  | anyDigit => ['\\', 'd']
  | anyDigits count => ['\\', 'd', '{'] ++ Text.decimal count ++ ['}']
  | pair first second => ['[', first.digitChar, second.digitChar, ']']
  | digits first last => ['[', first.digitChar, '-', last.digitChar, ']']
  | seq first second => first.text ++ second.text
  | bar left right => left.text ++ '|' :: right.text
  | group body => "(?:".toList ++ body.text ++ [')']

/-- The canonical decimal of a number, digit by digit. -/
def number (n : Nat) : Fragment :=
  if n < 10 then digit n else seq (number (n / 10)) (digit (n % 10))

/-- Alternatives side by side, of which there is at least one. -/
def bars (first : Fragment) : List Fragment → Fragment
  | [] => first
  | second :: rest => bar first (bars second rest)

/-- No alternatives match the empty text; a single one needs no group. -/
def oneOf : List Fragment → Fragment
  | [] => nothing
  | [fragment] => fragment
  | first :: second :: rest => group (bars first (second :: rest))

/-- Fragments with literal dots between them. -/
def dotSeparated : List Fragment → Fragment
  | [] => nothing
  | [fragment] => fragment
  | first :: second :: rest => seq first (seq dot (dotSeparated (second :: rest)))

theorem text_number (n : Nat) : (number n).text = Text.decimal n := by
  fun_induction number n with
  | case1 n h => simp [text, Text.decimal_of_lt h]
  | case2 n h ih => simp [text, ih, ← Text.decimal_of_le (Nat.not_lt.mp h)]

theorem text_bars (first : Fragment) (rest : List Fragment) :
    (bars first rest).text = ['|'].intercalate (first.text :: rest.map text) := by
  induction rest generalizing first with
  | nil => simp [bars, List.intercalate]
  | cons second rest ih => simp [bars, text, ih, List.intercalate]

theorem text_oneOf (fragments : List Fragment) :
    (oneOf fragments).text = alternate (fragments.map text) := by
  match fragments with
  | [] => rfl
  | [fragment] => rfl
  | first :: second :: rest => simp [oneOf, text, text_bars, alternate]

theorem text_dotSeparated (fragments : List Fragment) :
    (dotSeparated fragments).text = dotted (fragments.map text) := by
  fun_induction dotSeparated fragments with
  | case1 => rfl
  | case2 fragment => simp [dotted, List.intercalate]
  | case3 first second rest ih => simp [text, ih, dotted, List.intercalate]

end Fragment

end IntervalRegex
