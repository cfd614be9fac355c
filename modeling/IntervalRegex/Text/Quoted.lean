import IntervalRegex.Text.Printable

/-!
# Quoted text

Text between double quotes, in which quotes, backslashes and all that is not printable are escaped.
-/

namespace IntervalRegex.Text

/-- A code point in hexadecimal between braces. -/
def bracedHex (c : Char) : List Char :=
  "\\u\x7b".toList ++ Nat.toDigits 16 c.toNat ++ ['}']

def quoteChar (c : Char) : List Char :=
  match c with
  | '\x00' => ['\\', '0']
  | '\t' => ['\\', 't']
  | '\n' => ['\\', 'n']
  | '\r' => ['\\', 'r']
  | '"' => ['\\', '"']
  | '\\' => ['\\', '\\']
  | c => if isPrintable c then [c] else bracedHex c

def quote (cs : List Char) : List Char := '"' :: cs.flatMap quoteChar ++ ['"']

end IntervalRegex.Text
