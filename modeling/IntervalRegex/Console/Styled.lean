/-!
# Styled text

Text in which stretches are painted. Without colours only the text itself is shown.
-/

namespace IntervalRegex

inductive Styled
  | plain (text : String)
  /-- The body in the style with a numeric code. -/
  | painted (code : String) (body : Styled)
  | append (first second : Styled)
deriving DecidableEq, Repr

namespace Styled

instance : Append Styled := ⟨append⟩

instance : Coe String Styled := ⟨plain⟩

def opening (code : String) : List Char := '\x1b' :: '[' :: code.toList ++ ['m']

def reset : List Char := ['\x1b', '[', '0', 'm']

/-- Resumes the style after every reset inside a text. -/
def resume (style : List Char) : List Char → List Char
  | '\x1b' :: '[' :: '0' :: 'm' :: rest => reset ++ style ++ resume style rest
  | c :: rest => c :: resume style rest
  | [] => []

def chars (color : Bool) : Styled → List Char
  | plain text => text.toList
  | painted code body =>
    if color then opening code ++ resume (opening code) (body.chars color) ++ reset
    else body.chars color
  | append first second => first.chars color ++ second.chars color

def brightBlack (body : Styled) : Styled := painted "90" body

def brightGreen (body : Styled) : Styled := painted "92" body

def bold (body : Styled) : Styled := painted "1" body

def green (body : Styled) : Styled := painted "32" body

def red (body : Styled) : Styled := painted "31" body

end Styled

end IntervalRegex
