import IntervalRegex.PatternError
import IntervalRegex.Text.Blank
import IntervalRegex.Token.Basic

/-!
# Reading tokens

    token := quad | quad '/' bits | quad '-' address
    quad  := one to four fields with dots between them
    field := '*' | a canonical decimal up to 255
    bits  := a canonical decimal from 1 to 32
-/

namespace IntervalRegex

def Field.read (cs : List Char) : Option Field :=
  if cs = ['*'] then some .wildcard
  else (Text.readDecimal 255 cs).map fun n => .octet (Octet.ofNat n)

/-- One to four fields. -/
def readFields (cs : List Char) : Option (List Field) :=
  ((cs.splitOn '.').mapM Field.read).filter fun fields => fields.length ≤ 4

def readBits (cs : List Char) : Option Nat := (Text.readDecimal 32 cs).filter fun n => n != 0

/-- Four octets. -/
def fullAddress? : List Field → Option Address
  | [.octet a, .octet b, .octet c, .octet d] => some ⟨a, b, c, d⟩
  | _ => none

def Address.read (cs : List Char) : Option Address := (readFields cs).bind fullAddress?

namespace Token

/-- Reads `start-end`. A text that is no pair of quads is refused before a start that is no address. -/
def readRange (input : String) (start stop : List Char) : Except PatternError Token :=
  match readFields start, Address.read stop with
  | some fields, some last =>
    match fullAddress? fields with
    | some first => .ok (.range ⟨first, last⟩)
    | none => .error (.incompleteStart input)
  | _, _ => .error (.notToken input)

/-- Missing fields count as zero. -/
def ofFields (fields : List Field) (bits : Nat) : Token :=
  .block (Quad.ofListD (.octet (Octet.ofNat 0)) fields) bits

def read (input : String) : Except PatternError Token :=
  let cs := input.toList
  match Text.cut '-' cs with
  | some (start, stop) => readRange input start stop
  | none =>
    match Text.cut '/' cs with
    | some (quad, bits) =>
      match readFields quad, readBits bits with
      | some fields, some bits => .ok (ofFields fields bits)
      | _, _ => .error (.notToken input)
    | none =>
      match readFields cs with
      | some fields =>
        if fields.length = 4 then .ok (ofFields fields 32) else .error (.missingBits input)
      | none => .error (.notToken input)

end Token

end IntervalRegex
