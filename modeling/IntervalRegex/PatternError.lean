import IntervalRegex.Regex.Fault

/-!
# Refused input
-/

namespace IntervalRegex

/-- Why a text is not a pattern, with the text that was refused. -/
inductive PatternError
  | notToken (input : String)
  | missingBits (input : String)
  | incompleteStart (input : String)
  | outOfOrder (input : String)
  | emptyList (input : String)
  | notRegex (input : String) (cause : Regex.Error)
deriving DecidableEq, Repr

namespace PatternError

def input : PatternError → String
  | notToken input | missingBits input | incompleteStart input | outOfOrder input
  | emptyList input | notRegex input _ => input

/-- What is wrong with the input, before the input itself. -/
def reason : PatternError → String
  | notToken _ => "not a CIDR pattern: "
  | missingBits _ => "prefix length required unless full address provided: "
  | incompleteStart _ => "full start address required for address range: "
  | outOfOrder _ => "range must be in order: "
  | emptyList _ => "empty CIDR pattern list: "
  | notRegex _ _ => "invalid regular expression "

def message (e : PatternError) : String := e.reason ++ "'" ++ e.input ++ "'"

/-- The message of the error that lies behind this one. -/
def cause? : PatternError → Option String
  | notRegex _ cause => some cause.message
  | _ => none

end PatternError

end IntervalRegex
