import IntervalRegex.Token.Pattern

/-!
# Lists of tokens

Tokens with commas between them; blank characters around a token do not count. A list matches what
one of its tokens matches.
-/

namespace IntervalRegex.TokenList

/-- The tokens of a list, trimmed. -/
def tokens (list : String) : List String :=
  (list.toList.splitOn ',').map fun piece => String.ofList (Text.trim piece)

/-- The first token that fails decides. -/
def fragment (list : String) : Except PatternError Fragment :=
  if (tokens list).all (· == "") then .error (.emptyList list)
  else ((tokens list).mapM Token.compile).map Fragment.oneOf

def pattern (list : String) : Except PatternError String :=
  (fragment list).map fun fragment => String.ofList fragment.text

end IntervalRegex.TokenList
