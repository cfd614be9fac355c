import IntervalRegex.Regex.Reader
import IntervalRegex.Regex.Search
import IntervalRegex.Token.List

/-!
# Matchers

A matcher is a pattern made to match whole texts: the pattern is read between `^(?:` and `)$`, as one
expression. Which texts are expressions is for `Regex.read` to say.
-/

namespace IntervalRegex

structure Matcher where
  dialect : Dialect
  /-- The text that was read, with both anchors. -/
  source : String
  regex : Regex
deriving DecidableEq, Repr

/-- The pattern between its anchors. -/
def anchor (pattern : String) : String := "^(?:" ++ pattern ++ ")$"

namespace Matcher

/-- A pattern that is no regular expression, or that the dialect does not allow, is refused. -/
def compile (dialect : Dialect) (pattern : String) : Except PatternError Matcher :=
  let source := anchor pattern
  match Regex.read source.toList with
  | .error (fault, column) => .error (.notRegex pattern ⟨source, fault, column⟩)
  | .ok regex =>
    if regex.fits dialect then .ok ⟨dialect, source, regex⟩
    else .error (.notRegex pattern ⟨source, .notText, 0⟩)

/-- Whether the input contains a match of the anchored expression. -/
def accepts (matcher : Matcher) (input : String) : Bool :=
  matcher.regex.accepts matcher.dialect input.toList

/-- The matcher of the integers from `min` to `max`. -/
def ofInterval (min max : Int) : Except PatternError Matcher :=
  compile .ascii (NumberRange.pattern min max)

/-- The matcher of a list of tokens. -/
def ofTokens (list : String) : Except PatternError Matcher :=
  (TokenList.pattern list).bind (compile .ascii)

/-- Whether a list of tokens matches the input, where the matcher is used once. -/
def tokensAccept (list input : String) : Except PatternError Bool :=
  (ofTokens list).map fun matcher => matcher.accepts input

end Matcher

end IntervalRegex
