import IntervalRegex.Command.Failure
import IntervalRegex.Console.Message
import IntervalRegex.Token.Intervals

/-!
# Compiling with a report

What the program reports while it compiles an interval or a list of tokens and shows the pattern.
-/

namespace IntervalRegex

/-- The events of a run, and what came of it. -/
structure Run (α : Type) where
  events : List Event
  result : Except Failure α

namespace Compile

/-- Builds the matcher of a pattern. -/
def matcher (dialect : Dialect) (pattern : String) (failure : PatternError → Failure) :
    Run Matcher :=
  ⟨[Message.buildingMatcher dialect pattern], (Matcher.compile dialect pattern).mapError failure⟩

/-- Shows the pattern of an interval and gives its matcher; an empty interval is warned of. -/
def interval (min max : Int) (options : Options) : Run Matcher :=
  let pattern := NumberRange.pattern min max
  let built := matcher .ascii pattern Failure.matcher
  let warning := if max < min then [Message.emptyInterval min max] else []
  let shown := Message.pattern (Message.intervalText min max) pattern options
  { built with events := warning ++ Message.compilingInterval min max :: shown :: built.events }

/-- The events of a token, and whether it has a pattern. -/
def tokenEvents (token : String) : List Event × Bool :=
  let intervals (t : Token) : List Event :=
    t.intervals.map fun (lo, hi) => Message.compilingInterval lo hi
  match Token.read token with
  | .error _ => ([Message.compilingToken token], false)
  | .ok t => (Message.compilingToken token :: intervals t, t.pattern.isOk)

/-- The events of tokens up to the first that fails. -/
def tokensEvents : List String → List Event
  | [] => []
  | token :: tokens =>
    let (events, ok) := tokenEvents token
    if ok then events ++ tokensEvents tokens else events

def listEvents (list : String) : List Event :=
  let tokens := TokenList.tokens list
  if tokens.all (· == "") then [] else Message.compilingList tokens.length :: tokensEvents tokens

/-- The addresses behind each token that covers contiguous ones. -/
def coverage (list : String) : List Event :=
  (TokenList.tokens list).filterMap fun token =>
    match Token.read token with
    | .ok t => t.addresses.map (Message.coverage token)
    | .error _ => none

/-- Shows the pattern of a list and gives its matcher. -/
def tokenList (list : String) (options : Options) : Run Matcher :=
  match TokenList.pattern list with
  | .error cause => ⟨listEvents list, .error (.list list cause)⟩
  | .ok pattern =>
    let built := matcher .ascii pattern Failure.matcher
    let covered := if options.quiet = 0 then coverage list else []
    let shown := Message.pattern ("cidr [" ++ list ++ "]") pattern options
    { built with events := listEvents list ++ covered ++ shown :: built.events }

theorem result_matcher_eq_ok_iff {dialect : Dialect} {pattern : String}
    (failure : PatternError → Failure) {m : Matcher} :
    (matcher dialect pattern failure).result = .ok m ↔ Matcher.compile dialect pattern = .ok m := by
  unfold matcher
  constructor
  · intro h
    cases hcompile : Matcher.compile dialect pattern with
    | error cause =>
      rw [hcompile] at h
      cases h
    | ok compiled =>
      rw [hcompile] at h
      cases h
      rfl
  · intro h
    rw [h]
    rfl

theorem result_interval_eq_ok_iff {min max : Int} (options : Options) {m : Matcher} :
    (interval min max options).result = .ok m ↔ Matcher.ofInterval min max = .ok m :=
  result_matcher_eq_ok_iff Failure.matcher

theorem result_tokenList_eq_ok_iff {list : String} (options : Options) {m : Matcher} :
    (tokenList list options).result = .ok m ↔ Matcher.ofTokens list = .ok m := by
  unfold tokenList Matcher.ofTokens
  cases TokenList.pattern list with
  | error cause => simp [Except.bind]
  | ok pattern => exact result_matcher_eq_ok_iff Failure.matcher

end Compile

end IntervalRegex
