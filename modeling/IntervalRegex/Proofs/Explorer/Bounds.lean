import IntervalRegex.Proofs.Explorer.Session
import IntervalRegex.Proofs.NumberRange.Choice

/-!
# Intervals in the explorer

The bounds of an interval are two words that write integers of 64 bits. A line with such bounds
installs the matcher of the interval, whose verdict on an integer is the comparison with both bounds.
Any other argument of `range` leaves the session as it is.
-/

namespace IntervalRegex

open Text

namespace NumberRange

theorem exists_toInt {n : Int} (h : IsInt64 n) : ∃ word : Int64, word.toInt = n := by
  obtain ⟨hlo, hhi⟩ := h
  unfold minInt64 at hlo
  unfold maxInt64 at hhi
  exact ⟨Int64.ofInt n, Int64.toInt_ofInt_of_le (by omega) (by omega)⟩

/-- No integer is written as the empty text, which is all that the matcher of an empty interval
accepts. -/
theorem exists_ofInterval {min max : Int} (hmin : IsInt64 min) (hmax : IsInt64 max) :
    ∃ m, Matcher.ofInterval min max = .ok m ∧
      ∀ n : Int, m.accepts (toString n) = true ↔ min ≤ n ∧ n ≤ max := by
  obtain ⟨min, rfl⟩ := exists_toInt hmin
  obtain ⟨max, rfl⟩ := exists_toInt hmax
  obtain ⟨m, hcompile, haccepts⟩ := Fragment.exists_compile (fragment_toInt_closed min max).1
  refine ⟨m, hcompile, ?_⟩
  intro n
  rw [haccepts, mem_lang_fragment_toInt_iff, toString_eq_signedDecimal, String.toList_ofList]
  constructor
  · intro htext
    rcases htext with ⟨k, hlo, hhi, heq⟩ | ⟨-, hempty⟩
    · obtain rfl := signedDecimal_injective heq
      exact ⟨hlo, hhi⟩
    · exact absurd hempty (signedDecimal_ne_nil n)
  · intro hbetween
    exact .inl ⟨n, hbetween.1, hbetween.2, rfl⟩

end NumberRange

namespace Explorer

/-- Two words that write integers of 64 bits. -/
def AreBounds (argument : List Char) (min max : Int) : Prop :=
  ∃ first second, TwoWords argument first second ∧
    (Signed first min ∧ IsInt64 min) ∧ Signed second max ∧ IsInt64 max

theorem readBounds_eq_some_iff {argument : List Char} {min max : Int} :
    readBounds argument = some (min, max) ↔ AreBounds argument min max := by
  simp only [AreBounds, ← words_eq_pair_iff, ← readInt64_eq_some_iff]
  unfold readBounds
  constructor
  · intro hread
    split at hread
    · next first second hwords =>
      simp only [Option.bind_eq_bind, Option.bind_eq_some_iff, Option.pure_def, Option.some.injEq,
        Prod.mk.injEq] at hread
      obtain ⟨min, hmin, max, hmax, rfl, rfl⟩ := hread
      exact ⟨first, second, hwords, hmin, hmax⟩
    · cases hread
  · intro hbounds
    obtain ⟨first, second, hwords, hmin, hmax⟩ := hbounds
    simp only [hwords, hmin, hmax]
    rfl

section Steps

variable {options : Options} {session : Session} {argument : String} {min max : Int}

theorem readBounds_trim (argument : List Char) :
    readBounds (trim argument) = readBounds argument := by
  rw [readBounds, words_trim, readBounds]

theorem execute_range (argument : String) :
    execute options session ("range " ++ argument) =
      match readBounds argument.toList with
      | some (min, max) => .ofRun session (Compile.interval min max options)
      | none => .ofUsage session "usage: range min max" := by
  have hverb : HasVerb "range" ("range " ++ argument) (trim argument.toList) :=
    hasVerb_append (by decide) argument
  have hread : Request.read ("range " ++ argument) = .interval (trim argument.toList) :=
    Request.read_of_says (.interval hverb)
  rw [← readBounds_trim argument.toList]
  unfold execute
  exact hread ▸ rfl

theorem execute_range_of_bounds (h : AreBounds argument.toList min max) :
    execute options session ("range " ++ argument) =
      .ofRun session (Compile.interval min max options) := by
  rw [execute_range, readBounds_eq_some_iff.mpr h]

theorem execute_range_of_not_bounds (h : ¬ ∃ min max, AreBounds argument.toList min max) :
    execute options session ("range " ++ argument) =
      .ofUsage session "usage: range min max" := by
  have hbounds : readBounds argument.toList = none := by
    rw [Option.eq_none_iff_forall_ne_some]
    intro bounds hread
    exact h ⟨bounds.1, bounds.2, readBounds_eq_some_iff.mp hread⟩
  rw [execute_range, hbounds]

/-- A line with bounds installs a matcher that compares with them. -/
theorem exists_execute_range (h : AreBounds argument.toList min max) (options : Options)
    (session : Session) :
    ∃ m, (execute options session ("range " ++ argument)).outcome = .ok .compiled ∧
      (execute options session ("range " ++ argument)).session = some m ∧
      ∀ n : Int, m.accepts (toString n) = decide (min ≤ n ∧ n ≤ max) := by
  obtain ⟨-, -, -, ⟨-, hmin⟩, -, hmax⟩ := id h
  obtain ⟨m, hm, haccepts⟩ := NumberRange.exists_ofInterval hmin hmax
  have hresult := (Compile.result_interval_eq_ok_iff options).mpr hm
  rw [execute_range_of_bounds h, ofRun_of_ok hresult]
  refine ⟨m, rfl, rfl, ?_⟩
  intro n
  rw [Bool.eq_iff_iff, haccepts, decide_eq_true_eq]

theorem trim_toString (n : Int) : trim (toString n).toList = (toString n).toList := by
  apply trim_of_not_isBlank
  intro c hc
  rw [toString_eq_signedDecimal, String.toList_ofList] at hc
  rcases mem_signedDecimal hc with rfl | hdigit
  · rfl
  · exact Bool.eq_false_iff.mpr (Fragment.not_isBlank_of_isDigit hdigit)

theorem outcome_match_toString (m : Matcher) (n : Int) :
    (execute options (some m) ("match " ++ toString n)).outcome =
      .ok (.matched (m.accepts (toString n))) := by
  have hverb : HasVerb "match" ("match " ++ toString n) (trim (toString n).toList) :=
    hasVerb_append (by decide) (toString n)
  rw [execute_match hverb, trim_toString, String.ofList_toList]
  rfl

end Steps

/-- **`range` in the explorer.** The line compiles exactly if its argument is two words that write
integers of 64 bits, and then the next test of any integer tells whether it lies between the two. For
any other argument the answer is the usage, and what was installed before decides every test until
some line compiles. -/
theorem range_then_match (options : Options) (session : Session) (argument : String) :
    let step := execute options session ("range " ++ argument)
    (step.outcome = .ok .compiled ↔ ∃ min max, AreBounds argument.toList min max) ∧
    (∀ min max, AreBounds argument.toList min max → ∀ n : Int,
      (execute options step.session ("match " ++ toString n)).outcome =
        .ok (.matched (min ≤ n ∧ n ≤ max))) ∧
    ((¬ ∃ min max, AreBounds argument.toList min max) →
      step.outcome = .ok .usage ∧
      ∀ lines, (∀ entry ∈ transcript options step.session lines, entry.2 ≠ .ok .compiled) →
        sessionAfter options step.session lines = session ∧
        ∀ m, session = some m → ∀ line input, Tests line input →
          (execute options (sessionAfter options step.session lines) line).outcome =
            .ok (.matched (m.accepts (String.ofList input)))) := by
  intro step
  have husage (h : ¬ ∃ min max, AreBounds argument.toList min max) :
      step = .ofUsage session "usage: range min max" := execute_range_of_not_bounds h
  refine ⟨⟨?_, ?_⟩, ?_, ?_⟩
  · intro hcompiled
    by_contra hbounds
    rw [husage hbounds] at hcompiled
    cases hcompiled
  · intro hbounds
    obtain ⟨min, max, hbounds⟩ := hbounds
    obtain ⟨m, hcompiled, -, -⟩ := exists_execute_range hbounds options session
    exact hcompiled
  · intro min max hbounds n
    obtain ⟨m, -, hsession, haccepts⟩ := exists_execute_range hbounds options session
    rw [show step.session = some m from hsession, outcome_match_toString, haccepts]
  · intro hbounds
    have hsession : step.session = session := congrArg Step.session (husage hbounds)
    refine ⟨congrArg Step.outcome (husage hbounds), ?_⟩
    rw [hsession]
    intro lines hlines
    refine ⟨sessionAfter_eq_self hlines, ?_⟩
    rintro m rfl line input htests
    exact outcome_test_sessionAfter hlines htests

/-- Bounds may have a sign and leading zeros. A third word or a value of more than 64 bits is refused. -/
example : readBounds "\u2003+007 -0 ".toList = some (7, 0) ∧ readBounds "1 2 3".toList = none ∧
    readBounds "0 9223372036854775808".toList = none := by
  decide +kernel

end Explorer

end IntervalRegex
