import IntervalRegex.Proofs.Command.Shown
import IntervalRegex.Proofs.Generated

/-!
# Testing inputs

A run on a list compiles it once and then tests input after input. Each verdict is the one that the
list alone gives on that input, and a list that has no pattern is refused before anything is shown.
-/

namespace IntervalRegex

def Event.IsVerdict (e : Event) : Prop := e.target = .success ∨ e.target = .verdict

instance (e : Event) : Decidable e.IsVerdict :=
  inferInstanceAs (Decidable (e.target = .success ∨ e.target = .verdict))

theorem Event.IsDetail.not_isVerdict {e : Event} (h : e.IsDetail) : ¬ e.IsVerdict :=
  not_or.mpr ⟨h.target_ne (by decide), h.target_ne (by decide)⟩

namespace Message

theorem isVerdict_verdict (input : String) (matched : Bool) : (verdict input matched).IsVerdict := by
  cases matched
  · exact .inr rfl
  · exact .inl rfl

theorem verdict_eq_iff {input : String} {matched matched' : Bool} :
    verdict input matched = verdict input matched' ↔ matched = matched' := by
  refine ⟨fun h => ?_, congrArg (verdict input)⟩
  have hseverity := congrArg Event.severity h
  cases matched <;> cases matched' <;> first | rfl | cases hseverity

theorem not_isVerdict_pattern (label shown : String) (options : Options) :
    ¬ (pattern label shown options).IsVerdict := by
  obtain ⟨message, hprint⟩ := exists_pattern_eq_print label shown options
  rw [hprint]
  exact (by decide : ¬ (Target.print = .success ∨ Target.print = .verdict))

end Message

namespace Compile

theorem tokenList_of_error {list : String} {cause : PatternError}
    (h : TokenList.pattern list = .error cause) (options : Options) :
    tokenList list options = ⟨listEvents list, .error (.list list cause)⟩ := by
  rw [tokenList, h]

theorem not_isVerdict_tokenList (list : String) (options : Options) :
    ∀ e ∈ (tokenList list options).events, ¬ e.IsVerdict := by
  intro e he
  rcases cases_of_mem_tokenList he with hdetail | ⟨token, addresses, rfl⟩ | ⟨label, shown, rfl⟩
  · exact hdetail.not_isVerdict
  · exact (by decide : ¬ (Target.listCommand = .success ∨ Target.listCommand = .verdict))
  · exact Message.not_isVerdict_pattern label shown options

end Compile

namespace Program

/-- The event is the verdict on the input, as the list alone gives it. -/
structure Reports (tokens input : String) (e : Event) : Prop where
  verdict : ∃ matched, e = Message.verdict input matched
  success : e = Message.verdict input true ↔ Matcher.tokensAccept tokens input = .ok true
  failed : e = Message.verdict input false ↔ Matcher.tokensAccept tokens input = .ok false

def verdicts (m : Matcher) (inputs : List String) : List Event :=
  inputs.map fun input => Message.verdict input (m.accepts input)

section Tests

variable {tokens pattern : String} {m : Matcher} {cause : PatternError} {color : Bool}
  {inputs : List String} {options : Options} {input : List UInt8}

theorem reports_verdicts (h : Matcher.ofTokens tokens = .ok m) (inputs : List String) :
    List.Forall₂ (Reports tokens) inputs (verdicts m inputs) := by
  rw [verdicts, List.forall₂_map_right_iff, List.forall₂_same]
  intro input _
  have haccept : Matcher.tokensAccept tokens input = .ok (m.accepts input) := by
    rw [Matcher.tokensAccept, h]
    rfl
  constructor
  · exact ⟨m.accepts input, rfl⟩
  · rw [Message.verdict_eq_iff, haccept, Except.ok.injEq]
  · rw [Message.verdict_eq_iff, haccept, Except.ok.injEq]

theorem isVerdict_verdicts : ∀ e ∈ verdicts m inputs, e.IsVerdict :=
  List.forall_mem_map.mpr fun input _ => Message.isVerdict_verdict input (m.accepts input)

/-! ### A list with a pattern -/

/-- It also has a matcher. -/
theorem exists_ofTokens (h : TokenList.pattern tokens = .ok pattern) :
    ∃ m, Matcher.ofTokens tokens = .ok m := by
  obtain ⟨m, hm⟩ := (Generated.list h).exists_compile .ascii
  refine ⟨m, ?_⟩
  rw [Matcher.ofTokens, h]
  exact hm

theorem test_of_matcher (h : Matcher.ofTokens tokens = .ok m) :
    test tokens inputs options =
      ⟨(Compile.tokenList tokens options).events ++ verdicts m inputs, .ok ()⟩ := by
  have hcompiled := (Compile.result_tokenList_eq_ok_iff options).mpr h
  simp only [test, hcompiled, verdicts]

theorem filter_isVerdict_test (h : Matcher.ofTokens tokens = .ok m) :
    (test tokens inputs options).events.filter Event.IsVerdict = verdicts m inputs := by
  have hcompiling : (Compile.tokenList tokens options).events.filter Event.IsVerdict = [] := by
    rw [List.filter_eq_nil_iff]
    intro e he
    simpa using Compile.not_isVerdict_tokenList tokens options e he
  have hverdicts : (verdicts m inputs).filter Event.IsVerdict = verdicts m inputs := by
    rw [List.filter_eq_self]
    intro e he
    simpa using isVerdict_verdicts e he
  rw [test_of_matcher h, List.filter_append, hcompiling, hverdicts, List.nil_append]

theorem result_test_of_matcher (h : TokenList.pattern tokens = .ok pattern)
    (hm : Matcher.ofTokens tokens = .ok m) :
    result none color ⟨.test tokens inputs, options⟩ input =
      ⟨0, lines color (Message.header "matching inputs" options ++
        (if options.quiet = 0 then Compile.coverage tokens else []) ++
        [Message.pattern ("cidr [" ++ tokens ++ "]") pattern options] ++ verdicts m inputs), ""⟩ := by
  rw [result_test_ok hm, output_unset, shown_append, shown_beforeVerdicts h, shown_verdicts, verdicts]

/-! ### A list without a pattern -/

theorem test_of_error (h : TokenList.pattern tokens = .error cause) :
    test tokens inputs options = ⟨Compile.listEvents tokens, .error (.list tokens cause)⟩ := by
  simp only [test, Compile.tokenList_of_error h]

theorem result_test_of_error (h : TokenList.pattern tokens = .error cause) :
    result none color ⟨.test tokens inputs, options⟩ input =
      ⟨1, lines color (Message.header "matching inputs" options),
        (Failure.list tokens cause).report⟩ := by
  set header := Message.header "matching inputs" options
  have hshown : shown (header ++ Compile.listEvents tokens) = header := by
    rw [shown_append, shown_header, shown_eq_nil (Compile.isDetail_listEvents tokens),
      List.append_nil]
  have hdone : result none color ⟨.test tokens inputs, options⟩ input =
      ⟨1, lines color (shown (header ++ Compile.listEvents tokens)),
        (Failure.list tokens cause).report⟩ := by
    simp only [result, run, test_of_error h]
    rfl
  rw [hdone, hshown]

end Tests

/-- **A verdict for each input.** A list without a pattern makes the run fail with its error, and
neither a pattern nor coverage nor a verdict is reported. Any other list makes it succeed, and its
verdicts are those of the inputs, in their order, each the one that the list alone gives. Without a
setting they are shown behind the coverage and the pattern. -/
theorem test_reports_each_input (tokens : String) (inputs : List String) (options : Options)
    (color : Bool) (input : List UInt8) :
    let tested := test tokens inputs options
    let done := result none color ⟨.test tokens inputs, options⟩ input
    let header := Message.header "matching inputs" options
    match TokenList.pattern tokens with
    | .error cause =>
      tested.result = .error (.list tokens cause) ∧
        (∀ e ∈ tested.events, ¬ e.IsOutput ∧ e.target ≠ .listCommand ∧ ¬ e.IsVerdict) ∧
        done = ⟨1, lines color header, (Failure.list tokens cause).report⟩
    | .ok pattern =>
      tested.result = .ok () ∧ ∃ reported,
        List.Forall₂ (Reports tokens) inputs reported ∧
        tested.events.filter Event.IsVerdict = reported ∧
        done = ⟨0, lines color (header ++
          (if options.quiet = 0 then Compile.coverage tokens else []) ++
          [Message.pattern ("cidr [" ++ tokens ++ "]") pattern options] ++ reported), ""⟩ := by
  intro tested done header
  cases hpattern : TokenList.pattern tokens with
  | error cause =>
    have htested : tested = ⟨Compile.listEvents tokens, .error (.list tokens cause)⟩ :=
      test_of_error hpattern
    dsimp only
    rw [htested]
    refine ⟨rfl, ?_, result_test_of_error hpattern⟩
    intro e he
    have hdetail := Compile.isDetail_listEvents tokens e he
    exact ⟨hdetail.target_ne (by decide), hdetail.target_ne (by decide), hdetail.not_isVerdict⟩
  | ok pattern =>
    obtain ⟨m, hm⟩ := exists_ofTokens hpattern
    exact ⟨congrArg Run.result (test_of_matcher hm), verdicts m inputs, reports_verdicts hm inputs,
      filter_isVerdict_test hm, result_test_of_matcher hpattern hm⟩

end Program

end IntervalRegex
