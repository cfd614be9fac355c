import IntervalRegex.Proofs.Command.Output
import IntervalRegex.Proofs.Explorer.Input

/-!
# Which verdicts are written

Verdicts are no program output: an input that matches is reported as a success, and one that does not
as a warning of the terminal. So a setting of severities and targets decides on either kind, and can
hide both.
-/

namespace IntervalRegex.Program

/-- Whether a setting lets the verdicts of a kind through. -/
def AdmitsVerdict (setting : Option String) : Bool → Prop
  | true => Filter.Admits setting .success .info
  | false => Filter.Admits setting .verdict .warn

/-- What a run reports before its verdicts. -/
def beforeVerdicts (tokens : String) (options : Options) : List Event :=
  Message.header "matching inputs" options ++ (Compile.tokenList tokens options).events

section Verdicts

variable {setting : Option String} {color : Bool} {tokens : String} {inputs : List String}
  {options : Options} {input : List UInt8}

theorem shows_verdict_iff (text : String) (matched : Bool) :
    (Filter.ofSetting setting).shows (Message.verdict text matched) = true ↔
      AdmitsVerdict setting matched := by
  cases matched <;> exact Filter.shows_ofSetting_iff nofun

instance (setting : Option String) (matched : Bool) : Decidable (AdmitsVerdict setting matched) :=
  decidable_of_iff _ (shows_verdict_iff "" matched)

theorem admitsVerdict_of_unread (h : setting.bind Filter.read = none) (matched : Bool) :
    AdmitsVerdict setting matched := by
  cases matched <;> simp [AdmitsVerdict, Filter.Admits, h, Severity.rank]

theorem output_verdicts (verdict : String → Bool) (inputs : List String) :
    (Filter.ofSetting setting).output color
        (inputs.map fun text => Message.verdict text (verdict text)) =
      lines color ((inputs.filter fun text => AdmitsVerdict setting (verdict text)).map
        fun text => Message.verdict text (verdict text)) := by
  have hshown : (inputs.map fun text => Message.verdict text (verdict text)).filter
        (Filter.ofSetting setting).shows =
      (inputs.filter fun text => AdmitsVerdict setting (verdict text)).map
        fun text => Message.verdict text (verdict text) := by
    rw [List.filter_map]
    congr 1
    apply List.filter_congr
    intro text _
    rw [Bool.eq_iff_iff, decide_eq_true_eq]
    exact shows_verdict_iff text (verdict text)
  rw [Filter.output, hshown, lines]

theorem result_test_ok {m : Matcher} (h : Matcher.ofTokens tokens = .ok m) :
    result setting color ⟨.test tokens inputs, options⟩ input =
      ⟨0, (Filter.ofSetting setting).output color (beforeVerdicts tokens options ++
        inputs.map fun text => Message.verdict text (m.accepts text)), ""⟩ := by
  have hcompiled := (Compile.result_tokenList_eq_ok_iff options).mpr h
  simp only [result, run, test, hcompiled, beforeVerdicts, title, List.append_assoc]

theorem result_test_error {e : PatternError} (h : Matcher.ofTokens tokens = .error e) :
    (result setting color ⟨.test tokens inputs, options⟩ input).exit = 1 ∧
      (result setting color ⟨.test tokens inputs, options⟩ input).output =
        (Filter.ofSetting setting).output color (beforeVerdicts tokens options) := by
  cases hcompiled : (Compile.tokenList tokens options).result with
  | ok m =>
    rw [(Compile.result_tokenList_eq_ok_iff options).mp hcompiled] at h
    cases h
  | error failure =>
    simp only [result, run, test, hcompiled, beforeVerdicts, title, and_self]

end Verdicts

/-- **Verdicts under a setting of severities and targets.** Behind all else that a run on a list
writes, it writes the verdicts of those inputs, in their order, whose kind the setting lets through,
and it succeeds. A setting that cannot be read as such lets all verdicts through. Without a matcher
there is no verdict. -/
theorem verdicts_written (setting : Option String) (color : Bool) (tokens : String)
    (inputs : List String) (options : Options) (input : List UInt8) :
    let result := result setting color ⟨.test tokens inputs, options⟩ input
    let front := (Filter.ofSetting setting).output color (beforeVerdicts tokens options)
    (setting.bind Filter.read = none → ∀ matched, AdmitsVerdict setting matched) ∧
    match Matcher.ofTokens tokens with
    | .ok m => result = ⟨0, front ++ lines color
        ((inputs.filter fun text => AdmitsVerdict setting (m.accepts text)).map
          fun text => Message.verdict text (m.accepts text)), ""⟩
    | .error _ => result.exit = 1 ∧ result.output = front := by
  intro result front
  refine ⟨admitsVerdict_of_unread, ?_⟩
  cases hcompile : Matcher.ofTokens tokens with
  | ok m =>
    dsimp only
    rw [← output_verdicts, ← Explorer.output_append]
    exact result_test_ok hcompile
  | error e => exact result_test_error hcompile

/-- One input matches and the other does not. Where only errors are shown neither verdict is
written, but the pattern is. -/
theorem verdicts_hidden :
    (Matcher.ofTokens "10.0.0.1").map (fun m => (m.accepts "10.0.0.1", m.accepts "10.0.0.2")) =
        .ok (true, false) ∧
      ofArguments (some "error") false ["-qq", "match", "10.0.0.1", "10.0.0.1", "10.0.0.2"] [] =
        ⟨0, "10\\.0\\.0\\.1\n", ""⟩ := by
  decide +kernel

end IntervalRegex.Program
