import IntervalRegex.Command.Program
import IntervalRegex.Proofs.Console.Filter

/-!
# Program output under every setting of severities and targets

Whatever the program reports as its output it reports at the severity `info`, which is where the
filter always shows it. So the setting decides on the lines between those of the output, and on
nothing else that a run leaves. Settings are those that the filter reads, lists of severities and of
targets, and texts that cannot be read as such.
-/

namespace IntervalRegex

def Event.IsOutput (e : Event) : Prop := e.target = .print

instance (e : Event) : Decidable e.IsOutput := inferInstanceAs (Decidable (e.target = .print))

/-- If the event is program output, then at the severity `info`. -/
def Event.OutputAtInfo (e : Event) : Prop := e.IsOutput → e.severity = .info

/-- Tells of a step while something is compiled, below the severity `info`. -/
structure Event.IsDetail (e : Event) : Prop where
  target : e.target ∈ [Target.interval, .token, .tokenList, .matcher]
  severity : e.severity.rank < Severity.info.rank

theorem Event.IsDetail.target_ne {e : Event} {target : Target} (h : e.IsDetail)
    (htarget : target ∉ [Target.interval, .token, .tokenList, .matcher]) : e.target ≠ target :=
  fun heq => htarget (heq ▸ h.target)

theorem Event.IsDetail.outputAtInfo {e : Event} (h : e.IsDetail) : e.OutputAtInfo :=
  fun houtput => absurd houtput (h.target_ne (by decide))

/-! ### Messages -/

namespace Message

theorem outputAtInfo_of_target_ne {e : Event} (h : e.target ≠ .print) : e.OutputAtInfo :=
  fun houtput => absurd houtput h

theorem outputAtInfo_print (message : Styled) : (print message).OutputAtInfo := fun _ => rfl

theorem outputAtInfo_header (title : String) (options : Options) :
    ∀ e ∈ header title options, e.OutputAtInfo := by
  unfold header
  split
  · exact List.forall_mem_nil _
  · exact List.forall_mem_singleton.mpr (outputAtInfo_print _)

theorem exists_pattern_eq_print (label shown : String) (options : Options) :
    ∃ message, pattern label shown options = print message := by
  unfold pattern
  dsimp only
  split <;> exact ⟨_, rfl⟩

theorem outputAtInfo_pattern (label shown : String) (options : Options) :
    (pattern label shown options).OutputAtInfo := by
  obtain ⟨message, hprint⟩ := exists_pattern_eq_print label shown options
  rw [hprint]
  exact outputAtInfo_print message

theorem outputAtInfo_verdict (input : String) (matched : Bool) :
    (verdict input matched).OutputAtInfo := by
  cases matched <;> exact outputAtInfo_of_target_ne (by simp [verdict])

theorem isDetail_compilingInterval (min max : Int) : (compilingInterval min max).IsDetail where
  target := List.mem_of_getElem? (i := 0) rfl
  severity := Nat.zero_lt_two

theorem isDetail_compilingToken (token : String) : (compilingToken token).IsDetail where
  target := List.mem_of_getElem? (i := 1) rfl
  severity := Nat.one_lt_two

theorem isDetail_compilingList (count : Nat) : (compilingList count).IsDetail where
  target := List.mem_of_getElem? (i := 2) rfl
  severity := Nat.one_lt_two

theorem isDetail_buildingMatcher (dialect : Dialect) (pattern : String) :
    (buildingMatcher dialect pattern).IsDetail where
  target := List.mem_of_getElem? (i := 3) rfl
  severity := Nat.one_lt_two

end Message

/-! ### Compiling -/

namespace Compile

open Message

theorem isDetail_matcher (dialect : Dialect) (pattern : String)
    (failure : PatternError → Failure) :
    ∀ e ∈ (matcher dialect pattern failure).events, e.IsDetail :=
  List.forall_mem_singleton.mpr (isDetail_buildingMatcher dialect pattern)

theorem outputAtInfo_interval (min max : Int) (options : Options) :
    ∀ e ∈ (interval min max options).events, e.OutputAtInfo := by
  have hwarning : ∀ e ∈ (if max < min then [emptyInterval min max] else []), e.OutputAtInfo := by
    split
    · exact List.forall_mem_singleton.mpr (outputAtInfo_of_target_ne nofun)
    · exact List.forall_mem_nil _
  unfold interval
  dsimp only
  rw [List.forall_mem_append, List.forall_mem_cons, List.forall_mem_cons]
  exact ⟨hwarning, (isDetail_compilingInterval min max).outputAtInfo,
    outputAtInfo_pattern _ _ options, fun e he => (isDetail_matcher _ _ _ e he).outputAtInfo⟩

theorem isDetail_tokenEvents (token : String) : ∀ e ∈ (tokenEvents token).1, e.IsDetail := by
  have hcompiling : (compilingToken token).IsDetail := isDetail_compilingToken token
  unfold tokenEvents
  dsimp only
  split
  · exact List.forall_mem_singleton.mpr hcompiling
  · rw [List.forall_mem_cons, List.forall_mem_map]
    exact ⟨hcompiling, fun bounds _ => isDetail_compilingInterval _ _⟩

theorem isDetail_tokensEvents (tokens : List String) :
    ∀ e ∈ tokensEvents tokens, e.IsDetail := by
  induction tokens with
  | nil => exact List.forall_mem_nil _
  | cons token tokens ih =>
    unfold tokensEvents
    dsimp only
    split
    · rw [List.forall_mem_append]
      exact ⟨isDetail_tokenEvents token, ih⟩
    · exact isDetail_tokenEvents token

theorem isDetail_listEvents (list : String) : ∀ e ∈ listEvents list, e.IsDetail := by
  unfold listEvents
  dsimp only
  split
  · exact List.forall_mem_nil _
  · rw [List.forall_mem_cons]
    exact ⟨isDetail_compilingList _, isDetail_tokensEvents _⟩

theorem exists_of_mem_coverage {list : String} {e : Event} (h : e ∈ coverage list) :
    ∃ token addresses, e = Message.coverage token addresses := by
  obtain ⟨token, -, hcovered⟩ := List.mem_filterMap.mp h
  split at hcovered
  · obtain ⟨addresses, -, rfl⟩ := Option.map_eq_some_iff.mp hcovered
    exact ⟨token, addresses, rfl⟩
  · cases hcovered

/-- A list reports its steps, then its coverage and its pattern. -/
theorem cases_of_mem_tokenList {list : String} {options : Options} {e : Event}
    (h : e ∈ (tokenList list options).events) :
    e.IsDetail ∨ (∃ token addresses, e = Message.coverage token addresses) ∨
      ∃ label shown, e = Message.pattern label shown options := by
  unfold tokenList at h
  split at h
  · exact .inl (isDetail_listEvents list e h)
  · dsimp only at h
    rw [List.mem_append, List.mem_append, List.mem_cons] at h
    rcases h with (hstep | hcovered) | rfl | hmatcher
    · exact .inl (isDetail_listEvents list e hstep)
    · split at hcovered
      · exact .inr (.inl (exists_of_mem_coverage hcovered))
      · cases hcovered
    · exact .inr (.inr ⟨_, _, rfl⟩)
    · exact .inl (isDetail_matcher _ _ _ e hmatcher)

theorem outputAtInfo_tokenList (list : String) (options : Options) :
    ∀ e ∈ (tokenList list options).events, e.OutputAtInfo := by
  intro e he
  rcases cases_of_mem_tokenList he with hdetail | ⟨token, addresses, rfl⟩ | ⟨label, shown, rfl⟩
  · exact hdetail.outputAtInfo
  · exact outputAtInfo_of_target_ne nofun
  · exact outputAtInfo_pattern label shown options

end Compile

/-! ### Sessions -/

namespace Explorer

open Message

theorem events_ofRun (session : Session) (run : Run Matcher) :
    (Step.ofRun session run).events = run.events := by
  unfold Step.ofRun
  cases run.result <;> rfl

theorem outputAtInfo_test (session : Session) (input : String) :
    ∀ e ∈ (test session input).events, e.OutputAtInfo := by
  cases session with
  | some m => exact List.forall_mem_singleton.mpr (outputAtInfo_verdict _ _)
  | none => exact List.forall_mem_singleton.mpr (outputAtInfo_of_target_ne nofun)

theorem outputAtInfo_ofUsage (session : Session) (text : String) :
    ∀ e ∈ (Step.ofUsage session text).events, e.OutputAtInfo :=
  List.forall_mem_singleton.mpr (outputAtInfo_print _)

theorem outputAtInfo_execute (options : Options) (session : Session) (line : String) :
    ∀ e ∈ (execute options session line).events, e.OutputAtInfo := by
  unfold execute
  cases Request.read line with
  | interval argument =>
    dsimp only
    split
    · rw [events_ofRun]
      exact Compile.outputAtInfo_interval _ _ options
    · exact outputAtInfo_ofUsage session _
  | list argument =>
    dsimp only
    rw [events_ofRun]
    exact Compile.outputAtInfo_tokenList _ options
  | regex argument =>
    dsimp only
    rw [events_ofRun]
    exact fun e he => (Compile.isDetail_matcher _ _ _ e he).outputAtInfo
  | test input => exact outputAtInfo_test session _
  | blank => exact outputAtInfo_ofUsage session usage
  | bare line =>
    dsimp only
    split
    · exact outputAtInfo_test session _
    · exact outputAtInfo_ofUsage session usage

theorem outputAtInfo_allEvents {step : Step} (h : ∀ e ∈ step.events, e.OutputAtInfo) :
    ∀ e ∈ step.allEvents, e.OutputAtInfo := by
  unfold Step.allEvents
  split
  · exact h
  · rw [List.forall_mem_append, List.forall_mem_singleton]
    exact ⟨h, outputAtInfo_of_target_ne nofun⟩

theorem outputAtInfo_runLines (options : Options) (session : Session) (lines : List String) :
    ∀ e ∈ runLines options session lines, e.OutputAtInfo := by
  induction lines generalizing session with
  | nil => exact List.forall_mem_nil _
  | cons line lines ih =>
    rw [runLines, List.forall_mem_append]
    exact ⟨outputAtInfo_allEvents (outputAtInfo_execute options session line), ih _⟩

theorem outputAtInfo_runInput (options : Options) (session : Session)
    (lines : List (List UInt8)) :
    ∀ e ∈ (runInput options session lines).events, e.OutputAtInfo := by
  induction lines generalizing session with
  | nil => exact List.forall_mem_nil _
  | cons bytes lines ih =>
    unfold runInput
    split
    · exact List.forall_mem_nil _
    · next line _ =>
      split
      · exact List.forall_mem_nil _
      · dsimp only
        rw [List.forall_mem_append]
        exact ⟨outputAtInfo_allEvents (outputAtInfo_execute options session line), ih _⟩

end Explorer

/-! ### The program -/

namespace Program

theorem outputAtInfo_test (tokens : String) (inputs : List String) (options : Options) :
    ∀ e ∈ (test tokens inputs options).events, e.OutputAtInfo := by
  have hcompiled := Compile.outputAtInfo_tokenList tokens options
  unfold test
  dsimp only
  split
  · exact hcompiled
  · rw [List.forall_mem_append, List.forall_mem_map]
    exact ⟨hcompiled, fun input _ => Message.outputAtInfo_verdict input _⟩

theorem outputAtInfo_explore (lines : List String) (input : List UInt8) (options : Options) :
    ∀ e ∈ (explore lines input options).events, e.OutputAtInfo := by
  unfold explore
  split
  · rw [List.forall_mem_cons]
    exact ⟨Message.outputAtInfo_print _, Explorer.outputAtInfo_runInput options none _⟩
  · exact Explorer.outputAtInfo_runLines options none lines

/-- **Output has one severity.** Whatever a run reports as program output it reports at `info`. -/
theorem outputAtInfo_run (invocation : Invocation) (input : List UInt8) :
    ∀ e ∈ (run invocation input).events, e.OutputAtInfo := by
  obtain ⟨command, options⟩ := invocation
  unfold run
  dsimp only
  rw [List.forall_mem_append]
  refine ⟨Message.outputAtInfo_header _ options, ?_⟩
  cases command with
  | range min max => exact Compile.outputAtInfo_interval min max options
  | list tokens => exact Compile.outputAtInfo_tokenList tokens options
  | test tokens inputs => exact outputAtInfo_test tokens inputs options
  | explore lines => exact outputAtInfo_explore lines input options

/-- The events that are written to the standard output, in order. -/
def written (setting : Option String) (args : List String) (input : List UInt8) : List Event :=
  match Arguments.read args with
  | .ok invocation => (run invocation input).events.filter (Filter.ofSetting setting).shows
  | .error _ => []

/-- What the arguments alone make the program write. -/
def preamble (args : List String) : String :=
  match Arguments.read args with
  | .error .help => Arguments.usage
  | .error .version => Arguments.version
  | _ => ""

def outputs (events : List Event) : List Event := events.filter Event.IsOutput

def lines (color : Bool) (events : List Event) : String :=
  String.ofList (events.flatMap (Event.line color))

variable {setting : Option String} {color : Bool} {args : List String} {input : List UInt8}

theorem output_ofArguments :
    (ofArguments setting color args input).output =
      preamble args ++ lines color (written setting args input) := by
  unfold ofArguments preamble written
  cases Arguments.read args with
  | ok invocation =>
    dsimp only [result]
    split <;> exact (String.empty_append ..).symm
  | error e =>
    have hnone : lines color [] = "" := rfl
    dsimp only
    rw [hnone, String.append_empty]
    cases e <;> rfl

theorem outputs_written {invocation : Invocation} (h : Arguments.read args = .ok invocation) :
    outputs (written setting args input) = outputs (run invocation input).events := by
  rw [written, h, outputs, outputs, List.filter_filter]
  apply List.filter_congr
  intro e he
  by_cases houtput : e.IsOutput
  · have hshown : (Filter.ofSetting setting).shows e = true :=
      Filter.shows_print houtput (outputAtInfo_run invocation input e he houtput)
    simp [houtput, hshown]
  · simp [houtput]

theorem outputs_written_congr (setting setting' : Option String) (args : List String)
    (input : List UInt8) :
    outputs (written setting args input) = outputs (written setting' args input) := by
  cases hread : Arguments.read args with
  | ok invocation => rw [outputs_written hread, outputs_written hread]
  | error e => simp only [written, hread]

theorem exit_and_error_congr (setting setting' : Option String) (color : Bool)
    (args : List String) (input : List UInt8) :
    (ofArguments setting color args input).exit = (ofArguments setting' color args input).exit ∧
      (ofArguments setting color args input).error =
        (ofArguments setting' color args input).error := by
  unfold ofArguments
  cases Arguments.read args with
  | ok invocation =>
    dsimp only [result]
    cases (run invocation input).result <;> exact ⟨rfl, rfl⟩
  | error e => cases e <;> exact ⟨rfl, rfl⟩

/-- **No setting of severities and targets touches program output.** Two runs on the same arguments
and input end alike and fail with the same text. What they write are the lines of their events, and
the program output among these is the same: all that the run reports, in its order. -/
theorem setting_keeps_output (setting setting' : Option String) (color : Bool)
    (args : List String) (input : List UInt8) :
    let result := ofArguments setting color args input
    let result' := ofArguments setting' color args input
    let events := written setting args input
    let events' := written setting' args input
    result.output = preamble args ++ lines color events ∧
      result'.output = preamble args ++ lines color events' ∧
      outputs events = outputs events' ∧
      (∀ invocation, Arguments.read args = .ok invocation →
        outputs events = outputs (run invocation input).events) ∧
      result.error = result'.error ∧ result.exit = result'.exit := by
  intro result result' events events'
  obtain ⟨hexit, herror⟩ := exit_and_error_congr setting setting' color args input
  exact ⟨output_ofArguments, output_ofArguments, outputs_written_congr setting setting' args input,
    fun _ hread => outputs_written hread, herror, hexit⟩

end Program

end IntervalRegex
