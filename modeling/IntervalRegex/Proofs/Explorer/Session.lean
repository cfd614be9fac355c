import IntervalRegex.Proofs.Explorer.Request
import IntervalRegex.Proofs.Matcher

/-!
# Sessions of the explorer

The installed matcher is always the one of the last line that compiled. A line that compiles nothing
leaves it in place, and what is tested is tested against it.
-/

namespace IntervalRegex.Explorer

/-- What a line compiles, when it compiles anything. -/
inductive Compiles (line : String) (m : Matcher) : Prop
  | range {argument : List Char} {min max : Int} (hverb : HasVerb "range" line argument)
    (hbounds : readBounds argument = some (min, max)) (hm : Matcher.ofInterval min max = .ok m)
  | cidr {argument : List Char} (hverb : HasVerb "cidr" line argument)
    (hm : Matcher.ofTokens (String.ofList argument) = .ok m)
  | pattern {argument : List Char} (hverb : HasVerb "pattern" line argument)
    (hm : Matcher.compile .unicode (String.ofList argument) = .ok m)

theorem Compiles.unique {line : String} {m n : Matcher} (hm : Compiles line m)
    (hn : Compiles line n) : m = n := by
  cases hm with
  | range hverb hbounds hm =>
    cases hn with
    | range hverb' hbounds' hn =>
      obtain ⟨-, rfl⟩ := hverb.unique hverb'
      cases hbounds.symm.trans hbounds'
      exact Except.ok.inj (hm.symm.trans hn)
    | cidr hverb' | pattern hverb' => exact absurd (hverb.unique hverb').1 (by decide)
  | cidr hverb hm =>
    cases hn with
    | cidr hverb' hn =>
      obtain ⟨-, rfl⟩ := hverb.unique hverb'
      exact Except.ok.inj (hm.symm.trans hn)
    | range hverb' | pattern hverb' => exact absurd (hverb.unique hverb').1 (by decide)
  | pattern hverb hm =>
    cases hn with
    | pattern hverb' hn =>
      obtain ⟨-, rfl⟩ := hverb.unique hverb'
      exact Except.ok.inj (hm.symm.trans hn)
    | range hverb' | cidr hverb' => exact absurd (hverb.unique hverb').1 (by decide)

/-- What a line puts to the test: what follows `match`, or a whole line that begins with no verb. -/
def Tests (line : String) (input : List Char) : Prop :=
  HasVerb "match" line input ∨ IsBare line ∧ input = Text.trim line.toList

/-- How a line is answered and what is installed then. -/
inductive Answers (session : Session) (line : String) : Except Failure Outcome → Session → Prop
  | compiled {m : Matcher} (h : Compiles line m) : Answers session line (.ok .compiled) (some m)
  | failed (failure : Failure) : Answers session line (.error failure) session
  | usage : Answers session line (.ok .usage) session
  | matched {m : Matcher} {input : List Char} (hset : session = some m) (h : Tests line input) :
    Answers session line (.ok (.matched (m.accepts (String.ofList input)))) session
  | noPattern {input : List Char} (hset : session = none) (h : HasVerb "match" line input) :
    Answers session line (.ok .noPattern) session

section Step

variable {options : Options} {session next : Session} {line : String}
  {outcome : Except Failure Outcome}

theorem Answers.compiles (h : Answers session line (.ok .compiled) next) :
    ∃ m, Compiles line m ∧ next = some m := by
  cases h with
  | compiled hm => exact ⟨_, hm, rfl⟩

theorem Answers.keeps (h : Answers session line outcome next) (hne : outcome ≠ .ok .compiled) :
    next = session := by
  cases h with
  | compiled => exact absurd rfl hne
  | failed | usage | matched | noPattern => rfl

theorem answers_ofRun {run : Run Matcher} (h : ∀ m, run.result = .ok m → Compiles line m) :
    Answers session line (Step.ofRun session run).outcome (Step.ofRun session run).session := by
  unfold Step.ofRun
  cases hresult : run.result with
  | ok m => exact .compiled (h m hresult)
  | error failure => exact .failed failure

theorem answers_test {input : List Char} (h : HasVerb "match" line input) :
    Answers session line (test session (String.ofList input)).outcome
      (test session (String.ofList input)).session := by
  cases session with
  | some m => exact .matched rfl (.inl h)
  | none => exact .noPattern rfl h

theorem answers_execute (options : Options) (session : Session) (line : String) :
    Answers session line (execute options session line).outcome
      (execute options session line).session := by
  have hread := Request.says_read line
  unfold execute
  generalize Request.read line = request at hread
  cases hread with
  | interval hverb =>
    next argument =>
    cases hbounds : readBounds argument with
    | none =>
      simp only [hbounds]
      exact .usage
    | some bounds =>
      simp only [hbounds]
      exact answers_ofRun fun m hm =>
        .range hverb hbounds ((Compile.result_interval_eq_ok_iff options).mp hm)
  | list hverb =>
    exact answers_ofRun fun m hm => .cidr hverb ((Compile.result_tokenList_eq_ok_iff options).mp hm)
  | regex hverb =>
    exact answers_ofRun fun m hm => .pattern hverb ((Compile.result_matcher_eq_ok_iff _).mp hm)
  | test hverb => exact answers_test hverb
  | bare hbare =>
    cases session with
    | some m => exact .matched rfl (.inr ⟨hbare, rfl⟩)
    | none => exact .usage
  | blank => exact .usage

theorem answers_of_outcome (h : (execute options session line).outcome = outcome) :
    Answers session line outcome (execute options session line).session := by
  rw [← h]
  exact answers_execute options session line

theorem Answers.tests {verdict : Bool} (h : Answers session line (.ok (.matched verdict)) next) :
    ∃ m input, session = some m ∧ Tests line input ∧
      verdict = m.accepts (String.ofList input) := by
  cases h with
  | matched hset htests => exact ⟨_, _, hset, htests, rfl⟩

theorem Answers.hasVerb_match (h : Answers session line (.ok .noPattern) next) :
    session = none ∧ ∃ input, HasVerb "match" line input := by
  cases h with
  | noPattern hset hverb => exact ⟨hset, _, hverb⟩

theorem ofRun_of_ok {run : Run Matcher} {m : Matcher} (h : run.result = .ok m) :
    Step.ofRun session run = ⟨run.events, .ok .compiled, some m⟩ := by
  rw [Step.ofRun, h]

theorem outcome_eq_compiled_iff :
    (execute options session line).outcome = .ok .compiled ↔ ∃ m, Compiles line m := by
  constructor
  · intro houtcome
    obtain ⟨m, hm, -⟩ := (answers_of_outcome houtcome).compiles
    exact ⟨m, hm⟩
  · intro hcompiles
    obtain ⟨m, hm⟩ := hcompiles
    cases hm with
    | range hverb hbounds hm =>
      have hresult := (Compile.result_interval_eq_ok_iff options).mpr hm
      simp only [execute, Request.read_of_says (.interval hverb), hbounds, ofRun_of_ok hresult]
    | cidr hverb hm =>
      have hresult := (Compile.result_tokenList_eq_ok_iff options).mpr hm
      simp only [execute, Request.read_of_says (.list hverb), ofRun_of_ok hresult]
    | @pattern argument hverb hm =>
      have hresult :=
        (Compile.result_matcher_eq_ok_iff (Failure.regex (String.ofList argument))).mpr hm
      simp only [execute, Request.read_of_says (.regex hverb), ofRun_of_ok hresult]

theorem execute_match {input : List Char} (h : HasVerb "match" line input) :
    execute options session line = test session (String.ofList input) := by
  rw [execute, Request.read_of_says (.test h)]

theorem execute_of_tests {m : Matcher} {input : List Char} (h : Tests line input) :
    execute options (some m) line = test (some m) (String.ofList input) := by
  rcases h with hverb | ⟨hbare, rfl⟩
  · exact execute_match hverb
  · rw [execute, Request.read_of_says (.bare hbare)]
    rfl

theorem outcome_eq_matched_iff {verdict : Bool} :
    (execute options session line).outcome = .ok (.matched verdict) ↔
      ∃ m input, session = some m ∧ Tests line input ∧
        verdict = m.accepts (String.ofList input) ∧
        ∀ r : Regex, m.regex = r.anchored →
          (verdict = true ↔ r.Matches m.dialect input 0 input.length) := by
  constructor
  · intro houtcome
    obtain ⟨m, input, hset, htests, rfl⟩ := (answers_of_outcome houtcome).tests
    refine ⟨m, input, hset, htests, rfl, fun r hr => ?_⟩
    rw [Matcher.accepts_iff_of_anchored hr, String.toList_ofList]
  · intro htested
    obtain ⟨m, input, rfl, htests, rfl, -⟩ := htested
    rw [execute_of_tests htests]
    rfl

theorem outcome_eq_noPattern_iff :
    (execute options session line).outcome = .ok .noPattern ↔
      session = none ∧ ∃ input, HasVerb "match" line input := by
  constructor
  · intro houtcome
    exact (answers_of_outcome houtcome).hasVerb_match
  · intro hverb
    obtain ⟨rfl, input, hinput⟩ := hverb
    rw [execute_match hinput]
    rfl

end Step

def sessionAfter (options : Options) (session : Session) (lines : List String) : Session :=
  lines.foldl (fun session line => (execute options session line).session) session

def transcript (options : Options) :
    Session → List String → List (String × Except Failure Outcome)
  | _, [] => []
  | session, line :: lines =>
    let step := execute options session line
    (line, step.outcome) :: transcript options step.session lines

/-- The line compiled, and none behind it did. -/
def LastCompiled (entries : List (String × Except Failure Outcome)) (line : String) : Prop :=
  ∃ before after, entries = before ++ (line, .ok .compiled) :: after ∧
    ∀ entry ∈ after, entry.2 ≠ .ok .compiled

section Runs

variable {options : Options} {session : Session} {lines : List String} {line : String}
  {entries : List (String × Except Failure Outcome)}

theorem sessionAfter_cons :
    sessionAfter options session (line :: lines) =
      sessionAfter options (execute options session line).session lines :=
  List.foldl_cons ..

theorem sessionAfter_concat :
    sessionAfter options session (lines ++ [line]) =
      (execute options (sessionAfter options session lines) line).session :=
  List.foldl_concat ..

theorem transcript_concat :
    transcript options session (lines ++ [line]) = transcript options session lines ++
      [(line, (execute options (sessionAfter options session lines) line).outcome)] := by
  induction lines generalizing session with
  | nil => rfl
  | cons first lines ih =>
    rw [List.cons_append, transcript, transcript, ih, sessionAfter_cons, List.cons_append]

theorem lastCompiled_concat_iff {entry : String × Except Failure Outcome} :
    LastCompiled (entries ++ [entry]) line ↔
      entry = (line, .ok .compiled) ∨ entry.2 ≠ .ok .compiled ∧ LastCompiled entries line := by
  constructor
  · intro hlast
    obtain ⟨before, after, heq, hafter⟩ := hlast
    obtain rfl | ⟨after, last, rfl⟩ := List.eq_nil_or_concat' after
    · obtain ⟨-, hentry⟩ := List.append_inj' heq rfl
      exact .inl (List.singleton_inj.mp hentry)
    · rw [← List.cons_append, ← List.append_assoc] at heq
      obtain ⟨hentries, hentry⟩ := List.append_inj' heq rfl
      obtain rfl := List.singleton_inj.mp hentry
      rw [List.forall_mem_append, List.forall_mem_singleton] at hafter
      exact .inr ⟨hafter.2, before, after, hentries, hafter.1⟩
  · intro hlast
    rcases hlast with rfl | ⟨hne, before, after, rfl, hafter⟩
    · exact ⟨entries, [], rfl, by simp⟩
    · refine ⟨before, after ++ [entry], by simp, ?_⟩
      rw [List.forall_mem_append, List.forall_mem_singleton]
      exact ⟨hafter, hne⟩

theorem sessionAfter_eq_some_iff {m : Matcher} :
    sessionAfter options none lines = some m ↔
      ∃ line, LastCompiled (transcript options none lines) line ∧ Compiles line m := by
  induction lines using List.reverseRecOn with
  | nil => simp [sessionAfter, transcript, LastCompiled]
  | append_singleton lines line ih =>
    -- a line that compiles is the last one to do so; any other changes neither side
    rw [sessionAfter_concat, transcript_concat]
    simp only [lastCompiled_concat_iff, Prod.mk.injEq]
    by_cases houtcome : (execute options (sessionAfter options none lines) line).outcome =
        .ok .compiled
    · obtain ⟨n, hn, hsession⟩ := (answers_of_outcome houtcome).compiles
      rw [houtcome, hsession, Option.some_inj]
      constructor
      · rintro rfl
        exact ⟨line, .inl ⟨rfl, rfl⟩, hn⟩
      · intro hlast
        obtain ⟨last, ⟨rfl, -⟩ | ⟨hne, -⟩, hm⟩ := hlast
        · exact hn.unique hm
        · exact absurd rfl hne
    · rw [(answers_execute ..).keeps houtcome, ih]
      simp [houtcome]

theorem sessionAfter_eq_none_iff :
    sessionAfter options none lines = none ↔
      ∀ entry ∈ transcript options none lines, entry.2 ≠ .ok .compiled := by
  induction lines using List.reverseRecOn with
  | nil => simp [sessionAfter, transcript]
  | append_singleton lines line ih =>
    rw [sessionAfter_concat, transcript_concat, List.forall_mem_append, List.forall_mem_singleton]
    by_cases houtcome : (execute options (sessionAfter options none lines) line).outcome =
        .ok .compiled
    · obtain ⟨m, -, hsession⟩ := (answers_of_outcome houtcome).compiles
      simp [hsession, houtcome]
    · rw [(answers_execute ..).keeps houtcome, ih]
      simp [houtcome]

theorem sessionAfter_eq_self
    (h : ∀ entry ∈ transcript options session lines, entry.2 ≠ .ok .compiled) :
    sessionAfter options session lines = session := by
  induction lines generalizing session with
  | nil => rfl
  | cons line lines ih =>
    rw [transcript, List.forall_mem_cons] at h
    rw [sessionAfter_cons, ih h.2]
    exact (answers_execute options session line).keeps h.1

/-- Until a line compiles the installed matcher decides every test. -/
theorem outcome_test_sessionAfter {m : Matcher}
    (h : ∀ entry ∈ transcript options (some m) lines, entry.2 ≠ .ok .compiled) {line : String}
    {input : List Char} (htests : Tests line input) :
    (execute options (sessionAfter options (some m) lines) line).outcome =
      .ok (.matched (m.accepts (String.ofList input))) := by
  rw [sessionAfter_eq_self h, execute_of_tests htests]
  rfl

end Runs

/-- **The explorer's session.** After any lines the installed matcher is what the last line that
compiled gave, and none is installed if no line did. A further line keeps it unless it compiles. A
verdict is about the installed matcher and the whole input. -/
theorem session_is_last_compiled (options : Options) (lines : List String) :
    (∀ m, sessionAfter options none lines = some m ↔
      ∃ line, LastCompiled (transcript options none lines) line ∧ Compiles line m) ∧
    (sessionAfter options none lines = none ↔
      ∀ entry ∈ transcript options none lines, entry.2 ≠ .ok .compiled) ∧
    ∀ line,
      let session := sessionAfter options none lines
      let step := execute options session line
      (step.outcome = .ok .compiled ↔ ∃ m, Compiles line m) ∧
      (step.outcome ≠ .ok .compiled → step.session = session) ∧
      (∀ verdict, step.outcome = .ok (.matched verdict) ↔
        ∃ m input, session = some m ∧ Tests line input ∧
          verdict = m.accepts (String.ofList input) ∧
          ∀ r : Regex, m.regex = r.anchored →
            (verdict = true ↔ r.Matches m.dialect input 0 input.length)) ∧
      (step.outcome = .ok .noPattern ↔ session = none ∧ ∃ input, HasVerb "match" line input) := by
  refine ⟨fun m => sessionAfter_eq_some_iff, sessionAfter_eq_none_iff, fun line => ?_⟩
  intro session step
  exact ⟨outcome_eq_compiled_iff, (answers_execute options session line).keeps,
    fun verdict => outcome_eq_matched_iff, outcome_eq_noPattern_iff⟩

end IntervalRegex.Explorer
