import IntervalRegex.Proofs.Command.Verdict

/-!
# What is shown without a setting

Without a setting the events from `info` up are shown. So the steps of compiling stay hidden, and of
a pattern there remain its warning or its coverage, and its own line.
-/

namespace IntervalRegex

theorem Filter.shows_unset_iff {e : Event} (h : e.OutputAtInfo) :
    (ofSetting none).shows e = true ↔ Severity.info.rank ≤ e.severity.rank := by
  by_cases htarget : e.target = .print
  · have hseverity : e.severity = .info := h htarget
    simp [shows_print htarget hseverity, hseverity]
  · exact shows_ofSetting_iff htarget

namespace Program

/-- The events that are shown without a setting. -/
def shown (events : List Event) : List Event := events.filter (Filter.ofSetting none).shows

theorem output_unset (color : Bool) (events : List Event) :
    (Filter.ofSetting none).output color events = lines color (shown events) := rfl

theorem shown_append (first second : List Event) :
    shown (first ++ second) = shown first ++ shown second := List.filter_append ..

section Events

variable {events : List Event}

theorem shown_eq_self (h : ∀ e ∈ events, e.OutputAtInfo)
    (hseverity : ∀ e ∈ events, Severity.info.rank ≤ e.severity.rank) : shown events = events :=
  List.filter_eq_self.mpr fun e he => (Filter.shows_unset_iff (h e he)).mpr (hseverity e he)

theorem shown_eq_nil (h : ∀ e ∈ events, e.IsDetail) : shown events = [] := by
  apply List.filter_eq_nil_iff.mpr
  intro e he hshows
  have hdetail := h e he
  exact absurd ((Filter.shows_unset_iff hdetail.outputAtInfo).mp hshows)
    (Nat.not_le.mpr hdetail.severity)

end Events

/-! ### Messages -/

theorem shown_print (message : Styled) : shown [Message.print message] = [Message.print message] :=
  shown_eq_self (List.forall_mem_singleton.mpr (Message.outputAtInfo_print message))
    (List.forall_mem_singleton.mpr (Nat.le_refl _))

theorem shown_header (title : String) (options : Options) :
    shown (Message.header title options) = Message.header title options := by
  unfold Message.header
  split
  · rfl
  · exact shown_print _

theorem shown_pattern (label pattern : String) (options : Options) :
    shown [Message.pattern label pattern options] = [Message.pattern label pattern options] := by
  obtain ⟨message, hprint⟩ := Message.exists_pattern_eq_print label pattern options
  rw [hprint, shown_print]

theorem shown_coverage (list : String) : shown (Compile.coverage list) = Compile.coverage list := by
  apply List.filter_eq_self.mpr
  intro e he
  obtain ⟨token, addresses, rfl⟩ := Compile.exists_of_mem_coverage he
  have htarget : (Message.coverage token addresses).target ≠ .print := nofun
  exact (Filter.shows_unset_iff (Message.outputAtInfo_of_target_ne htarget)).mpr (Nat.le_refl _)

theorem shown_verdicts (verdict : String → Bool) (inputs : List String) :
    shown (inputs.map fun input => Message.verdict input (verdict input)) =
      inputs.map fun input => Message.verdict input (verdict input) := by
  apply List.filter_eq_self.mpr
  rw [List.forall_mem_map]
  intro input _
  exact (shows_verdict_iff input _).mpr (admitsVerdict_of_unread rfl _)

/-! ### Compiling -/

theorem shown_interval (min max : Int) (options : Options) :
    shown (Compile.interval min max options).events =
      (if max < min then [Message.emptyInterval min max] else []) ++
        [Message.pattern (Message.intervalText min max) (NumberRange.pattern min max) options] := by
  set warning := if max < min then [Message.emptyInterval min max] else [] with hwarning
  have hevents : (Compile.interval min max options).events =
      warning ++ ([Message.compilingInterval min max] ++
        ([Message.pattern (Message.intervalText min max) (NumberRange.pattern min max) options] ++
          (Compile.matcher .ascii (NumberRange.pattern min max) Failure.matcher).events)) := rfl
  have hshown : shown warning = warning := by
    rw [hwarning]
    split
    · exact shown_eq_self
        (List.forall_mem_singleton.mpr (Message.outputAtInfo_of_target_ne nofun))
        (List.forall_mem_singleton.mpr (Nat.le_succ _))
    · rfl
  have hdetail := List.forall_mem_singleton.mpr (Message.isDetail_compilingInterval min max)
  rw [hevents, shown_append, shown_append, shown_append, hshown, shown_eq_nil hdetail,
    shown_pattern, shown_eq_nil (Compile.isDetail_matcher _ _ _)]
  rfl

section Lists

variable {list pattern : String}

theorem shown_tokenList_ok (h : TokenList.pattern list = .ok pattern) (options : Options) :
    shown (Compile.tokenList list options).events =
      (if options.quiet = 0 then Compile.coverage list else []) ++
        [Message.pattern ("cidr [" ++ list ++ "]") pattern options] := by
  set covered := if options.quiet = 0 then Compile.coverage list else [] with hcovered
  have hevents : (Compile.tokenList list options).events =
      Compile.listEvents list ++ covered ++
        ([Message.pattern ("cidr [" ++ list ++ "]") pattern options] ++
          (Compile.matcher .ascii pattern Failure.matcher).events) := by
    rw [Compile.tokenList, h]
    rfl
  have hshown : shown covered = covered := by
    rw [hcovered]
    split
    · exact shown_coverage list
    · rfl
  rw [hevents, shown_append, shown_append, shown_append, hshown, shown_pattern,
    shown_eq_nil (Compile.isDetail_listEvents list), shown_eq_nil (Compile.isDetail_matcher _ _ _)]
  rfl

theorem shown_beforeVerdicts (h : TokenList.pattern list = .ok pattern) (options : Options) :
    shown (beforeVerdicts list options) =
      Message.header "matching inputs" options ++
        (if options.quiet = 0 then Compile.coverage list else []) ++
        [Message.pattern ("cidr [" ++ list ++ "]") pattern options] := by
  rw [beforeVerdicts, shown_append, shown_header, shown_tokenList_ok h, List.append_assoc]

end Lists

end Program

end IntervalRegex
