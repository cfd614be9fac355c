import IntervalRegex.Proofs.Command.TestedInputs

/-!
# Quiet runs

From level 2 on the line of a pattern is the pattern as it is shown, without a change of its
characters. A list writes nothing else; an interval that is empty is warned of all the same.
-/

namespace IntervalRegex

/-- No character of a pattern is a control. -/
theorem Derivable.showControl_shown {p : String} (h : Derivable p.toList) (options : Options) :
    (options.shown p).toList.flatMap Event.showControl = (options.shown p).toList := by
  have hplain : ('^' :: '$' :: alphabet).all (fun c => Event.showControl c = [c]) = true := by
    decide
  have hshown : ∀ c ∈ (options.shown p).toList, Event.showControl c = [c] := fun c hc =>
    of_decide_eq_true (List.all_eq_true.mp hplain c (h.shown_subset options hc))
  rw [List.flatMap_congr hshown]
  exact List.flatMap_singleton' _

namespace Program

variable {color : Bool} {options : Options} {input : List UInt8}

theorem lines_append (color : Bool) (first second : List Event) :
    lines color (first ++ second) = lines color first ++ lines color second := by
  rw [lines, List.flatMap_append, String.ofList_append, lines, lines]

theorem lines_pattern {p : String} (h : Generated p) (hquiet : 2 ≤ options.quiet)
    (label : String) (color : Bool) :
    lines color [Message.pattern label p options] = options.shown p ++ "\n" := by
  have hmessage : Message.pattern label p options = Message.print (options.shown p) := by
    rw [Message.pattern, if_neg (Nat.not_lt.mpr hquiet)]
  have hline : (Message.print (options.shown p)).line color =
      (options.shown p).toList.flatMap Event.showControl ++ [] ++ ['\n'] := rfl
  rw [hmessage, lines, List.flatMap_singleton, hline, h.derivable.showControl_shown,
    List.append_nil, String.ofList_append, String.ofList_toList]

theorem header_of_quiet (hquiet : 2 ≤ options.quiet) (title : String) :
    Message.header title options = [] :=
  if_pos (Nat.lt_of_lt_of_le Nat.zero_lt_two hquiet)

theorem result_interval (hquiet : 2 ≤ options.quiet) (min max : Int64) :
    result none color ⟨.range min.toInt max.toInt, options⟩ input =
      ⟨0, lines color (if max.toInt < min.toInt then
          [Message.emptyInterval min.toInt max.toInt] else []) ++
        options.shown (NumberRange.pattern min.toInt max.toInt) ++ "\n", ""⟩ := by
  have hpattern : Generated (NumberRange.pattern min.toInt max.toInt) := .interval min max
  obtain ⟨m, hm⟩ := hpattern.exists_compile .ascii
  have hcompiled := (Compile.result_interval_eq_ok_iff options).mpr hm
  have hdone : result none color ⟨.range min.toInt max.toInt, options⟩ input =
      ⟨0, lines color (shown (Compile.interval min.toInt max.toInt options).events), ""⟩ := by
    simp only [result, run, forget, hcompiled, header_of_quiet hquiet, List.nil_append]
    rfl
  rw [hdone, shown_interval, lines_append, lines_pattern hpattern hquiet, String.append_assoc]

theorem result_list {tokens pattern : String} (h : TokenList.pattern tokens = .ok pattern)
    (hquiet : 2 ≤ options.quiet) :
    result none color ⟨.list tokens, options⟩ input = ⟨0, options.shown pattern ++ "\n", ""⟩ := by
  obtain ⟨m, hm⟩ := exists_ofTokens h
  have hcompiled := (Compile.result_tokenList_eq_ok_iff options).mpr hm
  have hquiet' : options.quiet ≠ 0 := Nat.ne_of_gt (Nat.lt_of_lt_of_le Nat.zero_lt_two hquiet)
  have hdone : result none color ⟨.list tokens, options⟩ input =
      ⟨0, lines color (shown (Compile.tokenList tokens options).events), ""⟩ := by
    simp only [result, run, forget, hcompiled, header_of_quiet hquiet, List.nil_append]
    rfl
  rw [hdone, shown_tokenList_ok h, if_neg hquiet', List.nil_append,
    lines_pattern (.list h) hquiet]

/-- **Quiet runs.** From level 2 on a run on a list writes its pattern as it is shown, in a line of
its own, and nothing else. So does a run on an interval, but for an empty one the warning stands in
front. -/
theorem quiet_output (options : Options) (hquiet : 2 ≤ options.quiet) (color : Bool)
    (input : List UInt8) :
    (∀ min max : Int64, result none color ⟨.range min.toInt max.toInt, options⟩ input =
      ⟨0, lines color (if max.toInt < min.toInt then
          [Message.emptyInterval min.toInt max.toInt] else []) ++
        options.shown (NumberRange.pattern min.toInt max.toInt) ++ "\n", ""⟩) ∧
    ∀ tokens pattern : String, TokenList.pattern tokens = .ok pattern →
      result none color ⟨.list tokens, options⟩ input = ⟨0, options.shown pattern ++ "\n", ""⟩ :=
  ⟨result_interval hquiet, fun _ _ h => result_list h hquiet⟩

/-- An interval of both signs and a list of two tokens, shown with anchors where a terminal has
colours. -/
theorem quiet_output_anchored :
    2 ≤ (⟨2, true⟩ : Options).quiet ∧
      TokenList.pattern "10.1.2.3, 1.2.3.8/31" = .ok "(?:10\\.1\\.2\\.3|1\\.2\\.3\\.[89])" ∧
      result none true ⟨.range (-2) 11, ⟨2, true⟩⟩ [] = ⟨0, "^(?:(?:-[12]|\\d|1[01]))$\n", ""⟩ ∧
      result none true ⟨.list "10.1.2.3, 1.2.3.8/31", ⟨2, true⟩⟩ [] =
        ⟨0, "^(?:(?:10\\.1\\.2\\.3|1\\.2\\.3\\.[89]))$\n", ""⟩ := by
  obtain ⟨hinterval, hlist⟩ := quiet_output ⟨2, true⟩ (Nat.le_refl 2) true []
  have hpattern : TokenList.pattern "10.1.2.3, 1.2.3.8/31" =
      .ok "(?:10\\.1\\.2\\.3|1\\.2\\.3\\.[89])" := by decide +kernel
  have hbounds : Int64.toInt (-2) = -2 ∧ Int64.toInt 11 = 11 := by decide
  have hshown : lines true (if (11 : Int) < -2 then [Message.emptyInterval (-2) 11] else []) ++
      (⟨2, true⟩ : Options).shown (NumberRange.pattern (-2) 11) ++ "\n" =
        "^(?:(?:-[12]|\\d|1[01]))$\n" := by decide +kernel
  have hrun := hinterval (-2) 11
  rw [hbounds.1, hbounds.2, hshown] at hrun
  exact ⟨Nat.le_refl 2, hpattern, hrun, hlist _ _ hpattern⟩

/-- The pattern of an empty interval is empty, and its warning stands in front of the empty line. -/
theorem quiet_empty_interval_warned :
    let done := ofArguments none false ["-qq", "range", "10", "0"] []
    let bare := (⟨2, false⟩ : Options).shown (NumberRange.pattern 10 0) ++ "\n"
    done.output ≠ bare ∧ bare = "\n" ∧ done =
      ⟨0, "[!] range [10 0] is empty, the pattern matches nothing but \"\"\n\n", ""⟩ := by
  decide +kernel

end Program

end IntervalRegex
