import IntervalRegex.Proofs.Explorer.Session
import IntervalRegex.Proofs.Fragment.Ascii

/-!
# Sessions that answer alike

An installed matcher shows in the verdicts only. So two sessions whose matchers agree on ASCII texts
answer a line of ASCII alike and agree again behind it, and the output of any such lines is the same
in both.
-/

namespace IntervalRegex.Explorer

open Text

/-- Nothing is installed in both, or matchers with the same verdict on every ASCII text. -/
inductive Agree : Session → Session → Prop
  | none : Agree none none
  | some {m n : Matcher}
    (h : ∀ input : String, IsAscii input.toList → m.accepts input = n.accepts input) :
    Agree (some m) (some n)

theorem Agree.refl (session : Session) : Agree session session := by
  cases session with
  | none => exact .none
  | some m => exact .some fun _ _ => rfl

/-- Only the installed matchers may differ, and they agree. -/
structure AnswersAlike (step step' : Step) : Prop where
  events : step.events = step'.events
  outcome : step.outcome = step'.outcome
  session : Agree step.session step'.session

variable {options : Options} {session session' : Session}

theorem ofRun_alike (run : Run Matcher) (h : Agree session session') :
    AnswersAlike (Step.ofRun session run) (Step.ofRun session' run) := by
  unfold Step.ofRun
  cases run.result with
  | ok m => exact ⟨rfl, rfl, .refl (some m)⟩
  | error failure => exact ⟨rfl, rfl, h⟩

theorem test_alike {input : String} (h : Agree session session') (hinput : IsAscii input.toList) :
    AnswersAlike (test session input) (test session' input) := by
  cases h with
  | none => exact ⟨rfl, rfl, .none⟩
  | some h =>
    have hverdict := h input hinput
    exact ⟨by simp only [test, hverdict], by simp only [test, hverdict], .some h⟩

theorem execute_alike {line : String} (h : Agree session session') (hline : IsAscii line.toList) :
    AnswersAlike (execute options session line) (execute options session' line) := by
  have hsays := Request.says_read line
  unfold execute
  generalize Request.read line = request at hsays
  cases hsays with
  | @interval argument =>
    cases hbounds : readBounds argument with
    | none =>
      simp only [hbounds]
      exact ⟨rfl, rfl, h⟩
    | some bounds =>
      simp only [hbounds]
      exact ofRun_alike _ h
  | list | regex => exact ofRun_alike _ h
  | @test input hverb =>
    apply test_alike h
    rw [String.toList_ofList]
    exact fun c hc => hline c (hverb.subset hc)
  | bare =>
    have hbare : IsAscii (trim line.toList) := fun c hc => hline c (mem_of_mem_trim hc)
    cases h with
    | none => exact ⟨rfl, rfl, .none⟩
    | some h => exact test_alike (.some h) (by rwa [String.toList_ofList])
  | blank => exact ⟨rfl, rfl, h⟩

theorem runLines_alike {lines : List String} (h : Agree session session')
    (hlines : ∀ line ∈ lines, IsAscii line.toList) :
    runLines options session lines = runLines options session' lines := by
  induction lines generalizing session session' with
  | nil => rfl
  | cons line lines ih =>
    rw [List.forall_mem_cons] at hlines
    have hstep : AnswersAlike (execute options session line) (execute options session' line) :=
      execute_alike h hlines.1
    rw [runLines, runLines, ih hstep.session hlines.2, Step.allEvents, Step.allEvents,
      hstep.events, hstep.outcome]

end IntervalRegex.Explorer
