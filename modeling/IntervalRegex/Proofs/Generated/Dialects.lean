import IntervalRegex.Proofs.Explorer.Agreement
import IntervalRegex.Proofs.Generated

/-!
# Generated patterns in both dialects

A printed pattern that is given to the explorer is read in the dialect of Unicode, and once more
between anchors if it was printed with them. On ASCII texts neither of the two is noticed.
-/

namespace IntervalRegex

open Fragment Text

/-! ### Anchors that are shown -/

namespace Regex

variable {d : Dialect} {p : String}

theorem IsExpression.shown (h : IsExpression d p.toList) (options : Options) :
    IsExpression d (options.shown p).toList := by
  obtain ⟨r, hread, hfits⟩ := h
  unfold Options.shown
  split
  · exact ⟨r.anchored, read_anchor hread, by rw [fits_anchored, hfits]⟩
  · exact ⟨r, hread, hfits⟩

theorem language_shown (h : IsExpression d p.toList) (options : Options) :
    language d (options.shown p).toList = language d p.toList := by
  obtain ⟨r, hread, -⟩ := h
  unfold Options.shown
  split
  · ext word
    rw [mem_language_iff hread, mem_language_iff (read_anchor hread), matches_anchored_iff]
    simp only [true_and]
  · rfl

end Regex

/-! ### Texts of the minimal dialect -/

namespace Derivable

theorem asciiPart_language {p : List Char} (hp : Derivable p) (d : Dialect) :
    asciiPart (Regex.language d p) = Regex.language .ascii p := by
  obtain ⟨f, hf, rfl⟩ := hp.exists_fragment
  rw [Regex.language_text hf.1, Regex.language_text hf.1, asciiPart_langIn hf.1, langIn_ascii]

theorem trim_shown {p : String} (hp : Derivable p.toList) (options : Options) :
    trim (options.shown p).toList = (options.shown p).toList := by
  have hblank : ∀ c ∈ '^' :: '$' :: alphabet, isBlank c = false := not_isBlank_of_all rfl
  exact trim_of_not_isBlank fun c hc => hblank c (hp.shown_subset options hc)

end Derivable

/-! ### Printed patterns in the explorer -/

theorem Explorer.execute_pattern {pattern : String} {m : Matcher}
    (htrim : trim pattern.toList = pattern.toList)
    (hcompile : Matcher.compile .unicode pattern = .ok m) (options : Options) (session : Session) :
    (execute options session ("pattern " ++ pattern)).outcome = .ok .compiled ∧
      (execute options session ("pattern " ++ pattern)).session = some m := by
  have hverb : HasVerb "pattern" ("pattern " ++ pattern) (trim pattern.toList) :=
    hasVerb_append (by decide) pattern
  have hresult := (Compile.result_matcher_eq_ok_iff (Failure.regex pattern)).mpr hcompile
  rw [execute, Request.read_of_says (.regex hverb), htrim]
  simp only [String.ofList_toList, ofRun_of_ok hresult, and_self]

/-- **Generated patterns in both dialects.** The matcher of a generated pattern accepts ASCII texts
only, and on these it gives the verdicts that the printed pattern gives in the dialect of Unicode,
with and without anchors. So a line that installs the printed pattern makes the explorer answer all
lines of ASCII as it does with the matcher itself. -/
theorem generated_dialects_agree {p : String} (hp : Generated p) (options : Options) :
    ∃ m raw, Matcher.compile .ascii p = .ok m ∧
      Matcher.compile .unicode (options.shown p) = .ok raw ∧
      (∀ input : String, IsAscii input.toList → m.accepts input = raw.accepts input) ∧
      (∀ input : String, m.accepts input = true → IsAscii input.toList) ∧
      ∀ (explorer : Options) (session : Explorer.Session),
        let step := Explorer.execute explorer session ("pattern " ++ options.shown p)
        step.outcome = .ok .compiled ∧ step.session = some raw ∧
          ∀ lines : List String, (∀ line ∈ lines, IsAscii line.toList) →
            Explorer.runLines explorer step.session lines =
              Explorer.runLines explorer (some m) lines := by
  have hderivable := hp.derivable
  obtain ⟨m, hm, haccepts⟩ := (hderivable.isExpression (d := .ascii)).exists_compile
  obtain ⟨raw, hraw, hrawAccepts⟩ :=
    ((hderivable.isExpression (d := .unicode)).shown options).exists_compile
  rw [String.ofList_toList] at hm hraw
  have haccepts_iff : ∀ input : String,
      m.accepts input = true ↔ raw.accepts input = true ∧ IsAscii input.toList := by
    intro input
    rw [haccepts, hrawAccepts, Regex.language_shown hderivable.isExpression,
      ← hderivable.asciiPart_language .unicode, mem_asciiPart_iff]
  have hagree : ∀ input : String, IsAscii input.toList → m.accepts input = raw.accepts input := by
    intro input hinput
    rw [Bool.eq_iff_iff, haccepts_iff]
    exact and_iff_left hinput
  refine ⟨m, raw, hm, hraw, hagree, fun input h => ((haccepts_iff input).mp h).2, ?_⟩
  intro explorer session step
  obtain ⟨houtcome, hsession⟩ :=
    Explorer.execute_pattern (hderivable.trim_shown options) hraw explorer session
  refine ⟨houtcome, hsession, fun lines hlines => ?_⟩
  rw [show step.session = some raw from hsession]
  exact (Explorer.runLines_alike (.some hagree) hlines).symm

/-- A range of both signs, printed with anchors and tested against a digit outside ASCII. -/
theorem generated_dialects_agree_anchored :
    ∃ m raw, Matcher.compile .ascii (NumberRange.pattern (-11) 17) = .ok m ∧
      Matcher.compile .unicode (anchor (NumberRange.pattern (-11) 17)) = .ok raw ∧
      m.accepts "-7" = raw.accepts "-7" ∧ m.accepts "٣" = false := by
  obtain ⟨m, raw, hm, hraw, hagree, hascii, -⟩ :=
    generated_dialects_agree (.interval (-11) 17) ⟨0, true⟩
  refine ⟨m, raw, hm, hraw, hagree "-7" (by decide), ?_⟩
  rw [Bool.eq_false_iff]
  intro haccepts
  exact absurd (hascii "٣" haccepts '٣' (by decide)) (by decide)

/-- Outside ASCII the verdicts differ: the digit three of another script. -/
example : (Matcher.compile .ascii "\\d").map (fun m => m.accepts "٣") = .ok false ∧
    (Matcher.compile .unicode "\\d").map (fun m => m.accepts "٣") = .ok true := by
  decide +kernel

end IntervalRegex
