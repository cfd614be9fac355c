import IntervalRegex.Console.Filter
import Mathlib.Data.List.Basic
import Mathlib.Data.List.Induction

/-!
# Which directive decides

Of the directives that cover a target one with the longest name decides, the last of them if there
are several. The directive for program output comes last and bears the whole name of its target, so
that no setting of severities and targets overrules it, and it covers no other target.
-/

namespace IntervalRegex

namespace Directive

variable {d : Directive} {target : Target}

theorem covers_iff : d.covers target = true ↔ d.target.toList <+: target.name.toList :=
  List.isPrefixOf_iff_prefix

theorem length_le_of_covers (h : d.covers target = true) :
    d.target.length ≤ target.name.length := by
  rw [← String.length_toList, ← String.length_toList]
  exact (covers_iff.mp h).length_le

theorem covers_print_name_iff {threshold : Option Severity} :
    (⟨Target.print.name, threshold⟩ : Directive).covers target = true ↔ target = .print := by
  have hprefix : Target.print.name.toList <+: target.name.toList ↔ target = .print := by
    cases target <;> decide
  exact covers_iff.trans hprefix

end Directive

namespace Filter

variable {filter : Filter} {target : Target} {d last : Directive}

/-- The directive covers the target. No directive in front of it that does has a longer name, and
those behind it that do have shorter ones. -/
def Decides (filter : Filter) (target : Target) (d : Directive) : Prop :=
  ∃ before after, filter = before ++ d :: after ∧ d.covers target = true ∧
    (∀ e ∈ before, e.covers target = true → e.target.length ≤ d.target.length) ∧
    ∀ e ∈ after, e.covers target = true → e.target.length < d.target.length

theorem Decides.covers (h : Decides filter target d) : d.covers target = true := by
  obtain ⟨-, -, -, hcovers, -, -⟩ := h
  exact hcovers

theorem Decides.mem (h : Decides filter target d) : d ∈ filter := by
  obtain ⟨before, after, rfl, -, -, -⟩ := h
  exact List.mem_append_right before List.mem_cons_self

theorem Decides.length_le (h : Decides filter target d) {e : Directive} (he : e ∈ filter)
    (hcovers : e.covers target = true) : e.target.length ≤ d.target.length := by
  obtain ⟨before, after, rfl, -, hbefore, hafter⟩ := h
  rw [List.mem_append, List.mem_cons] at he
  rcases he with he | rfl | he
  · exact hbefore e he hcovers
  · exact Nat.le_refl _
  · exact Nat.le_of_lt (hafter e he hcovers)

theorem decides_last (hcovers : last.covers target = true)
    (hle : ∀ e ∈ filter, e.covers target = true → e.target.length ≤ last.target.length) :
    Decides (filter ++ [last]) target last :=
  ⟨filter, [], rfl, hcovers, hle, List.forall_mem_nil _⟩

theorem Decides.concat (h : Decides filter target d)
    (hlast : last.covers target = true → last.target.length < d.target.length) :
    Decides (filter ++ [last]) target d := by
  obtain ⟨before, after, rfl, hcovers, hbefore, hafter⟩ := h
  refine ⟨before, after ++ [last], by simp, hcovers, hbefore, ?_⟩
  rw [List.forall_mem_append, List.forall_mem_singleton]
  exact ⟨hafter, hlast⟩

theorem decisive_concat :
    decisive (filter ++ [last]) target =
      if last.covers target && (filter.decisive target).all
          fun best => best.target.length ≤ last.target.length then some last
      else filter.decisive target :=
  List.foldl_concat ..

theorem decisive_concat_of_not_covers (h : ¬ last.covers target = true) :
    decisive (filter ++ [last]) target = filter.decisive target := by
  rw [decisive_concat, if_neg]
  simp [h]

/-- Without a directive that decides none covers the target. -/
theorem decisive_spec (filter : Filter) (target : Target) :
    match filter.decisive target with
    | some d => Decides filter target d
    | none => ∀ d ∈ filter, ¬ d.covers target = true := by
  induction filter using List.reverseRecOn with
  | nil => exact List.forall_mem_nil _
  | append_singleton filter last ih =>
    by_cases hcovers : last.covers target = true
    · rw [decisive_concat, hcovers, Bool.true_and]
      cases hbest : decisive filter target with
      | none =>
        rw [hbest] at ih
        exact decides_last hcovers fun e he hcovers' => absurd hcovers' (ih e he)
      | some best =>
        rw [hbest] at ih
        by_cases hle : best.target.length ≤ last.target.length
        · simp only [Option.all_some, hle, decide_true, if_true]
          exact decides_last hcovers fun e he hcovers' =>
            Nat.le_trans (ih.length_le he hcovers') hle
        · simp only [Option.all_some, hle, decide_false, Bool.false_eq_true, if_false]
          exact ih.concat fun _ => Nat.lt_of_not_le hle
    · rw [decisive_concat_of_not_covers hcovers]
      cases hbest : decisive filter target with
      | none =>
        rw [hbest] at ih
        rw [List.forall_mem_append, List.forall_mem_singleton]
        exact ⟨ih, hcovers⟩
      | some best =>
        rw [hbest] at ih
        exact ih.concat fun hcovers' => absurd hcovers' hcovers

theorem Decides.decisive_eq (h : Decides filter target d) : filter.decisive target = some d := by
  obtain ⟨before, after, rfl, hcovers, hbefore, hafter⟩ := h
  induction after using List.reverseRecOn with
  | nil =>
    rw [decisive_concat, hcovers, Bool.true_and, if_pos]
    have hspec := decisive_spec before target
    cases hbest : decisive before target with
    | none => rfl
    | some best =>
      rw [hbest] at hspec
      exact decide_eq_true (hbefore best hspec.mem hspec.covers)
  | append_singleton after last ih =>
    rw [List.forall_mem_append, List.forall_mem_singleton] at hafter
    rw [← List.cons_append, ← List.append_assoc, decisive_concat, ih hafter.1, if_neg]
    intro hlast
    rw [Bool.and_eq_true, Option.all_some, decide_eq_true_eq] at hlast
    exact Nat.not_lt.mpr hlast.2 (hafter.2 hlast.1)

theorem decisive_eq_some_iff : filter.decisive target = some d ↔ Decides filter target d := by
  constructor
  · intro hdecisive
    have hspec := decisive_spec filter target
    rwa [hdecisive] at hspec
  · exact Decides.decisive_eq

theorem shows_iff {e : Event} :
    filter.shows e = true ↔ ∃ d threshold, Decides filter e.target d ∧
      d.threshold = some threshold ∧ threshold.rank ≤ e.severity.rank := by
  simp only [← decisive_eq_some_iff, shows]
  constructor
  · intro hshows
    split at hshows
    · next name threshold hdecisive =>
      exact ⟨_, threshold, hdecisive, rfl, of_decide_eq_true hshows⟩
    · cases hshows
  · intro hshown
    obtain ⟨⟨name, threshold⟩, least, hdecisive, rfl, hle⟩ := hshown
    rw [hdecisive]
    exact decide_eq_true hle

/-! ### Settings -/

variable {setting : Option String} {e : Event}

/-- What a setting says about the events of a target. A setting that cannot be read says as much as
none. -/
def Admits (setting : Option String) (target : Target) (severity : Severity) : Prop :=
  match setting.bind read with
  | none => Severity.info.rank ≤ severity.rank
  | some filter => ∃ d threshold, Decides filter target d ∧
      d.threshold = some threshold ∧ threshold.rank ≤ severity.rank

theorem decides_print (setting : Option String) :
    Decides (ofSetting setting) .print ⟨Target.print.name, some .info⟩ := by
  apply decides_last (Directive.covers_print_name_iff.mpr rfl)
  intro e _ hcovers
  exact Directive.length_le_of_covers hcovers

theorem shows_print (htarget : e.target = .print) (hseverity : e.severity = .info) :
    (ofSetting setting).shows e = true := by
  rw [shows_iff, htarget, hseverity]
  exact ⟨_, .info, decides_print setting, rfl, Nat.le_refl _⟩

theorem decides_everywhere (target : Target) (threshold : Option Severity) :
    Decides [⟨"", threshold⟩] target ⟨"", threshold⟩ :=
  ⟨[], [], rfl, Directive.covers_iff.mpr List.nil_prefix, List.forall_mem_nil _,
    List.forall_mem_nil _⟩

/-- The directive for program output leaves the other targets to the setting. -/
theorem decisive_ofSetting (h : target ≠ .print) :
    (ofSetting setting).decisive target =
      decisive ((setting.bind read).getD [⟨"", some .info⟩]) target :=
  decisive_concat_of_not_covers fun hcovers => h (Directive.covers_print_name_iff.mp hcovers)

theorem shows_ofSetting_iff (h : e.target ≠ .print) :
    (ofSetting setting).shows e = true ↔ Admits setting e.target e.severity := by
  rw [shows_iff, Admits]
  simp only [← decisive_eq_some_iff, decisive_ofSetting h]
  cases setting.bind read with
  | some filter => rfl
  | none =>
    rw [Option.getD_none, (decides_everywhere e.target (some .info)).decisive_eq]
    simp

end Filter

end IntervalRegex
