import IntervalRegex.Proofs.Matcher
import IntervalRegex.Proofs.Regex.Locality

/-!
# Which patterns are refused

A pattern is read between its anchors only, never by itself. The group around it changes one thing:
a parenthesis that closes no group of the pattern closes that group instead. So a pattern that is no
expression by itself is refused, unless the fault is such a parenthesis. The expressions are those
that `Regex.read` reads; what is beyond their syntax counts among what is refused.
-/

namespace IntervalRegex.Regex

namespace Groups

/-- Only the end of a group looks at the groups around. -/
theorem add_within_error {groups : Groups} {lexeme : Lexeme} {fault : Fault} (frames : List Frame)
    (h : groups.add lexeme = .error fault) (hfault : fault ≠ .unopenedGroup) :
    (groups.within frames).add lexeme = .error fault := by
  cases lexeme with
  | atom | bar => cases h
  | count min max =>
    cases hatoms : groups.inner.atoms with
    | nil =>
      rw [add, hatoms] at h
      cases h
      simp [add, within, hatoms]
    | cons atom atoms =>
      rw [add, hatoms] at h
      cases h
  | opening name =>
    cases name with
    | none => cases h
    | some name =>
      simp only [add] at h
      split at h
      · next hused =>
        cases h
        simp [add, within, hused]
      · cases h
  | closing =>
    cases houter : groups.outer with
    | nil =>
      rw [add, houter] at h
      cases h
      exact absurd rfl hfault
    | cons frame outer =>
      rw [add, houter] at h
      cases h

theorem addAll_within_error {groups : Groups} {lexemes : List (Lexeme × Nat)} {fault : Fault}
    {start column : Nat} (frames : List Frame)
    (h : groups.addAll start lexemes = .error (fault, column)) (hfault : fault ≠ .unopenedGroup)
    (start' : Nat) : ∃ e, (groups.within frames).addAll start' lexemes = .error e := by
  induction lexemes generalizing groups start start' with
  | nil => cases h
  | cons entry lexemes ih =>
    obtain ⟨lexeme, width⟩ := entry
    rw [addAll] at h ⊢
    cases hadd : groups.add lexeme with
    | error fault' =>
      rw [hadd] at h
      cases h
      rw [add_within_error frames hadd hfault]
      exact ⟨_, rfl⟩
    | ok next =>
      rw [hadd] at h
      rw [add_within frames hadd]
      exact ih h (start' + width)

theorem addAll_append_error {groups : Groups} {start : Nat} {first : List (Lexeme × Nat)}
    {e : Fault × Nat} (h : groups.addAll start first = .error e) (second : List (Lexeme × Nat)) :
    groups.addAll start (first ++ second) = .error e := by
  induction first generalizing groups start with
  | nil => cases h
  | cons entry first ih =>
    obtain ⟨lexeme, width⟩ := entry
    rw [addAll] at h
    rw [List.cons_append, addAll]
    cases hadd : groups.add lexeme with
    | error fault =>
      rw [hadd] at h
      exact h
    | ok next =>
      rw [hadd] at h
      exact ih h

theorem outer_length_le_of_add {groups next : Groups} {lexeme : Lexeme}
    (h : groups.add lexeme = .ok next) (hlexeme : lexeme ≠ .closing) :
    groups.outer.length ≤ next.outer.length := by
  cases lexeme with
  | atom | bar =>
    cases h
    exact Nat.le_refl _
  | count min max =>
    simp only [add] at h
    split at h
    · cases h
    · cases h
      exact Nat.le_refl _
  | opening name =>
    cases name with
    | none =>
      cases h
      exact Nat.le_succ _
    | some name =>
      simp only [add] at h
      split at h
      · cases h
      · cases h
        exact Nat.le_succ _
  | closing => exact absurd rfl hlexeme

/-- Without the end of a group all groups stay open. -/
theorem outer_length_le_of_addAll {groups last : Groups} {start : Nat}
    {lexemes : List (Lexeme × Nat)} (h : groups.addAll start lexemes = .ok last)
    (hlexemes : ∀ entry ∈ lexemes, entry.1 ≠ .closing) :
    groups.outer.length ≤ last.outer.length := by
  induction lexemes generalizing groups start with
  | nil =>
    cases h
    exact Nat.le_refl _
  | cons entry lexemes ih =>
    obtain ⟨lexeme, width⟩ := entry
    rw [List.forall_mem_cons] at hlexemes
    rw [addAll] at h
    cases hadd : groups.add lexeme with
    | error fault =>
      rw [hadd] at h
      cases h
    | ok next =>
      rw [hadd] at h
      exact Nat.le_trans (outer_length_le_of_add hadd hlexemes.1) (ih h hlexemes.2)

end Groups

theorem read_eq_error {cs : List Char} {fault : Fault} {column : Nat}
    (h : read cs = .error (fault, column)) :
    Groups.empty.addAll 0 (scan cs).1 = .error (fault, column) ∨
      ∃ groups, Groups.empty.addAll 0 (scan cs).1 = .ok groups ∧
        ((scan cs).2 ≠ none ∨ groups.outer ≠ []) := by
  cases hadd : Groups.empty.addAll 0 (scan cs).1 with
  | error e =>
    left
    unfold read at h
    generalize scan cs = scanned at h hadd
    obtain ⟨lexemes, fault'⟩ := scanned
    dsimp only at h hadd
    rw [hadd] at h
    cases h
    rfl
  | ok groups =>
    refine .inr ⟨groups, rfl, ?_⟩
    by_contra hread
    rw [not_or, not_not, not_not] at hread
    have hok := read_eq_ok_iff.mpr ⟨hread.1, groups, hadd, hread.2, rfl⟩
    rw [h] at hok
    cases hok

theorem scan_before_closing {cs : List Char} (h : (scan cs).2 = none) :
    scan (cs ++ [')', '$']) = ((scan cs).1 ++ [(.closing, 1), (.atom .finish, 1)], none) := by
  have hclose : scan [')', '$'] = ([(.closing, 1), (.atom .finish, 1)], none) := by
    rw [scan_cons .closing rfl, scan_cons (.atom .finish) rfl, scan]
    rfl
  rw [scan_append (by decide) h, hclose]

theorem exists_scan_before_anchor (cs : List Char) :
    ∃ tail, (scan (cs ++ [')', '$'])).1 = (scan cs).1 ++ tail := by
  by_cases h : (scan cs).2 = none
  · exact ⟨_, by rw [scan_before_closing h]⟩
  · obtain ⟨tail, htail, -⟩ := scan_before_anchor h
    exact ⟨tail, htail⟩

/-- Between its anchors a pattern is read in a group; the frame of the first anchor lies around
it. -/
theorem read_anchor_eq_ok {pattern : String} {r : Regex}
    (h : read (anchor pattern).toList = .ok r) :
    (scan (pattern.toList ++ [')', '$'])).2 = none ∧ ∃ groups,
      (Groups.empty.within [⟨[], [.start]⟩]).addAll 4 (scan (pattern.toList ++ [')', '$'])).1 =
        .ok groups ∧ groups.outer = [] := by
  have htext : (anchor pattern).toList =
      '^' :: '(' :: '?' :: ':' :: (pattern.toList ++ [')', '$']) := by
    simp [anchor]
  obtain ⟨hscan, groups, hadd, houter, -⟩ := read_eq_ok_iff.mp h
  rw [htext, scan_cons (.atom .start) rfl, scan_cons (.opening none) rfl] at hscan hadd
  refine ⟨hscan, groups, ?_, houter⟩
  simpa [Groups.addAll, Groups.add, Groups.within, Groups.empty, Frame.empty, Frame.addAtom] using
    hadd

/-- **No other fault is lost.** A pattern that is no expression by itself, and does not owe it to a
parenthesis that closes no group, is none between the anchors. -/
theorem read_anchor_of_error {pattern : String} {fault : Fault} {column : Nat}
    (h : read pattern.toList = .error (fault, column)) (hfault : fault ≠ .unopenedGroup) :
    ∃ e, read (anchor pattern).toList = .error e := by
  cases hread : read (anchor pattern).toList with
  | error e => exact ⟨e, rfl⟩
  | ok r =>
    exfalso
    obtain ⟨hscan, groups, hadd, houter⟩ := read_anchor_eq_ok hread
    rcases read_eq_error h with hown | ⟨own, hown, hcause⟩
    · -- the lexeme that cannot be added stands between the anchors too
      obtain ⟨tail, htail⟩ := exists_scan_before_anchor pattern.toList
      obtain ⟨e, he⟩ := Groups.addAll_within_error [⟨[], [.start]⟩] hown hfault 4
      rw [htail, Groups.addAll_append_error he] at hadd
      cases hadd
    · have hwithin := Groups.addAll_within [⟨[], [.start]⟩] hown 4
      by_cases hfull : (scan pattern.toList).2 = none
      · -- the one parenthesis that is added closes a group of the pattern
        have hopen : own.outer ≠ [] := hcause.resolve_left (not_not.mpr hfull)
        obtain ⟨frame, outer, hcons⟩ := List.exists_cons_of_ne_nil hopen
        obtain ⟨start, hstart⟩ :=
          Groups.addAll_append hwithin [(.closing, 1), (.atom .finish, 1)]
        rw [scan_before_closing hfull, hstart] at hadd
        simp only [Groups.addAll, Groups.add, Groups.within, hcons, List.cons_append,
          Except.ok.injEq] at hadd
        rw [← hadd] at houter
        simp at houter
      · -- nothing closes the group around the pattern
        obtain ⟨tail, htail, hclosing⟩ := scan_before_anchor hfull
        obtain ⟨start, hstart⟩ := Groups.addAll_append hwithin tail
        rw [htail, hstart] at hadd
        have hle := Groups.outer_length_le_of_addAll hadd (hclosing hscan)
        rw [houter] at hle
        simp [Groups.within] at hle

end IntervalRegex.Regex

namespace IntervalRegex.Matcher

variable {dialect : Dialect} {pattern : String}

theorem read_anchor_of_compile_eq_ok {m : Matcher} (h : compile dialect pattern = .ok m) :
    Regex.read (anchor pattern).toList = .ok m.regex ∧ m.regex.fits dialect = true := by
  unfold compile at h
  dsimp only at h
  split at h
  · cases h
  · next r hread =>
    split at h
    · next hfits =>
      cases h
      exact ⟨hread, hfits⟩
    · cases h

theorem cause_of_compile_eq_error {e : PatternError} (h : compile dialect pattern = .error e) :
    ∃ cause, e = .notRegex pattern cause := by
  unfold compile at h
  dsimp only at h
  split at h
  · cases h
    exact ⟨_, rfl⟩
  · split at h
    · cases h
    · cases h
      exact ⟨_, rfl⟩

/-- **Which patterns have a matcher.** One that `Regex.read` reads by itself and that is allowed in
the dialect is matched as a whole. Any other pattern that has a matcher closes a group that it does
not open, and every pattern without one is refused under its own name. -/
theorem compile_refuses (dialect : Dialect) (pattern : String) :
    match compile dialect pattern with
    | .ok m => (∃ r, Regex.read pattern.toList = .ok r ∧ r.fits dialect = true ∧
          m.regex = r.anchored) ∨
        ∃ column, Regex.read pattern.toList = .error (.unopenedGroup, column)
    | .error e => ∃ cause, e = .notRegex pattern cause := by
  cases hcompile : compile dialect pattern with
  | error e => exact cause_of_compile_eq_error hcompile
  | ok m =>
    obtain ⟨hanchor, hfits⟩ := read_anchor_of_compile_eq_ok hcompile
    cases hread : Regex.read pattern.toList with
    | ok r =>
      rw [Regex.read_anchor hread, Except.ok.injEq] at hanchor
      rw [← hanchor, Regex.fits_anchored] at hfits
      exact .inl ⟨r, rfl, hfits, hanchor.symm⟩
    | error e =>
      obtain ⟨fault, column⟩ := e
      right
      by_cases hfault : fault = .unopenedGroup
      · exact ⟨column, by rw [hfault]⟩
      · obtain ⟨e, he⟩ := Regex.read_anchor_of_error hread hfault
        rw [he] at hanchor
        cases hanchor

/-- The parenthesis in front closes the group around the pattern and the one behind opens another
before the anchor, so that an input need only begin with the first branch. -/
theorem compile_closes_group :
    Regex.read "a)|(b".toList = .error (.unopenedGroup, 1) ∧
      (compile .unicode "a)|(b").map (fun m => m.accepts "ax") = .ok true := by
  decide +kernel

end IntervalRegex.Matcher
