import IntervalRegex.Matcher
import IntervalRegex.Proofs.Regex.Lexeme

/-!
# Matching whole texts

A pattern is read between `^(?:` and `)$`. If the pattern is an expression by itself, which is to say
that `Regex.read` reads it, then the two additions put it into one group between two anchors and
change nothing inside it, and the anchored expression finds a match in a text exactly when the
pattern matches from the first character to the last.
-/

namespace IntervalRegex

namespace Regex

/-! ### Reading inside a group

What stands further out on the stack of groups plays no part while a text is read whose own groups
close in order. -/

namespace Groups

/-- The groups with more of them around. -/
def within (groups : Groups) (frames : List Frame) : Groups :=
  { groups with outer := groups.outer ++ frames }

theorem add_within {groups next : Groups} {lexeme : Lexeme} (frames : List Frame)
    (h : groups.add lexeme = .ok next) :
    (groups.within frames).add lexeme = .ok (next.within frames) := by
  cases lexeme with
  | atom regex | bar =>
    cases h
    rfl
  | count min max =>
    cases hatoms : groups.inner.atoms with
    | nil =>
      rw [add, hatoms] at h
      cases h
    | cons atom atoms =>
      rw [add, hatoms] at h
      cases h
      simp [add, within, hatoms]
  | opening name =>
    cases name with
    | none =>
      cases h
      rfl
    | some name =>
      simp only [add] at h
      split at h
      · cases h
      · next hfresh =>
        cases h
        simp [add, within, hfresh]
  | closing =>
    cases houter : groups.outer with
    | nil =>
      rw [add, houter] at h
      cases h
    | cons frame outer =>
      rw [add, houter] at h
      cases h
      simp [add, within, houter]

/-- The columns are for faults only. -/
theorem addAll_within {groups last : Groups} {column : Nat} {lexemes : List (Lexeme × Nat)}
    (frames : List Frame) (h : groups.addAll column lexemes = .ok last) (start : Nat) :
    (groups.within frames).addAll start lexemes = .ok (last.within frames) := by
  induction lexemes generalizing groups column start with
  | nil =>
    cases h
    rfl
  | cons entry lexemes ih =>
    obtain ⟨lexeme, width⟩ := entry
    rw [addAll] at h ⊢
    cases hadd : groups.add lexeme with
    | error fault =>
      rw [hadd] at h
      cases h
    | ok next =>
      rw [hadd] at h
      rw [add_within frames hadd]
      exact ih h (start + width)

theorem addAll_append {groups next : Groups} {column : Nat} {first : List (Lexeme × Nat)}
    (h : groups.addAll column first = .ok next) (second : List (Lexeme × Nat)) :
    ∃ start, groups.addAll column (first ++ second) = next.addAll start second := by
  induction first generalizing groups column with
  | nil =>
    cases h
    exact ⟨column, rfl⟩
  | cons entry first ih =>
    obtain ⟨lexeme, width⟩ := entry
    rw [addAll] at h
    rw [List.cons_append, addAll]
    cases hadd : groups.add lexeme with
    | error fault =>
      rw [hadd] at h
      cases h
    | ok next =>
      rw [hadd] at h
      exact ih h

end Groups

theorem read_eq_ok_iff {cs : List Char} {r : Regex} :
    read cs = .ok r ↔ (scan cs).2 = none ∧
      ∃ groups, Groups.empty.addAll 0 (scan cs).1 = .ok groups ∧ groups.outer = [] ∧
        groups.inner.regex = r := by
  unfold read
  generalize scan cs = scanned
  obtain ⟨lexemes, fault⟩ := scanned
  cases hadd : Groups.empty.addAll 0 lexemes with
  | error fault => simp [hadd, bind, Except.bind]
  | ok groups =>
    cases fault with
    | some fault => simp [hadd, bind, Except.bind]
    | none =>
      cases houter : groups.outer with
      | nil => simp [hadd, houter, bind, Except.bind]
      | cons frame outer => simp [hadd, houter, bind, Except.bind]

/-- An expression between both anchors. -/
def anchored (r : Regex) : Regex := .seq .start (.seq r (.seq .finish .empty))

/-- **Reading between anchors.** The anchors and the group around an expression are read as such,
and what stands inside is read as it is by itself. -/
theorem read_anchor {pattern : String} {r : Regex} (h : read pattern.toList = .ok r) :
    read (anchor pattern).toList = .ok r.anchored := by
  obtain ⟨hscan, groups, hadd, houter, rfl⟩ := read_eq_ok_iff.mp h
  have htext : (anchor pattern).toList =
      '^' :: '(' :: '?' :: ':' :: (pattern.toList ++ [')', '$']) := by
    simp [anchor]
  have hclose : scan [')', '$'] = ([(.closing, 1), (.atom .finish, 1)], none) := by
    rw [scan_cons .closing rfl, scan_cons (.atom .finish) rfl, scan]
    rfl
  have hlexemes : scan (anchor pattern).toList =
      ((.atom .start, 1) :: (.opening none, 3) ::
        ((scan pattern.toList).1 ++ [(.closing, 1), (.atom .finish, 1)]), none) := by
    rw [htext, scan_cons (.atom .start) rfl, scan_cons (.opening none) rfl,
      scan_append (by decide) hscan, hclose]
    simp
  rw [read_eq_ok_iff, hlexemes]
  refine ⟨rfl, ?_⟩
  -- `pattern` is read with the group that holds `^` on the stack below it
  obtain ⟨column, hrest⟩ := Groups.addAll_append (Groups.addAll_within [⟨[], [.start]⟩] hadd 4)
    [(.closing, 1), (.atom .finish, 1)]
  refine ⟨⟨⟨[], [.finish, groups.inner.regex, .start]⟩, [], groups.names⟩, hrest.trans ?_, rfl, rfl⟩
  simp [Groups.addAll, Groups.add, Groups.within, Frame.addAtom, houter]

theorem fits_anchored (d : Dialect) (r : Regex) : r.anchored.fits d = r.fits d := by
  simp [anchored, fits]

theorem accepts_anchored_iff {d : Dialect} {s : List Char} {r : Regex} :
    r.anchored.Accepts d s ↔ r.Matches d s 0 s.length := by
  constructor
  · intro haccepts
    obtain ⟨i, j, -, k, ⟨rfl, rfl⟩, l, hmatch, m, ⟨rfl, rfl⟩, -⟩ := haccepts
    exact hmatch
  · intro hmatch
    exact ⟨0, s.length, Nat.zero_le _, 0, ⟨rfl, rfl⟩, s.length, hmatch, s.length, ⟨rfl, rfl⟩, rfl⟩

theorem matches_anchored_iff {d : Dialect} {s : List Char} {r : Regex} {i j : Nat} :
    r.anchored.Matches d s i j ↔ i = 0 ∧ j = s.length ∧ r.Matches d s 0 s.length := by
  constructor
  · intro hanchored
    obtain ⟨k, ⟨rfl, rfl⟩, l, hmatch, m, ⟨rfl, rfl⟩, rfl⟩ := hanchored
    exact ⟨rfl, rfl, hmatch⟩
  · intro hmatch
    obtain ⟨rfl, rfl, hmatch⟩ := hmatch
    exact ⟨0, ⟨rfl, rfl⟩, s.length, hmatch, s.length, ⟨rfl, rfl⟩, rfl⟩

end Regex

namespace Matcher

variable {dialect : Dialect} {pattern : String} {r : Regex}

theorem compile_eq_ok (h : Regex.read pattern.toList = .ok r) (hfits : r.fits dialect = true) :
    compile dialect pattern = .ok ⟨dialect, anchor pattern, r.anchored⟩ := by
  simp [compile, Regex.read_anchor h, Regex.fits_anchored, hfits]

theorem accepts_anchored_iff {source input : String} :
    accepts ⟨dialect, source, r.anchored⟩ input = true ↔
      r.Matches dialect input.toList 0 input.toList.length := by
  rw [accepts, Regex.accepts_eq_true_iff, Regex.accepts_anchored_iff]

theorem accepts_iff_of_anchored {m : Matcher} (h : m.regex = r.anchored) {input : String} :
    m.accepts input = true ↔ r.Matches m.dialect input.toList 0 input.toList.length := by
  obtain ⟨dialect, source, regex⟩ := m
  obtain rfl : regex = r.anchored := h
  exact accepts_anchored_iff

end Matcher

end IntervalRegex
