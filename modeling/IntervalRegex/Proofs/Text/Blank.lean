import IntervalRegex.Text.Blank
import Mathlib.Data.List.DropRight

/-!
# Words and blank characters

What is left after trimming does not begin with a blank character, and the first word of a text is
what stands before the first one. The words of a text are what its blank characters leave.
-/

namespace IntervalRegex.Text

theorem trim_cons_of_isBlank {c : Char} (h : isBlank c = true) (cs : List Char) :
    trim (c :: cs) = trim cs := by
  rw [trim, List.dropWhile_cons_of_pos h, trim]

theorem trim_prefix (cs : List Char) : trim cs <+: cs.dropWhile isBlank :=
  List.rdropWhile_prefix ..

theorem isBlank_of_head?_trim {cs : List Char} {c : Char} (h : (trim cs).head? = some c) :
    isBlank c = false := by
  obtain ⟨rest, hrest⟩ := trim_prefix cs
  have hhead := List.head?_dropWhile_not isBlank cs
  rw [← hrest, List.head?_append, h] at hhead
  exact hhead

theorem trim_blanks_append {blanks : List Char} (h : ∀ c ∈ blanks, isBlank c = true)
    (cs : List Char) : trim (blanks ++ cs) = trim cs := by
  rw [trim, List.dropWhile_append_of_pos h, trim]

theorem trim_append_blanks {blanks : List Char} (h : ∀ c ∈ blanks, isBlank c = true)
    (cs : List Char) : trim (cs ++ blanks) = trim cs := by
  rw [trim, List.dropWhile_append]
  split
  · next hempty => rw [List.dropWhile_eq_nil_iff.mpr h, trim, List.isEmpty_iff.mp hempty]
  · have hreverse : ∀ c ∈ blanks.reverse, isBlank c = true := fun c hc =>
      h c (List.mem_reverse.mp hc)
    rw [List.reverse_append, List.dropWhile_append_of_pos hreverse, trim]

theorem not_isBlank_of_all {cs : List Char} (h : cs.all (fun c => !isBlank c) = true) :
    ∀ c ∈ cs, isBlank c = false := by simpa using h

theorem trim_rdropWhile (cs : List Char) : trim (cs.rdropWhile isBlank) = trim cs := by
  have hblanks : ∀ c ∈ cs.rtakeWhile isBlank, isBlank c = true := fun _ => List.mem_rtakeWhile_imp
  rw [← trim_append_blanks hblanks, List.rdropWhile_append_rtakeWhile]

theorem trim_word_append {word : List Char} (hne : word ≠ [])
    (hword : ∀ c ∈ word, isBlank c = false) (cs : List Char) :
    trim (word ++ cs) = word ++ cs.rdropWhile isBlank := by
  have hfirst : (word ++ cs).dropWhile isBlank = word ++ cs := by
    obtain ⟨c, rest, rfl⟩ := List.exists_cons_of_ne_nil hne
    exact List.dropWhile_cons_of_neg (by simp [hword])
  have hlast : word.reverse.dropWhile isBlank = word.reverse := by
    rw [List.dropWhile_eq_self_iff]
    intro hpos
    simp [hword]
  rw [trim, hfirst, List.reverse_append, List.dropWhile_append, hlast, List.rdropWhile]
  split
  · next hempty =>
    rw [List.reverse_reverse, List.isEmpty_iff.mp hempty, List.reverse_nil, List.append_nil]
  · rw [List.reverse_append, List.reverse_reverse]

theorem trim_of_not_isBlank {cs : List Char} (h : ∀ c ∈ cs, isBlank c = false) : trim cs = cs := by
  cases cs with
  | nil => rfl
  | cons c cs => simpa using trim_word_append (List.cons_ne_nil c cs) h []

theorem mem_of_mem_trim {cs : List Char} {c : Char} (h : c ∈ trim cs) : c ∈ cs := by
  have hkept : trim cs ⊆ cs.dropWhile isBlank := List.IsPrefix.subset <| trim_prefix cs
  exact (List.dropWhile_suffix isBlank).subset (hkept h)

theorem trim_eq_nil_iff {cs : List Char} : trim cs = [] ↔ ∀ c ∈ cs, isBlank c = true := by
  constructor
  · intro h
    have hrest := List.dropWhile_eq_nil_iff.mpr (List.rdropWhile_eq_nil_iff.mp h)
    rw [List.dropWhile_idempotent] at hrest
    exact List.dropWhile_eq_nil_iff.mp hrest
  · intro h
    rw [trim, List.dropWhile_eq_nil_iff.mpr h]
    rfl

/-- The text is empty or begins with a blank character, as what follows a word does. -/
def EndsWord (cs : List Char) : Prop := ∀ c, cs.head? = some c → isBlank c = true

theorem EndsWord.trim_tail {cs : List Char} (h : EndsWord cs) : trim cs.tail = trim cs := by
  cases cs with
  | nil => rfl
  | cons c cs => exact (trim_cons_of_isBlank (h c rfl) cs).symm

theorem endsWord_dropWhile (cs : List Char) : EndsWord (cs.dropWhile fun c => !isBlank c) := by
  intro c hc
  have hhead := List.head?_dropWhile_not (fun c => !isBlank c) cs
  rw [hc] at hhead
  simpa using hhead

theorem not_isBlank_of_mem_takeWhile {cs : List Char} {c : Char}
    (h : c ∈ cs.takeWhile fun c => !isBlank c) : isBlank c = false := by
  simpa using List.mem_takeWhile_imp h

theorem firstWord_append {word rest : List Char} (hword : ∀ c ∈ word, isBlank c = false)
    (hrest : EndsWord rest) : firstWord (word ++ rest) = (word, rest.tail) := by
  have hpos : ∀ c ∈ word, (!isBlank c) = true := by
    intro c hc
    rw [hword c hc]
    rfl
  have hstop : rest.takeWhile (fun c => !isBlank c) = [] ∧
      rest.dropWhile (fun c => !isBlank c) = rest := by
    cases rest with
    | nil => exact ⟨rfl, rfl⟩
    | cons c rest => simp [hrest c rfl]
  rw [firstWord, List.takeWhile_append_of_pos hpos, List.dropWhile_append_of_pos hpos, hstop.1,
    hstop.2, List.append_nil]

theorem EndsWord.of_prefix {cs start : List Char} (h : EndsWord cs) (hstart : start <+: cs) :
    EndsWord start := by
  obtain ⟨rest, rfl⟩ := hstart
  intro c hc
  apply h
  rw [List.head?_append, hc]
  rfl

theorem endsWord_append {blanks : List Char} (hne : blanks ≠ [])
    (h : ∀ c ∈ blanks, isBlank c = true) (cs : List Char) : EndsWord (blanks ++ cs) := by
  intro c hc
  rw [List.head?_append_of_ne_nil _ hne] at hc
  exact h c (List.mem_of_mem_head? hc)

/-- Trimming takes blank characters away and nothing else. -/
theorem exists_margins (cs : List Char) :
    ∃ front back, cs = front ++ (trim cs ++ back) ∧ (∀ c ∈ front, isBlank c = true) ∧
      ∀ c ∈ back, isBlank c = true := by
  refine ⟨cs.takeWhile isBlank, (cs.dropWhile isBlank).rtakeWhile isBlank, ?_,
    fun _ => List.mem_takeWhile_imp, fun _ => List.mem_rtakeWhile_imp⟩
  have htrim : trim cs = (cs.dropWhile isBlank).rdropWhile isBlank := rfl
  rw [htrim, List.rdropWhile_append_rtakeWhile, List.takeWhile_append_dropWhile]

theorem trim_margins {front back : List Char} (hfront : ∀ c ∈ front, isBlank c = true)
    (hback : ∀ c ∈ back, isBlank c = true) (cs : List Char) :
    trim (front ++ (cs ++ back)) = trim cs := by
  rw [trim_blanks_append hfront, trim_append_blanks hback]

theorem trim_trim (cs : List Char) : trim (trim cs) = trim cs := by
  obtain ⟨front, back, hcs, hfront, hback⟩ := exists_margins cs
  conv_rhs => rw [hcs, trim_margins hfront hback]

/-! ### Words -/

/-- A stretch of text without blank characters. -/
def IsWord (word : List Char) : Prop := word ≠ [] ∧ ∀ c ∈ word, isBlank c = false

theorem words_append_cons (cs : List Char) {c : Char} (hc : isBlank c = true) (rest : List Char) :
    words (cs ++ c :: rest) = words cs ++ words rest := by
  rw [words, List.splitOnP_append_cons cs rest hc, List.filter_append, words, words]

theorem words_cons_of_isBlank {c : Char} (hc : isBlank c = true) (cs : List Char) :
    words (c :: cs) = words cs := words_append_cons [] hc cs

theorem words_blanks_append {blanks : List Char} (h : ∀ c ∈ blanks, isBlank c = true)
    (cs : List Char) : words (blanks ++ cs) = words cs := by
  induction blanks with
  | nil => rfl
  | cons c blanks ih =>
    rw [List.forall_mem_cons] at h
    rw [List.cons_append, words_cons_of_isBlank h.1, ih h.2]

theorem words_append_blanks {blanks : List Char} (h : ∀ c ∈ blanks, isBlank c = true)
    (cs : List Char) : words (cs ++ blanks) = words cs := by
  cases blanks with
  | nil => rw [List.append_nil]
  | cons c blanks =>
    rw [List.forall_mem_cons] at h
    have hnone : words blanks = [] := by simpa [words] using words_blanks_append h.2 []
    rw [words_append_cons cs h.1, hnone, List.append_nil]

theorem words_trim (cs : List Char) : words (trim cs) = words cs := by
  obtain ⟨front, back, hcs, hfront, hback⟩ := exists_margins cs
  conv_rhs => rw [hcs, words_blanks_append hfront, words_append_blanks hback]

theorem words_word {word : List Char} (h : IsWord word) : words word = [word] := by
  rw [words, List.splitOnP_eq_singleton h.2]
  simp [h.1]

theorem words_word_append {word rest : List Char} (hword : IsWord word) (hrest : EndsWord rest) :
    words (word ++ rest) = word :: words rest := by
  cases rest with
  | nil =>
    rw [List.append_nil, words_word hword]
    rfl
  | cons c rest =>
    have hc : isBlank c = true := hrest c rfl
    rw [words_append_cons word hc, words_word hword, words_cons_of_isBlank hc]
    rfl

/-- A text is blank, or its first word stands behind the blank characters at its start. -/
theorem exists_word {cs : List Char} (h : ¬ ∀ c ∈ cs, isBlank c = true) :
    ∃ front word rest, cs = front ++ (word ++ rest) ∧ (∀ c ∈ front, isBlank c = true) ∧
      IsWord word ∧ EndsWord rest := by
  have hcs : cs = cs.takeWhile isBlank ++ cs.dropWhile isBlank :=
    List.takeWhile_append_dropWhile.symm
  cases htail : cs.dropWhile isBlank with
  | nil => exact absurd (List.dropWhile_eq_nil_iff.mp htail) h
  | cons c tail =>
    have hc : isBlank c = false := by
      have hhead := List.head?_dropWhile_not isBlank cs
      rw [htail] at hhead
      exact hhead
    have hword : IsWord ((c :: tail).takeWhile fun c => !isBlank c) :=
      ⟨by simp [hc], fun _ => not_isBlank_of_mem_takeWhile⟩
    rw [htail, ← List.takeWhile_append_dropWhile (p := fun c => !isBlank c) (l := c :: tail)] at hcs
    exact ⟨_, _, _, hcs, fun _ => List.mem_takeWhile_imp, hword, endsWord_dropWhile _⟩

theorem words_eq_nil_iff {cs : List Char} : words cs = [] ↔ ∀ c ∈ cs, isBlank c = true := by
  constructor
  · intro hwords
    by_contra hblank
    obtain ⟨front, word, rest, rfl, hfront, hword, hrest⟩ := exists_word hblank
    rw [words_blanks_append hfront, words_word_append hword hrest] at hwords
    cases hwords
  · intro hblank
    simpa [words] using words_blanks_append hblank []

theorem words_eq_cons_iff {cs word : List Char} {more : List (List Char)} :
    words cs = word :: more ↔
      ∃ front rest, cs = front ++ (word ++ rest) ∧ (∀ c ∈ front, isBlank c = true) ∧
        IsWord word ∧ EndsWord rest ∧ words rest = more := by
  constructor
  · intro hwords
    have hblank : ¬ ∀ c ∈ cs, isBlank c = true := by
      rw [← words_eq_nil_iff, hwords]
      exact List.cons_ne_nil word more
    obtain ⟨front, first, rest, rfl, hfront, hfirst, hrest⟩ := exists_word hblank
    rw [words_blanks_append hfront, words_word_append hfirst hrest] at hwords
    obtain ⟨rfl, rfl⟩ := List.cons.inj hwords
    exact ⟨front, rest, rfl, hfront, hfirst, hrest, rfl⟩
  · intro hcs
    obtain ⟨front, rest, rfl, hfront, hword, hrest, rfl⟩ := hcs
    rw [words_blanks_append hfront, words_word_append hword hrest]

/-- Two words with blank characters between them. Around them there may be more. -/
def TwoWords (cs first second : List Char) : Prop :=
  ∃ front gap back, cs = front ++ (first ++ (gap ++ (second ++ back))) ∧
    (∀ c ∈ front, isBlank c = true) ∧ IsWord first ∧
    gap ≠ [] ∧ (∀ c ∈ gap, isBlank c = true) ∧ IsWord second ∧ ∀ c ∈ back, isBlank c = true

theorem words_eq_pair_iff {cs first second : List Char} :
    words cs = [first, second] ↔ TwoWords cs first second := by
  constructor
  · intro hwords
    obtain ⟨front, rest, rfl, hfront, hfirst, hrest, hwords⟩ := words_eq_cons_iff.mp hwords
    obtain ⟨gap, back, rfl, hgap, hsecond, -, hback⟩ := words_eq_cons_iff.mp hwords
    refine ⟨front, gap, back, rfl, hfront, hfirst, ?_, hgap, hsecond, words_eq_nil_iff.mp hback⟩
    -- without a gap the first word would go on
    rintro rfl
    obtain ⟨c, word, rfl⟩ := List.exists_cons_of_ne_nil hsecond.1
    have hblank : isBlank c = true := hrest c rfl
    rw [hsecond.2 c List.mem_cons_self] at hblank
    cases hblank
  · intro hcs
    obtain ⟨front, gap, back, rfl, hfront, hfirst, hne, hgap, hsecond, hback⟩ := hcs
    rw [words_blanks_append hfront, words_word_append hfirst (endsWord_append hne hgap _),
      words_blanks_append hgap, words_append_blanks hback, words_word hsecond]

end IntervalRegex.Text
