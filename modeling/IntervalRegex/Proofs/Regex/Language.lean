import IntervalRegex.Regex.Reader
import Mathlib.Computability.Language

/-!
# The language of an expression

An expression without anchors matches the same words wherever it starts, so it denotes a language.
The expression is put together by the reader one atom and one branch at a time; a frame, which is
such an expression in the making, denotes the language of its finished branches and the one of the
branch it is in.
-/

namespace IntervalRegex.Regex

variable {d : Dialect}

/-- From any position of any text, the expression matches the words of the language and nothing
else. -/
def Denotes (d : Dialect) (r : Regex) (L : Language Char) : Prop :=
  ∀ before rest j, r.Matches d (before ++ rest) before.length j ↔
    ∃ word ∈ L, ∃ after, rest = word ++ after ∧ j = before.length + word.length

theorem denotes_empty : Denotes d .empty 1 := by
  intro before rest j
  simp only [Matches, Language.mem_one]
  constructor
  · rintro rfl
    exact ⟨[], rfl, rest, rfl, rfl⟩
  · intro hmatch
    obtain ⟨word, rfl, after, -, rfl⟩ := hmatch
    rfl

theorem denotes_char (set : CharSet) :
    Denotes d (.char set) {word | ∃ c, set.mem d c = true ∧ word = [c]} := by
  intro before rest j
  simp only [Matches, List.getElem?_append_right (Nat.le_refl before.length), Nat.sub_self]
  constructor
  · intro hmatch
    obtain ⟨rfl, c, hc, hmem⟩ := hmatch
    cases rest with
    | nil => cases hc
    | cons x rest =>
      cases hc
      exact ⟨[c], ⟨c, hmem, rfl⟩, rest, rfl, rfl⟩
  · intro hmatch
    obtain ⟨word, ⟨c, hmem, rfl⟩, after, rfl, rfl⟩ := hmatch
    exact ⟨rfl, c, rfl, hmem⟩

variable {r r₁ r₂ : Regex} {L L₁ L₂ : Language Char}

theorem Denotes.seq (h₁ : Denotes d r₁ L₁) (h₂ : Denotes d r₂ L₂) :
    Denotes d (.seq r₁ r₂) (L₁ * L₂) := by
  intro before rest j
  simp only [Matches, Language.mem_mul]
  constructor
  · intro hmatch
    obtain ⟨k, hfirst, hsecond⟩ := hmatch
    obtain ⟨u, hu, after, rfl, rfl⟩ := (h₁ before rest k).mp hfirst
    rw [← List.append_assoc, ← List.length_append] at hsecond
    obtain ⟨v, hv, after, rfl, rfl⟩ := (h₂ (before ++ u) after j).mp hsecond
    refine ⟨u ++ v, ⟨u, hu, v, hv, rfl⟩, after, (List.append_assoc _ _ _).symm, ?_⟩
    simp only [List.length_append]
    omega
  · intro hmatch
    obtain ⟨-, ⟨u, hu, v, hv, rfl⟩, after, rfl, rfl⟩ := hmatch
    refine ⟨before.length + u.length, (h₁ before _ _).mpr ⟨u, hu, v ++ after, ?_, rfl⟩, ?_⟩
    · rw [List.append_assoc]
    · have hsecond := (h₂ (before ++ u) (v ++ after) _).mpr ⟨v, hv, after, rfl, rfl⟩
      simpa only [List.append_assoc, List.length_append, Nat.add_assoc] using hsecond

theorem Denotes.alt (h₁ : Denotes d r₁ L₁) (h₂ : Denotes d r₂ L₂) :
    Denotes d (.alt r₁ r₂) (L₁ + L₂) := by
  intro before rest j
  simp only [Matches, h₁ before rest j, h₂ before rest j, Language.mem_add]
  constructor
  · intro hmatch
    rcases hmatch with ⟨word, hword, hrest⟩ | ⟨word, hword, hrest⟩
    · exact ⟨word, .inl hword, hrest⟩
    · exact ⟨word, .inr hword, hrest⟩
  · intro hmatch
    obtain ⟨word, hword | hword, hrest⟩ := hmatch
    · exact .inl ⟨word, hword, hrest⟩
    · exact .inr ⟨word, hword, hrest⟩

/-- A fixed number of repetitions written out. -/
def unrolled (r : Regex) : Nat → Regex
  | 0 => .empty
  | count + 1 => .seq r (r.unrolled count)

theorem matches_unrolled_iff {s : List Char} {count i j : Nat} :
    (r.unrolled count).Matches d s i j ↔ Steps (r.Matches d s) count i j := by
  induction count generalizing i with
  | zero => rfl
  | succ count ih => simp only [unrolled, Matches, Steps, ih]

theorem Denotes.unrolled (h : Denotes d r L) (count : Nat) :
    Denotes d (r.unrolled count) (L ^ count) := by
  induction count with
  | zero =>
    rw [pow_zero]
    exact denotes_empty
  | succ count ih =>
    rw [pow_succ']
    exact h.seq ih

theorem Denotes.times (h : Denotes d r L) (count : Nat) :
    Denotes d (.times r count (some count)) (L ^ count) := by
  intro before rest j
  rw [← h.unrolled count before rest j, matches_unrolled_iff]
  simp only [Matches, Option.some.injEq]
  constructor
  · intro hmatch
    obtain ⟨n, hmin, hmax, hn⟩ := hmatch
    obtain rfl := Nat.le_antisymm (hmax count rfl) hmin
    exact hn
  · intro hn
    exact ⟨count, Nat.le_refl count, fun m hm => Nat.le_of_eq hm, hn⟩

/-- What is matched from the start of a text to its end. -/
theorem Denotes.matches_iff (h : Denotes d r L) {s : List Char} :
    r.Matches d s 0 s.length ↔ s ∈ L := by
  have hall := h [] s s.length
  rw [List.nil_append, List.length_nil] at hall
  rw [hall]
  constructor
  · intro hmatch
    obtain ⟨word, hword, after, rfl, hlength⟩ := hmatch
    obtain rfl : after = [] := by
      rw [List.length_append] at hlength
      exact List.length_eq_zero_iff.mp (by omega)
    rwa [List.append_nil]
  · intro hs
    exact ⟨s, hs, [], (List.append_nil s).symm, (Nat.zero_add _).symm⟩

namespace Frame

/-- The finished branches and the current one, each with what may still be read behind it. -/
structure Denotes (d : Dialect) (frame : Frame) (before current : Language Char) : Prop where
  branches : ∀ {r L}, Regex.Denotes d r L →
    Regex.Denotes d (frame.branches.foldl (fun regex branch => .alt branch regex) r) (before + L)
  atoms : ∀ {r L}, Regex.Denotes d r L →
    Regex.Denotes d (frame.atoms.foldl (fun regex atom => .seq atom regex) r) (current * L)

variable {frame : Frame} {before current : Language Char}

theorem denotes_empty : Frame.empty.Denotes d 0 1 where
  branches h := by rwa [zero_add]
  atoms h := by rwa [one_mul]

theorem Denotes.addAtom (h : frame.Denotes d before current) (hr : r.Denotes d L) :
    (frame.addAtom r).Denotes d before (current * L) where
  branches := h.branches
  atoms hrest := by
    rw [mul_assoc]
    exact h.atoms (hr.seq hrest)

theorem Denotes.branch (h : frame.Denotes d before current) :
    frame.branch.Denotes d current := by
  have hbranch := h.atoms Regex.denotes_empty
  rwa [mul_one] at hbranch

theorem Denotes.addBar (h : frame.Denotes d before current) :
    frame.addBar.Denotes d (before + current) 1 where
  branches hrest := by
    rw [add_assoc]
    exact h.branches (h.branch.alt hrest)
  atoms hrest := by rwa [one_mul]

theorem Denotes.regex (h : frame.Denotes d before current) :
    frame.regex.Denotes d (before + current) :=
  h.branches h.branch

/-- Whether all that has been read so far is allowed in the dialect. -/
def Fits (d : Dialect) (frame : Frame) : Prop :=
  (∀ r ∈ frame.branches, r.fits d = true) ∧ ∀ r ∈ frame.atoms, r.fits d = true

theorem fits_empty : Frame.empty.Fits d := by
  constructor <;> simp [Frame.empty]

theorem Fits.addAtom (h : frame.Fits d) (hr : r.fits d = true) : (frame.addAtom r).Fits d := by
  refine ⟨h.1, ?_⟩
  rw [Frame.addAtom, List.forall_mem_cons]
  exact ⟨hr, h.2⟩

theorem fits_foldl {combine : Regex → Regex → Regex}
    (hcombine : ∀ r₁ r₂, (combine r₁ r₂).fits d = (r₂.fits d && r₁.fits d)) {rs : List Regex}
    (hrs : ∀ r ∈ rs, r.fits d = true) (hr : r.fits d = true) :
    (rs.foldl combine r).fits d = true := by
  induction rs generalizing r with
  | nil => exact hr
  | cons first rs ih =>
    rw [List.forall_mem_cons] at hrs
    apply ih hrs.2
    rw [hcombine, hrs.1, hr]
    rfl

theorem Fits.branch (h : frame.Fits d) : frame.branch.fits d = true :=
  fits_foldl (fun _ _ => rfl) h.2 rfl

theorem Fits.addBar (h : frame.Fits d) : frame.addBar.Fits d := by
  refine ⟨?_, by simp [Frame.addBar]⟩
  rw [Frame.addBar, List.forall_mem_cons]
  exact ⟨h.branch, h.1⟩

theorem Fits.regex (h : frame.Fits d) : frame.regex.fits d = true :=
  fits_foldl (fun _ _ => rfl) h.1 h.branch

end Frame

end IntervalRegex.Regex
