import IntervalRegex.Proofs.Fragment.Language

/-!
# Fragments for consecutive intervals

The alternatives of an interval of numbers stand for intervals that follow each other without a gap,
so that every number of the whole is in exactly one of them. Intervals are half open here: a tiling
up to `mid` and one from `mid` on make one. What the fragments of a tiling stand for does not depend
on whether they may stand beside others, so the two are kept apart.

In a positional notation a number is written as its leading place and then the rest. An interval of
rests behind one leading place is an interval again, and so are all rests behind consecutive ones.
-/

namespace IntervalRegex.Fragment

/-- How the numbers from `lo` on and below `hi` are written. -/
def between (word : Nat → List Char) (lo hi : Nat) : Language Char :=
  {text | ∃ n, lo ≤ n ∧ n < hi ∧ text = word n}

theorem mem_between_iff {word : Nat → List Char} {lo hi : Nat} {text : List Char} :
    text ∈ between word lo hi ↔ ∃ n, lo ≤ n ∧ n < hi ∧ text = word n := Iff.rfl

theorem between_self (word : Nat → List Char) (n : Nat) : between word n (n + 1) = {word n} := by
  ext text
  rw [mem_between_iff]
  constructor
  · intro htext
    obtain ⟨m, hlo, hhi, rfl⟩ := htext
    obtain rfl := Nat.le_antisymm (Nat.le_of_lt_succ hhi) hlo
    rfl
  · intro htext
    exact ⟨n, Nat.le_refl n, Nat.lt_succ_self n, htext⟩

theorem between_congr {word word' : Nat → List Char} {lo hi : Nat}
    (h : ∀ n, lo ≤ n → n < hi → word n = word' n) : between word lo hi = between word' lo hi := by
  ext text
  rw [mem_between_iff, mem_between_iff]
  apply exists_congr
  intro n
  constructor
  · intro htext
    obtain ⟨hlo, hhi, rfl⟩ := htext
    exact ⟨hlo, hhi, h n hlo hhi⟩
  · intro htext
    obtain ⟨hlo, hhi, rfl⟩ := htext
    exact ⟨hlo, hhi, (h n hlo hhi).symm⟩

theorem between_mul_singleton (word : Nat → List Char) (lo hi : Nat) (suffix : List Char) :
    between word lo hi * {suffix} = between (fun n => word n ++ suffix) lo hi := by
  ext text
  rw [Language.mem_mul, mem_between_iff]
  constructor
  · intro htext
    obtain ⟨-, ⟨n, hlo, hhi, rfl⟩, -, rfl, rfl⟩ := htext
    exact ⟨n, hlo, hhi, rfl⟩
  · intro htext
    obtain ⟨n, hlo, hhi, rfl⟩ := htext
    exact ⟨word n, ⟨n, hlo, hhi, rfl⟩, suffix, rfl, rfl⟩

/-! ### A leading place -/

/-- Numbers with a leading place below `base` and a rest below `size` are written place by place. -/
def Leads (head tail word : Nat → List Char) (base size : Nat) : Prop :=
  ∀ d n, d < base → n < size → word (d * size + n) = head d ++ tail n

section Leads

variable {head tail word : Nat → List Char} {base size first stop lo hi : Nat}

theorem Leads.mem_mul_iff (h : Leads head tail word base size) (hstop : stop ≤ base)
    (hhi : hi ≤ size) {text : List Char} :
    text ∈ between head first stop * between tail lo hi ↔
      ∃ d n, first ≤ d ∧ d < stop ∧ lo ≤ n ∧ n < hi ∧ text = word (d * size + n) := by
  rw [Language.mem_mul]
  constructor
  · intro htext
    obtain ⟨-, ⟨d, hfirst, hd, rfl⟩, -, ⟨n, hlo, hn, rfl⟩, rfl⟩ := htext
    refine ⟨d, n, hfirst, hd, hlo, hn, ?_⟩
    rw [h d n (by omega) (by omega)]
  · intro htext
    obtain ⟨d, n, hfirst, hd, hlo, hn, rfl⟩ := htext
    refine ⟨head d, ⟨d, hfirst, hd, rfl⟩, tail n, ⟨n, hlo, hn, rfl⟩, ?_⟩
    rw [h d n (by omega) (by omega)]

/-- One leading place moves an interval of rests up. -/
theorem Leads.mul_between (h : Leads head tail word base size) {d : Nat} (hd : d < base)
    (hhi : hi ≤ size) :
    {head d} * between tail lo hi = between word (d * size + lo) (d * size + hi) := by
  ext text
  rw [← between_self head d, h.mem_mul_iff hd hhi, mem_between_iff]
  constructor
  · intro htext
    obtain ⟨x, n, hfirst, hlast, hlo, hn, rfl⟩ := htext
    obtain rfl := Nat.le_antisymm (Nat.le_of_lt_succ hlast) hfirst
    exact ⟨x * size + n, by omega, by omega, rfl⟩
  · intro htext
    obtain ⟨n, hlo, hn, rfl⟩ := htext
    refine ⟨d, n - d * size, Nat.le_refl d, Nat.lt_succ_self d, by omega, by omega, ?_⟩
    rw [Nat.add_sub_cancel' (by omega)]

/-- Whole leading places make a block of all numbers that begin with one of them. -/
theorem Leads.between_mul_all (h : Leads head tail word base size) (hsize : 0 < size)
    (hstop : stop ≤ base) :
    between head first stop * between tail 0 size = between word (first * size) (stop * size) := by
  ext text
  rw [h.mem_mul_iff hstop (Nat.le_refl size), mem_between_iff]
  constructor
  · intro htext
    obtain ⟨d, n, hfirst, hd, -, hn, rfl⟩ := htext
    refine ⟨d * size + n, ?_, ?_, rfl⟩
    · exact Nat.le_trans (Nat.mul_le_mul_right size hfirst) (Nat.le_add_right _ n)
    · have hnext : (d + 1) * size ≤ stop * size := Nat.mul_le_mul_right size hd
      rw [Nat.succ_mul] at hnext
      omega
  · intro htext
    obtain ⟨n, hlo, hn, rfl⟩ := htext
    refine ⟨n / size, n % size, ?_, ?_, Nat.zero_le _, Nat.mod_lt n hsize, ?_⟩
    · rwa [Nat.le_div_iff_mul_le hsize]
    · rwa [Nat.div_lt_iff_lt_mul hsize]
    · rw [Nat.div_add_mod']

end Leads

/-! ### Intervals in a row -/

/-- The fragments stand, in order, for intervals that fill the one from `lo` to `hi`. -/
def Fills (word : Nat → List Char) : (lo hi : Nat) → List Fragment → Prop
  | lo, hi, [] => lo = hi
  | lo, hi, f :: fragments =>
    ∃ mid, lo < mid ∧ f.lang = between word lo mid ∧ Fills word mid hi fragments

variable {word : Nat → List Char} {lo mid hi : Nat} {f : Fragment} {fragments : List Fragment}

theorem fills_singleton (hlt : lo < hi) (hlang : f.lang = between word lo hi) :
    Fills word lo hi [f] :=
  ⟨hi, hlt, hlang, rfl⟩

theorem Fills.append {more : List Fragment} (h : Fills word lo mid fragments)
    (hmore : Fills word mid hi more) : Fills word lo hi (fragments ++ more) := by
  induction fragments generalizing lo with
  | nil =>
    obtain rfl : lo = mid := h
    exact hmore
  | cons f fragments ih =>
    obtain ⟨next, hlt, hlang, hrest⟩ := h
    exact ⟨next, hlt, hlang, ih hrest⟩

theorem Fills.le (h : Fills word lo hi fragments) : lo ≤ hi := by
  induction fragments generalizing lo with
  | nil => exact Nat.le_of_eq h
  | cons f fragments ih =>
    obtain ⟨next, hlt, -, hrest⟩ := h
    exact Nat.le_trans (Nat.le_of_lt hlt) (ih hrest)

theorem Fills.ne_nil (h : Fills word lo hi fragments) (hlt : lo < hi) : fragments ≠ [] := by
  rintro rfl
  exact absurd h (Nat.ne_of_lt hlt)

theorem Fills.exists_mem_lang_iff (h : Fills word lo hi fragments) {text : List Char} :
    (∃ f ∈ fragments, text ∈ f.lang) ↔ text ∈ between word lo hi := by
  induction fragments generalizing lo with
  | nil =>
    obtain rfl : lo = hi := h
    constructor
    · intro htext
      obtain ⟨f, hf, -⟩ := htext
      cases hf
    · intro htext
      obtain ⟨n, hlo, hhi, -⟩ := htext
      exact absurd hhi (Nat.not_lt.mpr hlo)
  | cons f fragments ih =>
    obtain ⟨next, hlt, hlang, hrest⟩ := h
    have hle := hrest.le
    rw [List.exists_mem_cons_iff, hlang, ih hrest]
    constructor
    · intro htext
      rcases htext with ⟨n, hlo, hhi, rfl⟩ | ⟨n, hlo, hhi, rfl⟩
      · exact ⟨n, hlo, Nat.lt_of_lt_of_le hhi hle, rfl⟩
      · exact ⟨n, by omega, hhi, rfl⟩
    · intro htext
      obtain ⟨n, hlo, hhi, rfl⟩ := htext
      rcases Nat.lt_or_ge n next with hn | hn
      · exact .inl ⟨n, hlo, hn, rfl⟩
      · exact .inr ⟨n, hn, hhi, rfl⟩

/-- The choice of all of them stands for the whole interval. -/
theorem Fills.lang_oneOf (h : Fills word lo hi fragments) (hlt : lo < hi) :
    (oneOf fragments).lang = between word lo hi := by
  ext text
  rw [mem_lang_oneOf_iff (h.ne_nil hlt), h.exists_mem_lang_iff]

/-! ### Tilings -/

/-- The fragments may stand beside any other as well. -/
def Tiles (word : Nat → List Char) : (lo hi : Nat) → List Fragment → Prop
  | lo, hi, [] => lo = hi
  | lo, hi, f :: fragments =>
    f.Closed ∧ ∃ mid, lo < mid ∧ f.lang = between word lo mid ∧ Tiles word mid hi fragments

theorem tiles_iff :
    Tiles word lo hi fragments ↔ (∀ f ∈ fragments, f.Closed) ∧ Fills word lo hi fragments := by
  induction fragments generalizing lo with
  | nil => simp [Tiles, Fills]
  | cons f fragments ih =>
    rw [List.forall_mem_cons]
    constructor
    · intro htiles
      obtain ⟨hclosed, next, hlt, hlang, hrest⟩ := htiles
      obtain ⟨hall, hfills⟩ := ih.mp hrest
      exact ⟨⟨hclosed, hall⟩, next, hlt, hlang, hfills⟩
    · intro hfills
      obtain ⟨⟨hclosed, hall⟩, next, hlt, hlang, hrest⟩ := hfills
      exact ⟨hclosed, next, hlt, hlang, ih.mpr ⟨hall, hrest⟩⟩

theorem Tiles.closed (h : Tiles word lo hi fragments) : ∀ f ∈ fragments, f.Closed :=
  (tiles_iff.mp h).1

theorem Tiles.fills (h : Tiles word lo hi fragments) : Fills word lo hi fragments :=
  (tiles_iff.mp h).2

theorem tiles_singleton (hclosed : f.Closed) (hlt : lo < hi)
    (hlang : f.lang = between word lo hi) : Tiles word lo hi [f] :=
  ⟨hclosed, hi, hlt, hlang, rfl⟩

theorem Tiles.append {more : List Fragment} (h : Tiles word lo mid fragments)
    (hmore : Tiles word mid hi more) : Tiles word lo hi (fragments ++ more) :=
  tiles_iff.mpr ⟨List.forall_mem_append.mpr ⟨h.closed, hmore.closed⟩, h.fills.append hmore.fills⟩

theorem Tiles.le (h : Tiles word lo hi fragments) : lo ≤ hi := h.fills.le

theorem Tiles.exists_mem_lang_iff (h : Tiles word lo hi fragments) {text : List Char} :
    (∃ f ∈ fragments, text ∈ f.lang) ↔ text ∈ between word lo hi := h.fills.exists_mem_lang_iff

theorem Tiles.lang_oneOf (h : Tiles word lo hi fragments) (hlt : lo < hi) :
    (oneOf fragments).lang = between word lo hi := h.fills.lang_oneOf hlt

theorem Tiles.lang (h : Tiles word lo hi [f]) : f.lang = between word lo hi := by
  obtain ⟨-, mid, -, hlang, rfl⟩ := h
  exact hlang

theorem Tiles.lt (h : Tiles word lo hi [f]) : lo < hi := by
  obtain ⟨-, mid, hlt, -, rfl⟩ := h
  exact hlt

theorem Tiles.oneOf (h : Tiles word lo hi fragments) (hlt : lo < hi) :
    Tiles word lo hi [Fragment.oneOf fragments] :=
  tiles_singleton (oneOf_closed h.closed) hlt (h.lang_oneOf hlt)

theorem Tiles.congr {word' : Nat → List Char} (h : Tiles word lo hi fragments)
    (hword : ∀ n, lo ≤ n → n < hi → word n = word' n) : Tiles word' lo hi fragments := by
  induction fragments generalizing lo with
  | nil => exact h
  | cons f fragments ih =>
    obtain ⟨hclosed, next, hlt, hlang, hrest⟩ := h
    have hle := hrest.le
    refine ⟨hclosed, next, hlt, ?_, ih hrest fun n hlo => hword n (by omega)⟩
    rw [hlang]
    exact between_congr fun n hlo hhi => hword n hlo (by omega)

end IntervalRegex.Fragment
