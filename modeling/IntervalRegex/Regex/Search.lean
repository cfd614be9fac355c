import IntervalRegex.Regex.Basic

/-!
# Searching a text

A set of positions is a natural number whose bit `i` says whether position `i` belongs to it. An
expression maps the positions where it may start to those where it can end, so a search costs a
number of steps polynomial in the sizes of the expression and of the text.

The main statement is `accepts_eq_true_iff`: the search finds a match exactly when there is one.
-/

namespace IntervalRegex.Regex

/-- The positions at which a character with the property stands. -/
def positions (p : Char → Bool) : List Char → Nat
  | [] => 0
  | c :: s => 2 * positions p s + (p c).toNat

/-- The positions reached from `S` by exactly `count` steps; stops once a step changes nothing. -/
def advance (f : Nat → Nat) : (count : Nat) → Nat → Nat
  | 0, S => S
  | count + 1, S =>
    let T := f S
    if T = S then S else advance f count T

/-- The positions reached from `S` by at most `count` steps; stops once nothing is added. -/
def closure (f : Nat → Nat) : (count : Nat) → Nat → Nat
  | 0, S => S
  | count + 1, S =>
    let T := S ||| f S
    if T = S then S else closure f count T

/-- The positions at which a match that starts in `S` can end. -/
def ends (d : Dialect) (s : List Char) : Regex → Nat → Nat
  | empty, S => S
  | char set, S => (S &&& positions (fun c => set.mem d c) s) <<< 1
  | start, S => S &&& 1
  | finish, S => S &&& 1 <<< s.length
  | seq first second, S =>
    let T := first.ends d s S
    if T = 0 then 0 else second.ends d s T
  | alt left right, S => left.ends d s S ||| right.ends d s S
  | times body min none, S => closure (body.ends d s) s.length (advance (body.ends d s) min S)
  | times body min (some max), S =>
    if max < min then 0
    else closure (body.ends d s) (max - min) (advance (body.ends d s) min S)

/-- Whether the text contains a match. -/
def accepts (d : Dialect) (s : List Char) (r : Regex) : Bool :=
  r.ends d s (1 <<< (s.length + 1) - 1) != 0

theorem testBit_positions (p : Char → Bool) (s : List Char) (i : Nat) :
    (positions p s).testBit i = true ↔ ∃ c, s[i]? = some c ∧ p c = true := by
  induction s generalizing i with
  | nil => simp [positions]
  | cons c s ih =>
    have hbit : (p c).toNat < 2 := Bool.toNat_lt _
    cases i with
    | zero =>
      have hmod : (2 * positions p s + (p c).toNat) % 2 = (p c).toNat := by omega
      simp [positions, Nat.testBit_zero, hmod]
    | succ i =>
      have hdiv : (2 * positions p s + (p c).toNat) / 2 = positions p s := by omega
      simp [positions, Nat.testBit_add_one, hdiv, ih]

theorem Steps.append {R : Nat → Nat → Prop} {m n i j k : Nat} (h₁ : Steps R m i j)
    (h₂ : Steps R n j k) : Steps R (m + n) i k := by
  induction m generalizing i with
  | zero =>
    obtain rfl : i = j := h₁
    simpa using h₂
  | succ m ih =>
    obtain ⟨l, hl, hrest⟩ := h₁
    rw [Nat.succ_add]
    exact ⟨l, hl, ih hrest⟩

theorem Steps.split {R : Nat → Nat → Prop} {m n i k : Nat} (h : Steps R (m + n) i k) :
    ∃ j, Steps R m i j ∧ Steps R n j k := by
  induction m generalizing i with
  | zero => exact ⟨i, rfl, by simpa using h⟩
  | succ m ih =>
    rw [Nat.succ_add] at h
    obtain ⟨l, hl, hrest⟩ := h
    obtain ⟨j, hj, hend⟩ := ih hrest
    exact ⟨j, ⟨l, hl, hj⟩, hend⟩

/-- Steps that stay where they are can be left out. -/
theorem Steps.shorten {R : Nat → Nat → Prop} (hR : ∀ i j, R i j → i ≤ j) {n i j : Nat}
    (h : Steps R n i j) : i ≤ j ∧ ∃ m, m ≤ j - i ∧ Steps R m i j := by
  induction n generalizing i with
  | zero =>
    obtain rfl : i = j := h
    exact ⟨Nat.le_refl _, 0, Nat.zero_le _, rfl⟩
  | succ n ih =>
    obtain ⟨k, hk, hrest⟩ := h
    obtain ⟨hkj, m, hm, hsteps⟩ := ih hrest
    have hik := hR i k hk
    refine ⟨Nat.le_trans hik hkj, ?_⟩
    rcases Nat.eq_or_lt_of_le hik with rfl | hlt
    · exact ⟨m, hm, hsteps⟩
    · exact ⟨m + 1, by omega, k, hk, hsteps⟩

theorem Matches.le_length {d : Dialect} {s : List Char} {r : Regex} {i j : Nat}
    (h : r.Matches d s i j) (hi : i ≤ s.length) : j ≤ s.length := by
  induction r generalizing i j with
  | empty => exact h ▸ hi
  | start | finish => exact h.1 ▸ hi
  | char set =>
    obtain ⟨rfl, c, hc, -⟩ := h
    have := (List.getElem?_eq_some_iff.mp hc).1
    omega
  | seq first second ih₁ ih₂ =>
    obtain ⟨k, hk₁, hk₂⟩ := h
    exact ih₂ hk₂ (ih₁ hk₁ hi)
  | alt left right ih₁ ih₂ => exact h.elim (ih₁ · hi) (ih₂ · hi)
  | times body min max ih =>
    obtain ⟨n, -, -, hn⟩ := h
    clear min max
    induction n generalizing i with
    | zero => exact hn ▸ hi
    | succ n ihn =>
      obtain ⟨k, hk, hrest⟩ := hn
      exact ihn (ih hk hi) hrest

/-- `Follows f R` says that `f` maps a set of positions to those that one step of `R` leads to. -/
def Follows (f : Nat → Nat) (R : Nat → Nat → Prop) : Prop :=
  ∀ S j, (f S).testBit j = true ↔ ∃ i, S.testBit i = true ∧ R i j

theorem Follows.closed {f : Nat → Nat} {R : Nat → Nat → Prop} (hf : Follows f R) {S : Nat}
    (hS : ∀ j, (f S).testBit j = true → S.testBit j = true) {n i j : Nat}
    (hi : S.testBit i = true) (h : Steps R n i j) : S.testBit j = true := by
  induction n generalizing i with
  | zero => exact h ▸ hi
  | succ n ih =>
    obtain ⟨k, hk, hrest⟩ := h
    exact ih (hS k ((hf S k).mpr ⟨i, hi, hk⟩)) hrest

theorem Follows.advance {f : Nat → Nat} {R : Nat → Nat → Prop} (hf : Follows f R) (n : Nat) :
    Follows (advance f n) (Steps R n) := by
  intro S j
  induction n generalizing S with
  | zero =>
    constructor
    · exact fun h => ⟨j, h, rfl⟩
    · rintro ⟨i, hi, rfl⟩
      exact hi
  | succ n ih =>
    have hstep : (∃ i, S.testBit i = true ∧ Steps R (n + 1) i j) ↔
        ∃ i, (f S).testBit i = true ∧ Steps R n i j := by
      constructor
      · rintro ⟨i, hi, k, hk, hrest⟩
        exact ⟨k, (hf S k).mpr ⟨i, hi, hk⟩, hrest⟩
      · rintro ⟨k, hk, hrest⟩
        obtain ⟨i, hi, hik⟩ := (hf S k).mp hk
        exact ⟨i, hi, k, hik, hrest⟩
    rw [hstep, ← ih (f S)]
    simp only [Regex.advance]
    split
    · next heq =>
      rw [heq]
      clear hstep ih
      induction n with
      | zero => rfl
      | succ n => simp [Regex.advance, heq]
    · rfl

theorem closure_follows {f : Nat → Nat} {R : Nat → Nat → Prop} (hf : Follows f R) (count : Nat) :
    Follows (closure f count) (fun i j => ∃ n, n ≤ count ∧ Steps R n i j) := by
  intro S j
  induction count generalizing S with
  | zero =>
    constructor
    · exact fun h => ⟨j, h, 0, Nat.le_refl _, rfl⟩
    · rintro ⟨i, hi, n, hn, hsteps⟩
      obtain rfl : n = 0 := Nat.le_zero.mp hn
      exact hsteps ▸ hi
  | succ count ih =>
    simp only [closure]
    split
    · next heq =>
      have hclosed : ∀ j, (f S).testBit j = true → S.testBit j = true := by
        intro j hj
        rw [← heq, Nat.testBit_or, hj, Bool.or_true]
      constructor
      · exact fun h => ⟨j, h, 0, Nat.zero_le _, rfl⟩
      · rintro ⟨i, hi, n, -, hsteps⟩
        exact hf.closed hclosed hi hsteps
    · rw [ih]
      constructor
      · rintro ⟨k, hk, n, hn, hsteps⟩
        rw [Nat.testBit_or, Bool.or_eq_true] at hk
        rcases hk with hk | hk
        · exact ⟨k, hk, n, Nat.le_succ_of_le hn, hsteps⟩
        · obtain ⟨i, hi, hik⟩ := (hf S k).mp hk
          exact ⟨i, hi, n + 1, Nat.succ_le_succ hn, k, hik, hsteps⟩
      · rintro ⟨i, hi, n, hn, hsteps⟩
        cases n with
        | zero => exact ⟨i, by simp [hi], 0, Nat.zero_le _, hsteps⟩
        | succ n =>
          obtain ⟨k, hk, hrest⟩ := hsteps
          have hmem : (f S).testBit k = true := (hf S k).mpr ⟨i, hi, hk⟩
          exact ⟨k, by simp [hmem], n, Nat.le_of_succ_le_succ hn, hrest⟩

/-- Beyond the text nothing but the empty match is left. -/
theorem Matches.eq_of_length_lt {d : Dialect} {s : List Char} {r : Regex} {i j : Nat}
    (h : r.Matches d s i j) (hi : s.length < i) : j = i := by
  induction r generalizing i j with
  | empty => exact h.symm
  | start | finish => exact h.1.symm
  | char set =>
    obtain ⟨-, c, hc, -⟩ := h
    have := (List.getElem?_eq_some_iff.mp hc).1
    omega
  | seq first second ih₁ ih₂ =>
    obtain ⟨k, hk₁, hk₂⟩ := h
    obtain rfl := ih₁ hk₁ hi
    exact ih₂ hk₂ hi
  | alt left right ih₁ ih₂ => exact h.elim (ih₁ · hi) (ih₂ · hi)
  | times body min max ih =>
    obtain ⟨n, -, -, hn⟩ := h
    clear min max
    induction n generalizing i with
    | zero => exact hn.symm
    | succ n ihn =>
      obtain ⟨k, hk, hrest⟩ := hn
      obtain rfl := ih hk hi
      exact ihn hi hrest

/-- No more than `s.length` steps of a body are ever needed. -/
theorem Steps.bounded {d : Dialect} {s : List Char} {r : Regex} {n i j : Nat}
    (h : Steps (r.Matches d s) n i j) : ∃ m, m ≤ s.length ∧ Steps (r.Matches d s) m i j := by
  have hspan : j - i ≤ s.length := by
    have htimes : (times r n (some n)).Matches d s i j :=
      ⟨n, Nat.le_refl _, fun m hm => Nat.le_of_eq (Option.some.inj hm), h⟩
    rcases Nat.lt_or_ge s.length i with hi | hi
    · have := htimes.eq_of_length_lt hi
      omega
    · have := htimes.le_length hi
      omega
  obtain ⟨-, m, hm, hsteps⟩ := h.shorten fun i j => Matches.le
  exact ⟨m, Nat.le_trans hm hspan, hsteps⟩

theorem ends_follows (d : Dialect) (s : List Char) (r : Regex) :
    Follows (r.ends d s) (r.Matches d s) := by
  intro S j
  induction r generalizing S j with
  | empty => simp [ends, Matches]
  | char set =>
    simp only [ends, Matches, Nat.testBit_shiftLeft, Nat.testBit_and, Bool.and_eq_true,
      decide_eq_true_eq, testBit_positions]
    constructor
    · rintro ⟨hj, hS, hc⟩
      exact ⟨j - 1, hS, by omega, hc⟩
    · rintro ⟨i, hi, rfl, hc⟩
      exact ⟨by omega, by simpa using hi, by simpa using hc⟩
  | start =>
    simp only [ends, Matches, Nat.testBit_and, Bool.and_eq_true,
      Nat.testBit_one_eq_true_iff_self_eq_zero]
    constructor
    · rintro ⟨hj, rfl⟩
      exact ⟨0, hj, rfl, rfl⟩
    · rintro ⟨i, hi, rfl, rfl⟩
      exact ⟨hi, rfl⟩
  | finish =>
    simp only [ends, Matches, Nat.testBit_and, Nat.one_shiftLeft, Nat.testBit_two_pow,
      Bool.and_eq_true, decide_eq_true_eq]
    constructor
    · rintro ⟨hj, rfl⟩
      exact ⟨s.length, hj, rfl, rfl⟩
    · rintro ⟨i, hi, rfl, rfl⟩
      exact ⟨hi, rfl⟩
  | seq first second ih₁ ih₂ =>
    have hboth : (second.ends d s (first.ends d s S)).testBit j = true ↔
        ∃ i, S.testBit i = true ∧ (seq first second).Matches d s i j := by
      rw [ih₂]
      constructor
      · rintro ⟨k, hk, hkj⟩
        obtain ⟨i, hi, hik⟩ := (ih₁ S k).mp hk
        exact ⟨i, hi, k, hik, hkj⟩
      · rintro ⟨i, hi, k, hik, hkj⟩
        exact ⟨k, (ih₁ S k).mpr ⟨i, hi, hik⟩, hkj⟩
    simp only [ends]
    split
    · next hzero =>
      rw [← hboth, hzero, ih₂]
      simp
    · exact hboth
  | alt left right ih₁ ih₂ =>
    simp only [ends, Matches, Nat.testBit_or, Bool.or_eq_true, ih₁, ih₂]
    constructor
    · rintro (⟨i, hi, h⟩ | ⟨i, hi, h⟩)
      · exact ⟨i, hi, .inl h⟩
      · exact ⟨i, hi, .inr h⟩
    · rintro ⟨i, hi, h | h⟩
      · exact .inl ⟨i, hi, h⟩
      · exact .inr ⟨i, hi, h⟩
  | times body min max ih =>
    have hbody : Follows (body.ends d s) (body.Matches d s) := ih
    cases max with
    | none =>
      simp only [ends, closure_follows hbody s.length _ j, hbody.advance min _ _]
      constructor
      · rintro ⟨k, ⟨i, hi, hik⟩, n, -, hkj⟩
        exact ⟨i, hi, min + n, Nat.le_add_right _ _, by simp, hik.append hkj⟩
      · rintro ⟨i, hi, n, hn, -, hsteps⟩
        obtain ⟨k, hik, hkj⟩ :=
          (show Steps (body.Matches d s) (min + (n - min)) i j by
            rwa [Nat.add_sub_cancel' hn]).split
        exact ⟨k, ⟨i, hi, hik⟩, hkj.bounded⟩
    | some max =>
      simp only [ends]
      split
      · next hlt =>
        simp only [Nat.zero_testBit, Bool.false_eq_true, false_iff]
        rintro ⟨i, -, n, hn, hmax, -⟩
        have := hmax max rfl
        omega
      · next hge =>
        simp only [closure_follows hbody _ _ j, hbody.advance min _ _]
        constructor
        · rintro ⟨k, ⟨i, hi, hik⟩, n, hn, hkj⟩
          refine ⟨i, hi, min + n, Nat.le_add_right _ _, ?_, hik.append hkj⟩
          intro m hm
          obtain rfl := Option.some.inj hm
          omega
        · rintro ⟨i, hi, n, hn, hmax, hsteps⟩
          have hle := hmax max rfl
          obtain ⟨k, hik, hkj⟩ :=
            (show Steps (body.Matches d s) (min + (n - min)) i j by
              rwa [Nat.add_sub_cancel' hn]).split
          exact ⟨k, ⟨i, hi, hik⟩, n - min, by omega, hkj⟩

theorem accepts_eq_true_iff {d : Dialect} {s : List Char} {r : Regex} :
    r.accepts d s = true ↔ r.Accepts d s := by
  have hends := ends_follows d s r (1 <<< (s.length + 1) - 1)
  simp only [Nat.one_shiftLeft, Nat.testBit_two_pow_sub_one, decide_eq_true_eq] at hends
  simp only [accepts, bne_iff_ne, Accepts, Nat.one_shiftLeft]
  constructor
  · intro h
    obtain ⟨j, hj⟩ := Nat.exists_testBit_of_ne_zero h
    obtain ⟨i, hi, hmatch⟩ := (hends j).mp hj
    exact ⟨i, j, Nat.le_of_lt_succ hi, hmatch⟩
  · rintro ⟨i, j, hi, hmatch⟩ hzero
    have := (hends j).mpr ⟨i, Nat.lt_succ_of_le hi, hmatch⟩
    simp [hzero] at this

end IntervalRegex.Regex
