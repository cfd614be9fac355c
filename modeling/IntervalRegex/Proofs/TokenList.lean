import IntervalRegex.Proofs.Token.Block
import IntervalRegex.Proofs.Token.Range

/-!
# Lists of tokens match the union

The fragments of tokens leave no alternatives open, so that the choice of several has their
languages as its parts, and a single one keeps its own.
-/

namespace IntervalRegex

open Fragment

/-! ### Results of all members -/

theorem mapM_eq_ok_iff {α β ε : Type} {f : α → Except ε β} {xs : List α} {ys : List β} :
    xs.mapM f = .ok ys ↔ List.Forall₂ (fun x y => f x = .ok y) xs ys := by
  induction xs generalizing ys with
  | nil =>
    rw [List.mapM_nil, List.forall₂_nil_left_iff]
    constructor
    · intro h
      cases h
      rfl
    · intro h
      rw [h]
      rfl
  | cons x xs ih =>
    rw [List.mapM_cons, Regex.bind_eq_ok, List.forall₂_cons_left_iff]
    simp only [Regex.bind_eq_ok, ih]
    constructor
    · intro h
      obtain ⟨y, hy, ys, hys, hpure⟩ := h
      cases hpure
      exact ⟨y, ys, hy, hys, rfl⟩
    · intro h
      obtain ⟨y, ys, hy, hys, rfl⟩ := h
      exact ⟨y, hy, ys, hys, rfl⟩

theorem forall_mem_of_forall₂ {α β : Type} {R : α → β → Prop} {Q : β → Prop} {xs : List α}
    {ys : List β} (h : List.Forall₂ R xs ys) (hQ : ∀ x y, R x y → Q y) : ∀ y ∈ ys, Q y := by
  induction h with
  | nil => exact List.forall_mem_nil Q
  | cons hxy _ ih => exact List.forall_mem_cons.mpr ⟨hQ _ _ hxy, ih⟩

theorem exists_mem_iff_of_forall₂ {α β : Type} {R : α → β → Prop} {P : α → Prop} {Q : β → Prop}
    {xs : List α} {ys : List β} (h : List.Forall₂ R xs ys)
    (hiff : ∀ x y, R x y → (P x ↔ Q y)) : (∃ x ∈ xs, P x) ↔ ∃ y ∈ ys, Q y := by
  induction h with
  | nil => simp only [List.not_mem_nil, false_and, exists_false]
  | cons hxy _ ih => rw [List.exists_mem_cons_iff, List.exists_mem_cons_iff, hiff _ _ hxy, ih]

namespace Token

theorem fragment_closed {token : Token} {f : Fragment} (h : token.fragment = .ok f) : f.Closed := by
  cases token with
  | block fields bits =>
    cases h
    exact dotSeparated_closed (blockFragments_closed fields bits)
  | range r =>
    by_cases hlt : r.last.value < r.first.value
    · rw [fragment_range_of_lt hlt] at h
      cases h
    · obtain ⟨g, hg, hclosed, -⟩ := fragment_range_of_le (Nat.not_lt.mp hlt)
      rw [hg] at h
      cases h
      exact hclosed

theorem compile_closed {input : String} {f : Fragment} (h : compile input = .ok f) : f.Closed := by
  obtain ⟨token, -, hfragment⟩ := Regex.bind_eq_ok.mp h
  exact fragment_closed hfragment

theorem read_bind_pattern (input : String) :
    (read input).bind pattern = (compile input).map fun f => String.ofList f.text := by
  rw [compile]
  cases read input with
  | error e => rfl
  | ok token => rfl

theorem accepts_iff_mem_lang {token : String} {f : Fragment} (h : compile token = .ok f)
    {input : String} :
    (∃ p m, (read token).bind pattern = .ok p ∧ Matcher.compile .ascii p = .ok m ∧
        m.accepts input = true) ↔ input.toList ∈ f.lang := by
  obtain ⟨m, hcompile, haccepts⟩ := exists_compile (compile_closed h).1
  rw [read_bind_pattern, h, ← haccepts]
  constructor
  · intro hinput
    obtain ⟨p, m', hp, hm', hinput⟩ := hinput
    cases hp
    rw [hcompile] at hm'
    cases hm'
    exact hinput
  · intro hinput
    exact ⟨_, m, rfl, hcompile, hinput⟩

end Token

namespace TokenList

theorem fragment_eq_ok {list : String} {f : Fragment} (h : fragment list = .ok f) :
    ∃ fragments, fragments ≠ [] ∧ f = oneOf fragments ∧
      List.Forall₂ (fun token f => Token.compile token = .ok f) (tokens list) fragments := by
  unfold fragment at h
  split at h
  · cases h
  · next hblank =>
    cases hfragments : (tokens list).mapM Token.compile with
    | error e =>
      rw [hfragments] at h
      cases h
    | ok fragments =>
      rw [hfragments] at h
      cases h
      have htokens := mapM_eq_ok_iff.mp hfragments
      refine ⟨fragments, ?_, rfl, htokens⟩
      intro hnil
      rw [hnil, List.forall₂_nil_right_iff] at htokens
      exact hblank (by rw [htokens]; rfl)

theorem fragment_closed {list : String} {f : Fragment} (h : fragment list = .ok f) : f.Closed := by
  obtain ⟨fragments, -, rfl, htokens⟩ := fragment_eq_ok h
  apply oneOf_closed
  exact forall_mem_of_forall₂ htokens fun _ _ htoken => Token.compile_closed htoken

theorem mem_lang_fragment_iff {list : String} {f : Fragment} (h : fragment list = .ok f)
    {input : String} :
    input.toList ∈ f.lang ↔ ∃ token ∈ tokens list, ∃ p m,
      (Token.read token).bind Token.pattern = .ok p ∧ Matcher.compile .ascii p = .ok m ∧
        m.accepts input = true := by
  obtain ⟨fragments, hne, rfl, htokens⟩ := fragment_eq_ok h
  rw [mem_lang_oneOf_iff hne, exists_mem_iff_of_forall₂ htokens]
  intro token f htoken
  exact Token.accepts_iff_mem_lang htoken

/-- **Lists match the union.** A list that has a pattern has a matcher, and it matches what the
matcher of one of the tokens matches. The error of a list that has none is the only answer. -/
theorem tokensAccept_iff (list : String) :
    match pattern list with
    | .ok _ => ∃ m, Matcher.ofTokens list = .ok m ∧ ∀ input : String,
        Matcher.tokensAccept list input = .ok (m.accepts input) ∧
          (Matcher.tokensAccept list input = .ok true ↔ ∃ token ∈ tokens list, ∃ p mt,
            (Token.read token).bind Token.pattern = .ok p ∧ Matcher.compile .ascii p = .ok mt ∧
              mt.accepts input = true)
    | .error e => Matcher.ofTokens list = .error e ∧
        ∀ input : String, Matcher.tokensAccept list input = .error e := by
  cases hfragment : fragment list with
  | error e =>
    have hpattern : pattern list = .error e := by rw [pattern, hfragment]; rfl
    have hmatcher : Matcher.ofTokens list = .error e := by rw [Matcher.ofTokens, hpattern]; rfl
    rw [hpattern]
    refine ⟨hmatcher, ?_⟩
    intro input
    rw [Matcher.tokensAccept, hmatcher]
    rfl
  | ok f =>
    have hpattern : pattern list = .ok (String.ofList f.text) := by rw [pattern, hfragment]; rfl
    obtain ⟨m, hcompile, haccepts⟩ := exists_compile (fragment_closed hfragment).1
    have hmatcher : Matcher.ofTokens list = .ok m := by
      rw [Matcher.ofTokens, hpattern]
      exact hcompile
    have hresult : ∀ input : String,
        Matcher.tokensAccept list input = .ok (m.accepts input) := by
      intro input
      rw [Matcher.tokensAccept, hmatcher]
      rfl
    rw [hpattern]
    refine ⟨m, hmatcher, ?_⟩
    intro input
    refine ⟨hresult input, ?_⟩
    rw [hresult, Except.ok.injEq, haccepts, mem_lang_fragment_iff hfragment]

end TokenList

end IntervalRegex
