import IntervalRegex.Proofs.Text.Blank
import IntervalRegex.Proofs.Token.Grammar
import IntervalRegex.Proofs.TokenList

/-!
# Refused lists

A list is refused for having no token at all, or else for the leftmost of its tokens that is
refused, and the error carries that token. Blank characters around the tokens have no part in it.
-/

namespace IntervalRegex

/-! ### The first member that fails -/

variable {α β ε : Type} {e : ε}

theorem bind_eq_error_iff {x : Except ε α} {f : α → Except ε β} :
    (x >>= f) = .error e ↔ x = .error e ∨ ∃ a, x = .ok a ∧ f a = .error e := by
  cases x with
  | error e' =>
    change Except.error e' = .error e ↔ _
    simp
  | ok a =>
    change f a = .error e ↔ _
    simp

theorem map_eq_error_iff {f : α → β} {x : Except ε α} : x.map f = .error e ↔ x = .error e := by
  cases x <;> simp [Except.map]

theorem exists_map_eq_ok_iff {f : α → β} {x : Except ε α} :
    (∃ b, x.map f = .ok b) ↔ ∃ a, x = .ok a := by
  cases x <;> simp [Except.map]

theorem mapM_eq_error_iff {f : α → Except ε β} {xs : List α} :
    xs.mapM f = .error e ↔ ∃ before x after, xs = before ++ x :: after ∧
      (∀ y ∈ before, ∃ b, f y = .ok b) ∧ f x = .error e := by
  induction xs with
  | nil =>
    constructor
    · intro h
      cases h
    · rintro ⟨before, x, after, hxs, -⟩
      exact absurd hxs.symm (List.append_ne_nil_of_right_ne_nil before (List.cons_ne_nil x after))
  | cons y xs ih =>
    simp only [List.mapM_cons, bind_eq_error_iff, ih]
    constructor
    · rintro (hy | ⟨b, hb, ⟨before, x, after, rfl, hbefore, hx⟩ | ⟨bs, -, hpure⟩⟩)
      · exact ⟨[], y, xs, rfl, List.forall_mem_nil _, hy⟩
      · exact ⟨y :: before, x, after, rfl, List.forall_mem_cons.mpr ⟨⟨b, hb⟩, hbefore⟩, hx⟩
      · cases hpure
    · rintro ⟨before, x, after, hxs, hbefore, hx⟩
      cases before with
      | nil =>
        cases hxs
        exact .inl hx
      | cons z before =>
        cases hxs
        obtain ⟨⟨b, hb⟩, hbefore⟩ := List.forall_mem_cons.mp hbefore
        exact .inr ⟨b, hb, .inl ⟨before, x, after, rfl, hbefore, hx⟩⟩

theorem exists_mapM_eq_ok_iff {f : α → Except ε β} {xs : List α} :
    (∃ ys, xs.mapM f = .ok ys) ↔ ∀ x ∈ xs, ∃ y, f x = .ok y := by
  induction xs with
  | nil => exact iff_of_true ⟨[], rfl⟩ (List.forall_mem_nil _)
  | cons x xs ih =>
    simp only [List.mapM_cons, Regex.bind_eq_ok, List.forall_mem_cons, ← ih]
    constructor
    · rintro ⟨-, y, hy, ys, hys, -⟩
      exact ⟨⟨y, hy⟩, ys, hys⟩
    · rintro ⟨⟨y, hy⟩, ys, hys⟩
      exact ⟨y :: ys, y, hy, ys, hys, rfl⟩

/-! ### Refused tokens -/

namespace Token

theorem error_of_fragment_range {r : AddressRange} {e : PatternError}
    (h : (range r).fragment = .error e) : e = .outOfOrder r.text := by
  by_cases hlt : r.last.value < r.first.value
  · rw [fragment_range_of_lt hlt] at h
    cases h
    rfl
  · obtain ⟨f, hf, -⟩ := fragment_range_of_le (Nat.not_lt.mp hlt)
    rw [hf] at h
    cases h

/-- A text that denotes a range is the text of that range, so that a range out of order is refused
with the token as it was written. -/
theorem error_of_denotes {input : String} {token : Token} {e : PatternError}
    (hdenotes : Denotes input.toList token) (h : token.fragment = .error e) :
    e = .outOfOrder input := by
  generalize hinput : input.toList = cs at hdenotes
  cases hdenotes with
  | quad _ => cases h
  | block _ _ _ => cases h
  | range first last =>
    have htext : AddressRange.text ⟨first, last⟩ = input := by
      rw [← String.toList_inj, hinput, AddressRange.text, String.toList_ofList, AddressRange.chars]
    rw [error_of_fragment_range h, htext]

theorem error_of_compile {input : String} {e : PatternError} (h : compile input = .error e) :
    e = .notToken input ∨ e = .missingBits input ∨ e = .incompleteStart input ∨
      e = .outOfOrder input := by
  cases hread : read input with
  | error e' =>
    rw [compile, hread] at h
    cases h
    cases read_eq_iff.mp hread with
    | notToken _ => exact .inl rfl
    | missingBits _ _ => exact .inr (.inl rfl)
    | incompleteStart _ _ _ => exact .inr (.inr (.inl rfl))
  | ok token =>
    rw [compile, hread] at h
    cases read_eq_iff.mp hread with
    | token hdenotes => exact .inr (.inr (.inr (error_of_denotes hdenotes h)))

theorem pattern_eq_error_iff {input : String} {e : PatternError} :
    (read input).bind pattern = .error e ↔ compile input = .error e := by
  rw [read_bind_pattern, map_eq_error_iff]

end Token

namespace TokenList

open Text

/-! ### Blank characters around tokens -/

/-- Only blank characters stand between this place and the separator, or the end of the text, on one
of its sides. -/
def Margin (before after : List Char) : Prop :=
  (∀ c ∈ before.rtakeWhile (· != ','), isBlank c = true) ∨
    ∀ c ∈ after.takeWhile (· != ','), isBlank c = true

theorem splitOn_append_takeWhile (after : List Char) :
    ∃ rest, ∀ piece : List Char, ',' ∉ piece →
      (piece ++ after).splitOn ',' = (piece ++ after.takeWhile (· != ',')) :: rest := by
  have hafter := List.takeWhile_append_dropWhile (p := (· != ',')) (l := after)
  have hmem {piece : List Char} (h : ',' ∉ piece) : ',' ∉ piece ++ after.takeWhile (· != ',') := by
    rw [List.mem_append, not_or]
    exact ⟨h, fun hc => absurd (List.mem_takeWhile_imp hc) (by decide)⟩
  cases hdrop : after.dropWhile (· != ',') with
  | nil =>
    rw [hdrop, List.append_nil] at hafter
    refine ⟨[], fun piece hpiece => ?_⟩
    rw [← List.splitOn_eq_singleton (hmem hpiece), hafter]
  | cons c rest =>
    have hc := List.head?_dropWhile_not (· != ',') after
    rw [hdrop] at hafter hc
    obtain rfl : c = ',' := by simpa using hc
    refine ⟨rest.splitOn ',', fun piece hpiece => ?_⟩
    rw [← List.splitOn_append_cons_self_of_not_mem (hmem hpiece), List.append_assoc, hafter]

theorem splitOn_append_rtakeWhile (before : List Char) :
    ∃ front, ∀ rest : List Char,
      (before ++ rest).splitOn ',' = front ++ (before.rtakeWhile (· != ',') ++ rest).splitOn ',' := by
  have hbefore := List.rdropWhile_append_rtakeWhile (p := (· != ',')) (l := before)
  rcases List.eq_nil_or_concat' (before.rdropWhile (· != ',')) with hdrop | ⟨front, c, hdrop⟩
  · rw [hdrop, List.nil_append] at hbefore
    refine ⟨[], fun rest => ?_⟩
    rw [hbefore, List.nil_append]
  · have hc := List.rdropWhile_last_not (· != ',') before (by rw [hdrop]; simp)
    obtain rfl : c = ',' := by simpa [hdrop] using hc
    rw [hdrop] at hbefore
    refine ⟨front.splitOn ',', fun rest => ?_⟩
    calc (before ++ rest).splitOn ',' =
        (front ++ [','] ++ before.rtakeWhile (· != ',') ++ rest).splitOn ',' := by rw [hbefore]
      _ = (front ++ ',' :: (before.rtakeWhile (· != ',') ++ rest)).splitOn ',' := by
        rw [List.append_assoc, List.append_assoc, List.singleton_append]
      _ = front.splitOn ',' ++ (before.rtakeWhile (· != ',') ++ rest).splitOn ',' :=
        List.splitOn_append_cons_self front _

/-- The place lies in one piece of the text, between what the nearest separators leave of both
sides. -/
theorem exists_pieces (before after : List Char) :
    ∃ front rest, ∀ middle : List Char, ',' ∉ middle →
      (before ++ middle ++ after).splitOn ',' =
        front ++ (before.rtakeWhile (· != ',') ++ middle ++ after.takeWhile (· != ',')) :: rest := by
  obtain ⟨front, hfront⟩ := splitOn_append_rtakeWhile before
  obtain ⟨rest, hrest⟩ := splitOn_append_takeWhile after
  refine ⟨front, rest, fun middle hmiddle => ?_⟩
  have hpiece : ',' ∉ before.rtakeWhile (· != ',') ++ middle := by
    rw [List.mem_append, not_or]
    refine ⟨fun hmem => ?_, hmiddle⟩
    exact absurd (List.mem_rtakeWhile_imp hmem) (by decide)
  rw [List.append_assoc, hfront, ← List.append_assoc, hrest _ hpiece]

theorem trim_margin {left blanks right : List Char} (hblanks : ∀ c ∈ blanks, isBlank c = true)
    (h : (∀ c ∈ left, isBlank c = true) ∨ ∀ c ∈ right, isBlank c = true) :
    trim (left ++ blanks ++ right) = trim (left ++ right) := by
  rcases h with hleft | hright
  · rw [List.append_assoc, trim_blanks_append hleft, trim_blanks_append hblanks,
      trim_blanks_append hleft]
  · rw [trim_append_blanks hright, trim_append_blanks hblanks, trim_append_blanks hright]

theorem tokens_margin {before blanks after : List Char} (hblanks : ∀ c ∈ blanks, isBlank c = true)
    (h : Margin before after) :
    tokens (String.ofList (before ++ blanks ++ after)) =
      tokens (String.ofList (before ++ after)) := by
  have hsep : ',' ∉ blanks := fun hmem => absurd (hblanks ',' hmem) (by decide)
  obtain ⟨front, rest, hpieces⟩ := exists_pieces before after
  have hnone := hpieces [] List.not_mem_nil
  rw [List.append_nil, List.append_nil] at hnone
  rw [tokens, tokens, String.toList_ofList, String.toList_ofList, hpieces blanks hsep, hnone,
    List.map_append, List.map_append, List.map_cons, List.map_cons, trim_margin hblanks h]

/-! ### Lists -/

variable {list other : String} {e : PatternError}

/-- There is nothing but blank characters between the separators. -/
def Blank (list : String) : Prop :=
  ∀ piece ∈ list.toList.splitOn ',', ∀ c ∈ piece, isBlank c = true

/-- The answer to a text that has the tokens of another one. Only the refusal of an empty list names
the text. -/
def renamed (text : String) : Except PatternError String → Except PatternError String
  | .error (.emptyList _) => .error (.emptyList text)
  | answer => answer

theorem blank_iff : Blank list ↔ ((tokens list).all (· == "")) = true := by
  simp only [Blank, tokens, List.all_map, List.all_eq_true, Function.comp_apply, beq_iff_eq,
    String.ofList_eq_empty_iff, trim_eq_nil_iff]

theorem pattern_of_blank (h : Blank list) : pattern list = .error (.emptyList list) := by
  rw [pattern, fragment, if_pos (blank_iff.mp h)]
  rfl

theorem pattern_of_not_blank (h : ¬ Blank list) :
    pattern list = ((tokens list).mapM Token.compile).map fun fragments =>
      String.ofList (Fragment.oneOf fragments).text := by
  rw [pattern, fragment, if_neg (mt blank_iff.mpr h)]
  cases (tokens list).mapM Token.compile <;> rfl

theorem pattern_eq_error_iff (h : ¬ Blank list) :
    pattern list = .error e ↔ ∃ before token after, tokens list = before ++ token :: after ∧
      (∀ t ∈ before, ∃ p, (Token.read t).bind Token.pattern = .ok p) ∧
      (Token.read token).bind Token.pattern = .error e := by
  rw [pattern_of_not_blank h, map_eq_error_iff, mapM_eq_error_iff]
  simp only [Token.read_bind_pattern, exists_map_eq_ok_iff, map_eq_error_iff]

theorem exists_pattern_iff (h : ¬ Blank list) :
    (∃ p, pattern list = .ok p) ↔
      ∀ token ∈ tokens list, ∃ p, (Token.read token).bind Token.pattern = .ok p := by
  rw [pattern_of_not_blank h, exists_map_eq_ok_iff, exists_mapM_eq_ok_iff]
  simp only [Token.read_bind_pattern, exists_map_eq_ok_iff]

theorem ne_emptyList_of_not_blank (h : ¬ Blank list) (text : String) :
    pattern list ≠ .error (.emptyList text) := by
  intro hpattern
  obtain ⟨-, token, -, -, -, htoken⟩ := (pattern_eq_error_iff h).mp hpattern
  rcases Token.error_of_compile (Token.pattern_eq_error_iff.mp htoken) with he | he | he | he <;>
    cases he

theorem pattern_congr (h : tokens other = tokens list) :
    pattern other = renamed other (pattern list) := by
  by_cases hblank : Blank list
  · have hother : Blank other := by rwa [blank_iff, h, ← blank_iff]
    rw [pattern_of_blank hblank, pattern_of_blank hother, renamed]
  · have hother : ¬ Blank other := by rwa [blank_iff, h, ← blank_iff]
    have hpattern : pattern other = pattern list := by
      rw [pattern_of_not_blank hblank, pattern_of_not_blank hother, h]
    have hrefused := ne_emptyList_of_not_blank hblank
    rw [hpattern]
    unfold renamed
    split
    · next text heq => exact absurd heq (hrefused text)
    · rfl

/-- **The leftmost refused token decides.** A list is refused as empty exactly if it is blank, and any
other list for the leftmost token that is refused, with that token as the input of the error. The
answer depends on the tokens alone, so that blank characters added or removed at a margin leave it
as it is. -/
theorem leftmost_refused_token_decides (list : String) :
    (∀ text, pattern list = .error (.emptyList text) ↔ text = list ∧ Blank list) ∧
      (¬ Blank list →
        (∀ e, pattern list = .error e ↔ ∃ before token after,
          tokens list = before ++ token :: after ∧
            (∀ t ∈ before, ∃ p, (Token.read t).bind Token.pattern = .ok p) ∧
            (Token.read token).bind Token.pattern = .error e) ∧
        ((∃ p, pattern list = .ok p) ↔
          ∀ token ∈ tokens list, ∃ p, (Token.read token).bind Token.pattern = .ok p)) ∧
      (∀ token e, (Token.read token).bind Token.pattern = .error e → e.input = token) ∧
      (Token.read "").bind Token.pattern = .error (.notToken "") ∧
      (∀ other, tokens other = tokens list → pattern other = renamed other (pattern list)) ∧
      ∀ before blanks after, list.toList = before ++ after →
        (∀ c ∈ blanks, isBlank c = true) → Margin before after →
          let padded := String.ofList (before ++ blanks ++ after)
          pattern padded = renamed padded (pattern list) ∧
            pattern list = renamed list (pattern padded) := by
  refine ⟨fun text => ⟨fun h => ?_, ?_⟩, fun h => ⟨fun e => pattern_eq_error_iff h,
    exists_pattern_iff h⟩, fun token e h => ?_, rfl, fun other => pattern_congr,
    fun before blanks after hlist hblanks hmargin => ?_⟩
  · by_cases hblank : Blank list
    · rw [pattern_of_blank hblank] at h
      cases h
      exact ⟨rfl, hblank⟩
    · exact absurd h (ne_emptyList_of_not_blank hblank text)
  · rintro ⟨rfl, hblank⟩
    exact pattern_of_blank hblank
  · rcases Token.error_of_compile (Token.pattern_eq_error_iff.mp h) with rfl | rfl | rfl | rfl <;>
      rfl
  · have htokens := tokens_margin hblanks hmargin
    rw [← hlist, String.ofList_toList] at htokens
    exact ⟨pattern_congr htokens, pattern_congr htokens.symm⟩

end TokenList
end IntervalRegex
