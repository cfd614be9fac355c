import IntervalRegex.Regex.Reader
import Mathlib.Data.List.TakeWhile

/-!
# Reading before more text

A lexeme ends where it ends, whatever stands behind it: each reader, when it reads something, reads
the same before more text and leaves that text too. The one exception is a question mark, which a
repetition or an opening parenthesis would take up. So a text that can be cut into lexemes is cut
into the same ones at the front of a longer text, which is `scan_append`.
-/

namespace IntervalRegex.Regex

theorem readHex_append {count value v : Nat} {cs rest : List Char} (more : List Char)
    (h : readHex count value cs = .ok (v, rest)) :
    readHex count value (cs ++ more) = .ok (v, rest ++ more) := by
  fun_induction readHex count value cs with
  | case1 => simp_all [readHex]
  | case2 => simp at h
  | case3 _ _ _ _ _ hdigit ih => simpa [readHex, hdigit] using ih h
  | case4 => simp at h

theorem readBracedHex_append {value v : Nat} {cs rest : List Char} (more : List Char)
    (h : readBracedHex value cs = .ok (v, rest)) :
    readBracedHex value (cs ++ more) = .ok (v, rest ++ more) := by
  fun_induction readBracedHex value cs with
  | case1 => simp at h
  | case2 => simp_all [readBracedHex]
  | case3 _ _ _ hbrace _ hdigit ih =>
    rw [List.cons_append, readBracedHex, hdigit]
    · exact ih h
    · exact hbrace
  | case4 => simp at h

theorem readCode_append {count : Nat} (hcount : 0 < count) {cs rest : List Char} {e : Escape}
    (more : List Char) (h : readCode count cs = .ok (e, rest)) :
    readCode count (cs ++ more) = .ok (e, rest ++ more) := by
  unfold readCode at h
  split at h
  · simp at h
  · next cs hempty =>
    simp only [bind_eq_ok, pure_eq_ok, Prod.mk.injEq] at h
    obtain ⟨⟨value, rest'⟩, hread, c, hscalar, rfl, rfl⟩ := h
    have hmore := readBracedHex_append more hread
    rw [List.cons_append, readCode, bind_eq_ok]
    · exact ⟨_, hmore, bind_eq_ok.mpr ⟨c, hscalar, rfl⟩⟩
    · intro cs' heq
      cases cs with
      | nil => simp [readBracedHex] at hread
      | cons c cs =>
        rw [List.cons_append, List.cons.injEq] at heq
        exact hempty cs (by rw [heq.1])
  · next hbraces hbrace =>
    simp only [bind_eq_ok, pure_eq_ok, Prod.mk.injEq] at h
    obtain ⟨⟨value, rest'⟩, hread, c, hscalar, rfl, rfl⟩ := h
    have hmore := readHex_append more hread
    cases cs with
    | nil =>
      obtain ⟨count, rfl⟩ := Nat.exists_eq_add_one.mpr hcount
      simp [readHex] at hread
    | cons x cs =>
      have hx : x ≠ '{' := fun heq => hbrace cs (by rw [heq])
      rw [List.cons_append, readCode, bind_eq_ok]
      · exact ⟨_, hmore, bind_eq_ok.mpr ⟨c, hscalar, rfl⟩⟩
      · intro cs' heq
        exact hx (List.cons.inj heq).1
      · intro cs' heq
        exact hx (List.cons.inj heq).1

theorem readEscape_append {cs rest : List Char} {e : Escape} (more : List Char)
    (h : readEscape cs = .ok (e, rest)) : readEscape (cs ++ more) = .ok (e, rest ++ more) := by
  unfold readEscape at h
  split at h
  case h_1 => simp at h
  case h_16 | h_17 | h_18 => exact readCode_append (by decide) more h
  case h_19 c cs _ _ _ _ _ _ _ _ _ _ _ _ _ _ _ _ _ =>
    split at h
    · simp at h
    · split at h
      · simp only [Except.ok.injEq, Prod.mk.injEq] at h
        obtain ⟨rfl, rfl⟩ := h
        simp_all [readEscape]
      · simp at h
  all_goals
    simp only [Except.ok.injEq, Prod.mk.injEq] at h
    obtain ⟨rfl, rfl⟩ := h
    rfl

theorem readMember_append {cs rest : List Char} {e : Escape} (more : List Char)
    (h : readMember cs = .ok (e, rest)) : readMember (cs ++ more) = .ok (e, rest ++ more) := by
  unfold readMember at h
  split at h
  · simp at h
  · exact readEscape_append more h
  · next c cs hc =>
    simp only [Except.ok.injEq, Prod.mk.injEq] at h
    obtain ⟨rfl, rfl⟩ := h
    rw [List.cons_append, readMember]
    exact hc

theorem readItem_append {cs rest : List Char} {item : ClassItem} (more : List Char)
    (h : readItem cs = .ok (item, rest)) : readItem (cs ++ more) = .ok (item, rest ++ more) := by
  unfold readItem at h ⊢
  obtain ⟨⟨first, left⟩, hfirst, h⟩ := bind_eq_ok.mp h
  refine bind_eq_ok.mpr ⟨_, readMember_append more hfirst, ?_⟩
  dsimp only at h ⊢
  split at h
  · simp at h
  · simp at h
  · next c cs =>
    rw [List.cons_append, List.cons_append]
    split at h
    · next hc =>
      simp only [bind_eq_ok, pure_eq_ok, Prod.mk.injEq] at h
      obtain ⟨item, hitem, rfl, rfl⟩ := h
      simp [hc, hitem, bind, Except.bind, pure, Except.pure]
    · next hc =>
      simp only [bind_eq_ok, pure_eq_ok, Prod.mk.injEq] at h
      obtain ⟨⟨last, rest'⟩, hlast, item, hitem, rfl, rfl⟩ := h
      have hmore := readMember_append more hlast
      rw [List.cons_append] at hmore
      simp only [hc, if_false, hmore, bind_eq_ok]
      exact ⟨_, rfl, _, hitem, rfl⟩
  · next hnil hhyphen hrange =>
    obtain ⟨c, cs, rfl⟩ := List.exists_cons_of_ne_nil hnil
    have hc : c ≠ '-' := by
      rintro rfl
      cases cs with
      | nil => exact hhyphen rfl
      | cons d cs => exact hrange d cs rfl
    simp only [bind_eq_ok, pure_eq_ok, Prod.mk.injEq] at h
    obtain ⟨item, hitem, rfl, rfl⟩ := h
    simp [hc, hitem, bind, Except.bind, pure, Except.pure]

/-- A member of a class never ends the text, as the closing bracket is still to come. -/
theorem two_le_length_of_readItem {cs rest : List Char} {item : ClassItem}
    (h : readItem cs = .ok (item, rest)) : 2 ≤ cs.length := by
  unfold readItem at h
  obtain ⟨⟨first, left⟩, hfirst, h⟩ := bind_eq_ok.mp h
  have hlength := readMember_length hfirst
  cases left with
  | nil => simp at h
  | cons c left =>
    rw [List.length_cons] at hlength
    omega

theorem readItems_append {cs rest : List Char} {items : List ClassItem} (more : List Char)
    (h : readItems cs = .ok (items, rest)) :
    readItems (cs ++ more) = .ok (items, rest ++ more) := by
  fun_induction readItems cs generalizing items with
  | case1 rest' =>
    simp only [Except.ok.injEq, Prod.mk.injEq] at h
    obtain ⟨rfl, rfl⟩ := h
    rw [List.cons_append, readItems]
  | case2 | case3 | case4 | case5 | case6 | case7 => simp at h
  | case8 cs hclose hopen hand hhyphen htilde item rest' hitem _ items' rest'' hitems ih =>
    simp only [Except.ok.injEq, Prod.mk.injEq] at h
    obtain ⟨rfl, rfl⟩ := h
    have hmore := readItem_append more hitem
    have hlength := two_le_length_of_readItem hitem
    -- the reader looks at two characters, and both belong to `cs`
    obtain ⟨c, d, cs, rfl⟩ : ∃ c d cs', cs = c :: d :: cs' := by
      match cs, hlength with
      | c :: d :: cs', _ => exact ⟨c, d, cs', rfl⟩
    rw [List.cons_append, List.cons_append] at hmore ⊢
    rw [readItems]
    · split
      · next fault hfault => rw [hmore] at hfault; cases hfault
      · next item₂ rest₂ hread =>
        rw [hmore, Except.ok.injEq, Prod.mk.injEq] at hread
        obtain ⟨rfl, rfl⟩ := hread
        rw [ih hitems]
    all_goals simp_all

/-- A run of characters that ends inside a text ends there before more text too. -/
theorem takeWhile_append_of_dropWhile_ne_nil {p : Char → Bool} {cs : List Char}
    (h : cs.dropWhile p ≠ []) (more : List Char) :
    (cs ++ more).takeWhile p = cs.takeWhile p ∧
      (cs ++ more).dropWhile p = cs.dropWhile p ++ more := by
  constructor
  · rw [List.takeWhile_append, if_neg]
    intro hlength
    have hsplit := congrArg List.length (List.takeWhile_append_dropWhile (p := p) (l := cs))
    rw [List.length_append, hlength] at hsplit
    exact h (List.length_eq_zero_iff.mp (by omega))
  · rw [List.dropWhile_append, if_neg]
    rwa [List.isEmpty_iff]

theorem readItems_nil : readItems [] = .error .unclosedClass := by
  rw [readItems] <;> simp [readItem, readMember, bind, Except.bind]

theorem readClass_append {cs rest : List Char} {set : CharSet} (more : List Char)
    (h : readClass cs = .ok (set, rest)) : readClass (cs ++ more) = .ok (set, rest ++ more) := by
  unfold readClass at h ⊢
  dsimp only at h ⊢
  generalize hbody : (if cs.head? = some '^' then cs.tail else cs) = body at h
  have hdrop : body.dropWhile (· = '-') ≠ [] := by
    intro hnil
    rw [hnil] at h
    simp [readItems_nil, bind, Except.bind] at h
  have hcs : cs ≠ [] := by
    rintro rfl
    subst hbody
    simp at hdrop
  have hhead : (cs ++ more).head? = cs.head? := by
    obtain ⟨c, cs, rfl⟩ := List.exists_cons_of_ne_nil hcs
    rfl
  have hmore : (if cs.head? = some '^' then (cs ++ more).tail else cs ++ more) = body ++ more := by
    rw [← hbody]
    split
    · exact List.tail_append_of_ne_nil hcs
    · rfl
  obtain ⟨htake, hdropMore⟩ := takeWhile_append_of_dropWhile_ne_nil hdrop more
  simp only [hhead, hmore, htake, hdropMore]
  split at h
  · next hhyphens hbracket =>
    simp only [bind_eq_ok, pure_eq_ok, Prod.mk.injEq] at h
    obtain ⟨⟨items, rest'⟩, hitems, rfl, rfl⟩ := h
    rw [hhyphens, hbracket, List.cons_append]
    exact bind_eq_ok.mpr ⟨_, readItems_append more hitems, rfl⟩
  · next hbracket =>
    simp only [bind_eq_ok, pure_eq_ok, Prod.mk.injEq] at h
    obtain ⟨⟨items, rest'⟩, hitems, rfl, rfl⟩ := h
    split
    · next hhyphens hmoreBracket =>
      exfalso
      obtain ⟨c, left, hleft⟩ := List.exists_cons_of_ne_nil hdrop
      rw [hleft, List.cons_append, List.cons.injEq] at hmoreBracket
      exact hbracket left hhyphens (by rw [hleft, hmoreBracket.1])
    · exact bind_eq_ok.mpr ⟨_, readItems_append more hitems, rfl⟩

theorem readGroupName_append {cs rest : List Char} {lexeme : Lexeme} (more : List Char)
    (h : readGroupName cs = .ok (lexeme, rest)) :
    readGroupName (cs ++ more) = .ok (lexeme, rest ++ more) := by
  unfold readGroupName at h ⊢
  cases hdrop : cs.dropWhile (· ≠ '>') with
  | nil =>
    exfalso
    rw [hdrop] at h
    cases htake : cs.takeWhile (· ≠ '>') with
    | nil => rw [htake] at h; cases h
    | cons c name =>
      rw [htake] at h
      dsimp only at h
      split at h <;> cases h
  | cons d left =>
    have hne : cs.dropWhile (· ≠ '>') ≠ [] := hdrop ▸ List.cons_ne_nil d left
    obtain ⟨htakeMore, hdropMore⟩ := takeWhile_append_of_dropWhile_ne_nil hne more
    rw [htakeMore, hdropMore, hdrop]
    rw [hdrop] at h
    cases htake : cs.takeWhile (· ≠ '>') with
    | nil => rw [htake] at h; cases h
    | cons c name =>
      rw [htake] at h
      dsimp only [List.cons_append] at h ⊢
      split at h
      · cases h
      · next hname =>
        simp only [Except.ok.injEq, Prod.mk.injEq] at h
        obtain ⟨rfl, rfl⟩ := h
        rw [if_neg hname]

/-- An opening parenthesis with no question mark behind it opens a group without a name. -/
theorem readGroup_of_head?_ne {cs : List Char} (h : cs.head? ≠ some '?') :
    readGroup cs = .ok (.opening none, cs) := by
  cases cs with
  | nil => rfl
  | cons c cs =>
    have hc : c ≠ '?' := fun heq => h (by rw [heq, List.head?_cons])
    rw [readGroup]
    all_goals
      intros
      simp_all

theorem readGroup_append {cs rest more : List Char} {lexeme : Lexeme}
    (hmore : more.head? ≠ some '?') (h : readGroup cs = .ok (lexeme, rest)) :
    readGroup (cs ++ more) = .ok (lexeme, rest ++ more) := by
  by_cases hhead : cs.head? = some '?'
  · unfold readGroup at h
    split at h
    case h_1 =>
      simp only [Except.ok.injEq, Prod.mk.injEq] at h
      obtain ⟨rfl, rfl⟩ := h
      rfl
    case h_6 cs hequal hbang =>
      have hread := readGroupName_append more h
      cases cs with
      | nil => cases h
      | cons c cs =>
        rw [List.cons_append] at hread
        simp only [List.cons_append]
        rw [readGroup, hread]
        all_goals simp_all
    case h_7 => exact readGroupName_append more h
    case h_9 =>
      obtain ⟨tail, htail⟩ := List.head?_eq_some_iff.mp hhead
      simp_all
    all_goals cases h
  · rw [readGroup_of_head?_ne hhead] at h
    simp only [Except.ok.injEq, Prod.mk.injEq] at h
    obtain ⟨rfl, rfl⟩ := h
    rw [readGroup_of_head?_ne]
    cases cs with
    | nil => exact hmore
    | cons c cs => exact hhead

theorem dropLazy_append {cs more : List Char} (hmore : more.head? ≠ some '?') :
    dropLazy (cs ++ more) = dropLazy cs ++ more := by
  cases cs with
  | nil =>
    cases more with
    | nil => rfl
    | cons c more =>
      rw [List.nil_append, dropLazy]
      · rfl
      · intro cs' heq
        cases heq
        simp at hmore
  | cons c cs =>
    by_cases hc : c = '?'
    · subst hc
      rfl
    · simp [dropLazy, hc]

/-- A number is stable once something stands behind it. -/
theorem readCountNumber_append {cs rest : List Char} {n : Nat} (more : List Char)
    (h : readCountNumber cs = .ok (n, rest)) (hrest : rest ≠ []) :
    readCountNumber (cs ++ more) = .ok (n, rest ++ more) := by
  unfold readCountNumber at h ⊢
  dsimp only at h ⊢
  split at h
  · cases h
  · next hdigits =>
    split at h
    · next hsmall =>
      simp only [Except.ok.injEq, Prod.mk.injEq] at h
      obtain ⟨rfl, rfl⟩ := h
      have hafter : ((cs.dropWhile Text.isBlank).dropWhile Char.isDigit) ≠ [] := by
        intro hnil
        exact hrest (by rw [hnil, List.dropWhile_nil])
      have hdigit : cs.dropWhile Text.isBlank ≠ [] := by
        intro hnil
        exact hafter (by rw [hnil, List.dropWhile_nil])
      rw [(takeWhile_append_of_dropWhile_ne_nil hdigit more).2,
        (takeWhile_append_of_dropWhile_ne_nil hafter more).1,
        (takeWhile_append_of_dropWhile_ne_nil hafter more).2,
        (takeWhile_append_of_dropWhile_ne_nil hrest more).2, if_neg hdigits, if_pos hsmall]
    · cases h

theorem readCount_append {cs rest more : List Char} {lexeme : Lexeme}
    (hmore : more.head? ≠ some '?') (h : readCount cs = .ok (lexeme, rest)) :
    readCount (cs ++ more) = .ok (lexeme, rest ++ more) := by
  unfold readCount at h ⊢
  obtain ⟨⟨min, rest₁⟩, hmin, h⟩ := bind_eq_ok.mp h
  have hrest₁ : rest₁ ≠ [] := by
    rintro rfl
    cases h
  refine bind_eq_ok.mpr ⟨_, readCountNumber_append more hmin hrest₁, ?_⟩
  dsimp only at h
  split at h
  · simp only [pure_eq_ok, Prod.mk.injEq] at h
    obtain ⟨rfl, rfl⟩ := h
    rw [← dropLazy_append hmore]
    rfl
  · simp only [pure_eq_ok, Prod.mk.injEq] at h
    obtain ⟨rfl, rfl⟩ := h
    rw [← dropLazy_append hmore]
    rfl
  · next rest₂ hbrace =>
    obtain ⟨⟨max, rest₃⟩, hmax, hlast⟩ := bind_eq_ok.mp h
    have hrest₃ : rest₃ ≠ [] := by
      rintro rfl
      cases hlast
    have hmaxMore := readCountNumber_append more hmax hrest₃
    cases rest₂ with
    | nil => cases hmax
    | cons c rest₂ =>
      have hc : c ≠ '}' := fun heq => hbrace rest₂ (by rw [heq])
      simp only [List.cons_append] at hmaxMore ⊢
      split
      · simp_all
      · simp_all
      · next heq =>
        cases heq
        refine bind_eq_ok.mpr ⟨_, hmaxMore, ?_⟩
        dsimp only at hlast
        split at hlast
        · split at hlast
          · next hle =>
            simp only [Except.ok.injEq, Prod.mk.injEq] at hlast
            obtain ⟨rfl, rfl⟩ := hlast
            rw [← dropLazy_append hmore]
            exact if_pos hle
          · cases hlast
        · cases hlast
      · simp_all
  · cases h

theorem Lexeme.read_append {c : Char} {cs rest more : List Char} {lexeme : Lexeme}
    (hmore : more.head? ≠ some '?') (h : Lexeme.read c cs = .ok (lexeme, rest)) :
    Lexeme.read c (cs ++ more) = .ok (lexeme, rest ++ more) := by
  unfold Lexeme.read at h
  split at h
  case h_1 =>
    obtain ⟨⟨escape, rest'⟩, hread, heq⟩ := bind_eq_ok.mp h
    simp only [pure_eq_ok, Prod.mk.injEq] at heq
    obtain ⟨rfl, rfl⟩ := heq
    exact bind_eq_ok.mpr ⟨_, readEscape_append more hread, rfl⟩
  case h_2 =>
    obtain ⟨⟨set, rest'⟩, hread, heq⟩ := bind_eq_ok.mp h
    simp only [pure_eq_ok, Prod.mk.injEq] at heq
    obtain ⟨rfl, rfl⟩ := heq
    exact bind_eq_ok.mpr ⟨_, readClass_append more hread, rfl⟩
  case h_3 => exact readGroup_append hmore h
  case h_9 => exact readCount_append hmore h
  all_goals
    simp only [Except.ok.injEq, Prod.mk.injEq] at h
    obtain ⟨rfl, rfl⟩ := h
    simp [Lexeme.read, dropLazy_append hmore, *]

theorem scan_cons {c : Char} {cs rest : List Char} (lexeme : Lexeme)
    (h : Lexeme.read c cs = .ok (lexeme, rest)) :
    scan (c :: cs) = ((lexeme, cs.length + 1 - rest.length) :: (scan rest).1, (scan rest).2) := by
  rw [scan]
  split
  · next hread => rw [h] at hread; cases hread
  · next hread =>
    rw [h, Except.ok.injEq, Prod.mk.injEq] at hread
    obtain ⟨rfl, rfl⟩ := hread
    rfl

/-- **Scanning before more text.** A text that is cut into lexemes to its end is cut into the same
ones before any text that begins with no question mark. -/
theorem scan_append {cs more : List Char} (hmore : more.head? ≠ some '?')
    (h : (scan cs).2 = none) :
    scan (cs ++ more) = ((scan cs).1 ++ (scan more).1, (scan more).2) := by
  fun_induction scan cs with
  | case1 => rfl
  | case2 => cases h
  | case3 c cs lexeme rest hread hlength lexemes fault hrest ih =>
    have hlengths := Lexeme.read_length hread
    have hwidth : (cs ++ more).length + 1 - (rest ++ more).length =
        cs.length + 1 - rest.length := by
      rw [List.length_append, List.length_append]
      omega
    rw [hrest] at ih
    rw [List.cons_append, scan_cons _ (Lexeme.read_append hmore hread), ih h, hwidth]
    rfl

end IntervalRegex.Regex
