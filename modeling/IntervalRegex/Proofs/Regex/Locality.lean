import IntervalRegex.Proofs.Regex.Lexeme

/-!
# Reading before a closing anchor

What is read before `)$` was there without it: no reader looks for the end of a group or for an
anchor, so that each reads the same when they are cut off. The one exception is a backslash at the
very end, which escapes the parenthesis.
-/

namespace IntervalRegex.Regex

theorem readHex_of_append {count value v : Nat} {cs rest : List Char}
    (h : readHex count value (cs ++ [')', '$']) = .ok (v, rest)) :
    ∃ left, readHex count value cs = .ok (v, left) ∧ rest = left ++ [')', '$'] := by
  fun_induction readHex count value cs with
  | case1 value cs =>
    rw [readHex, Except.ok.injEq, Prod.mk.injEq] at h
    obtain ⟨rfl, rfl⟩ := h
    exact ⟨cs, rfl, rfl⟩
  | case2 =>
    rw [List.nil_append, readHex] at h
    cases h
  | case3 count value c cs digit hdigit ih =>
    rw [List.cons_append, readHex, hdigit] at h
    exact ih h
  | case4 count value c cs hdigit =>
    rw [List.cons_append, readHex, hdigit] at h
    cases h

theorem readBracedHex_of_append {value v : Nat} {cs rest : List Char}
    (h : readBracedHex value (cs ++ [')', '$']) = .ok (v, rest)) :
    ∃ left, readBracedHex value cs = .ok (v, left) ∧ rest = left ++ [')', '$'] := by
  fun_induction readBracedHex value cs with
  | case1 => cases h
  | case2 value cs =>
    rw [List.cons_append, readBracedHex, Except.ok.injEq, Prod.mk.injEq] at h
    obtain ⟨rfl, rfl⟩ := h
    exact ⟨cs, rfl, rfl⟩
  | case3 value c cs hbrace digit hdigit ih =>
    rw [List.cons_append, readBracedHex, hdigit] at h
    · exact ih h
    · exact hbrace
  | case4 value c cs hbrace hdigit =>
    rw [List.cons_append, readBracedHex, hdigit] at h
    · cases h
    · exact hbrace

theorem head?_append_ne {cs : List Char} {c : Char} (h : cs.head? ≠ some c) (hc : c ≠ ')') :
    (cs ++ [')', '$']).head? ≠ some c := by
  cases cs with
  | nil => simpa using Ne.symm hc
  | cons x cs => exact h

theorem readCode_braced (count : Nat) {cs : List Char} (h : cs.head? ≠ some '}') :
    readCode count ('{' :: cs) = (do
      let (value, rest) ← readBracedHex 0 cs
      return (.char (← scalar value), rest)) := by
  rw [readCode]
  rintro tail rfl
  exact h rfl

theorem readCode_counted (count : Nat) {cs : List Char} (h : cs.head? ≠ some '{') :
    readCode count cs = (do
      let (value, rest) ← readHex count 0 cs
      let c ← scalar value
      return (if count = 2 ∧ 128 ≤ value then .byte c else .char c, rest)) := by
  rw [readCode]
  · rintro tail rfl
    exact h rfl
  · rintro tail rfl
    exact h rfl

theorem readCode_of_append {count : Nat} {cs rest : List Char} {e : Escape}
    (h : readCode count (cs ++ [')', '$']) = .ok (e, rest)) :
    ∃ left, readCode count cs = .ok (e, left) ∧ rest = left ++ [')', '$'] := by
  by_cases hopen : cs.head? = some '{'
  · obtain ⟨cs, rfl⟩ := List.head?_eq_some_iff.mp hopen
    by_cases hempty : cs.head? = some '}'
    · obtain ⟨cs, rfl⟩ := List.head?_eq_some_iff.mp hempty
      cases h
    · rw [List.cons_append, readCode_braced count (head?_append_ne hempty (by decide))] at h
      obtain ⟨⟨value, rest'⟩, hread, hscalar⟩ := bind_eq_ok.mp h
      obtain ⟨c, hc, heq⟩ := bind_eq_ok.mp hscalar
      obtain ⟨left, hleft, rfl⟩ := readBracedHex_of_append hread
      cases heq
      rw [readCode_braced count hempty]
      exact ⟨left, bind_eq_ok.mpr ⟨_, hleft, bind_eq_ok.mpr ⟨c, hc, rfl⟩⟩, rfl⟩
  · rw [readCode_counted count (head?_append_ne hopen (by decide))] at h
    obtain ⟨⟨value, rest'⟩, hread, hscalar⟩ := bind_eq_ok.mp h
    obtain ⟨c, hc, heq⟩ := bind_eq_ok.mp hscalar
    obtain ⟨left, hleft, rfl⟩ := readHex_of_append hread
    cases heq
    rw [readCode_counted count hopen]
    exact ⟨left, bind_eq_ok.mpr ⟨_, hleft, bind_eq_ok.mpr ⟨c, hc, rfl⟩⟩, rfl⟩

theorem readEscape_of_append {c : Char} {cs rest : List Char} {e : Escape}
    (h : readEscape (c :: (cs ++ [')', '$'])) = .ok (e, rest)) :
    ∃ left, readEscape (c :: cs) = .ok (e, left) ∧ rest = left ++ [')', '$'] := by
  unfold readEscape at h
  split at h
  case h_1 heq => cases heq
  case h_16 heq | h_17 heq | h_18 heq =>
    cases heq
    exact readCode_of_append h
  case h_19 heq =>
    cases heq
    split at h
    · cases h
    · next hdigit =>
      split at h
      · next hescapable =>
        cases h
        refine ⟨cs, ?_, rfl⟩
        rw [readEscape, if_neg hdigit, if_pos hescapable] <;> assumption
      · cases h
  all_goals
    next heq =>
      cases heq
      cases h
      exact ⟨cs, rfl, rfl⟩

/-- A member that takes the parenthesis leaves the anchor only. -/
theorem readMember_of_append {cs rest : List Char} {e : Escape}
    (h : readMember (cs ++ [')', '$']) = .ok (e, rest)) :
    (∃ left, readMember cs = .ok (e, left) ∧ rest = left ++ [')', '$']) ∨ rest = ['$'] := by
  cases cs with
  | nil =>
    cases h
    exact .inr rfl
  | cons c cs =>
    by_cases hc : c = '\\'
    · subst hc
      cases cs with
      | nil =>
        cases h
        exact .inr rfl
      | cons c cs => exact .inl (readEscape_of_append h)
    · have hread : ∀ more, readMember (c :: more) = .ok (.char c, more) := by
        intro more
        rw [readMember]
        exact hc
      rw [List.cons_append, hread] at h
      cases h
      exact .inl ⟨cs, hread cs, rfl⟩

section Item

variable {cs left : List Char} {c d : Char} {first : Escape}

theorem readItem_single (h : readMember cs = .ok (first, c :: left)) (hc : c ≠ '-') :
    readItem cs = (do return (← first.item, c :: left)) := by
  rw [readItem, h]
  simp [bind, Except.bind, hc]

theorem readItem_beforeHyphen (h : readMember cs = .ok (first, '-' :: d :: left))
    (hd : d = ']' ∨ d = '-') : readItem cs = (do return (← first.item, '-' :: d :: left)) := by
  rw [readItem, h]
  exact if_pos hd

theorem readItem_between (h : readMember cs = .ok (first, '-' :: d :: left))
    (hd : ¬ (d = ']' ∨ d = '-')) :
    readItem cs = (do
      let (last, rest) ← readMember (d :: left)
      return (← rangeItem first last, rest)) := by
  rw [readItem, h]
  exact if_neg hd

end Item

/-- A range takes its last character from what is there by itself, or leaves the anchor only. -/
theorem readItem_of_append_hyphen {cs left rest : List Char} {d : Char} {first : Escape}
    {item : ClassItem} (hfirst : readMember (cs ++ [')', '$']) =
      .ok (first, '-' :: d :: left ++ [')', '$']))
    (hleft : readMember cs = .ok (first, '-' :: d :: left))
    (h : readItem (cs ++ [')', '$']) = .ok (item, rest)) :
    (∃ left, readItem cs = .ok (item, left) ∧ rest = left ++ [')', '$']) ∨ rest = ['$'] := by
  by_cases hd : d = ']' ∨ d = '-'
  · rw [readItem_beforeHyphen hfirst hd] at h
    obtain ⟨item, hitem, heq⟩ := bind_eq_ok.mp h
    cases heq
    refine .inl ⟨'-' :: d :: left, ?_, rfl⟩
    rw [readItem_beforeHyphen hleft hd, hitem]
    rfl
  · rw [readItem_between hfirst hd] at h
    obtain ⟨⟨last, rest'⟩, hlast, hrange⟩ := bind_eq_ok.mp h
    obtain ⟨item, hitem, heq⟩ := bind_eq_ok.mp hrange
    have hmember : readMember (d :: left ++ [')', '$']) = .ok (last, rest') := hlast
    cases heq
    rcases readMember_of_append hmember with ⟨left', hleft', rfl⟩ | rfl
    · refine .inl ⟨left', ?_, rfl⟩
      rw [readItem_between hleft hd]
      exact bind_eq_ok.mpr ⟨_, hleft', bind_eq_ok.mpr ⟨item, hitem, rfl⟩⟩
    · exact .inr rfl

/-- What an item leaves when it takes the parenthesis, or ends in front of it, has no closing
bracket. -/
theorem readItem_of_append {cs rest : List Char} {item : ClassItem}
    (h : readItem (cs ++ [')', '$']) = .ok (item, rest)) :
    (∃ left, readItem cs = .ok (item, left) ∧ rest = left ++ [')', '$']) ∨
      rest = [')', '$'] ∨ rest = ['$'] := by
  have hbind := h
  unfold readItem at hbind
  obtain ⟨⟨first, middle⟩, hfirst, -⟩ := bind_eq_ok.mp hbind
  rcases readMember_of_append hfirst with ⟨left, hleft, rfl⟩ | rfl
  · cases left with
    | nil =>
      rw [readItem_single hfirst (by decide)] at h
      obtain ⟨item, -, heq⟩ := bind_eq_ok.mp h
      cases heq
      exact .inr (.inl rfl)
    | cons c left =>
      by_cases hc : c = '-'
      · subst hc
        cases left with
        | nil =>
          -- the hyphen makes a range up to the parenthesis
          rw [readItem_between hfirst (by decide)] at h
          obtain ⟨⟨last, rest'⟩, hlast, hrange⟩ := bind_eq_ok.mp h
          obtain ⟨item, -, heq⟩ := bind_eq_ok.mp hrange
          cases hlast
          cases heq
          exact .inr (.inr rfl)
        | cons d left => exact (readItem_of_append_hyphen hfirst hleft h).imp_right .inr
      · rw [readItem_single hfirst hc] at h
        obtain ⟨item, hitem, heq⟩ := bind_eq_ok.mp h
        cases heq
        refine .inl ⟨c :: left, ?_, rfl⟩
        rw [readItem_single hleft hc, hitem]
        rfl
  · rw [readItem_single hfirst (by decide)] at h
    obtain ⟨item, -, heq⟩ := bind_eq_ok.mp h
    cases heq
    exact .inr (.inr rfl)

theorem readItems_cons {cs rest rest' : List Char} {item : ClassItem} {items : List ClassItem}
    (hclose : ∀ tail, cs ≠ ']' :: tail) (hopen : ∀ tail, cs ≠ '[' :: tail)
    (hand : ∀ tail, cs ≠ '&' :: '&' :: tail) (hhyphen : ∀ tail, cs ≠ '-' :: '-' :: tail)
    (htilde : ∀ tail, cs ≠ '~' :: '~' :: tail) (hitem : readItem cs = .ok (item, rest))
    (hitems : readItems rest = .ok (items, rest')) :
    readItems cs = .ok (item :: items, rest') := by
  rw [readItems]
  · split
    · next hfault =>
      rw [hitem] at hfault
      cases hfault
    · next hread =>
      rw [hitem] at hread
      cases hread
      rw [hitems]
  all_goals assumption

/-- Neither the anchor nor the parenthesis before it closes a class. -/
theorem readItems_anchor : readItems ['$'] = .error .unclosedClass := by
  rw [readItems]
  · split
    · next hfault =>
      cases hfault
      rfl
    · next hread => cases hread
  all_goals simp

theorem readItems_closing : readItems [')', '$'] = .error .unclosedClass := by
  have hitem : readItem [')', '$'] = .ok (.single ')', ['$']) := rfl
  rw [readItems]
  · split
    · next hfault =>
      rw [hitem] at hfault
      cases hfault
    · next hread =>
      rw [hitem] at hread
      cases hread
      rw [readItems_anchor]
  all_goals simp

theorem readItems_of_append {cs rest : List Char} {items : List ClassItem}
    (h : readItems (cs ++ [')', '$']) = .ok (items, rest)) :
    ∃ left, readItems cs = .ok (items, left) ∧ rest = left ++ [')', '$'] := by
  generalize htext : cs ++ [')', '$'] = text at h
  fun_induction readItems text generalizing cs items with
  | case1 rest' =>
    cases h
    cases cs with
    | nil => cases htext
    | cons c cs =>
      cases htext
      exact ⟨cs, by rw [readItems], rfl⟩
  | case2 | case3 | case4 | case5 | case6 | case7 => cases h
  | case8 text hclose hopen hand hhyphen htilde item rest' hitem _ items' rest'' hitems ih =>
    cases h
    subst htext
    -- an item that is not read by itself leaves nothing that could close the class
    rcases readItem_of_append hitem with ⟨left, hleft, rfl⟩ | rfl | rfl
    · obtain ⟨left', hleft', rfl⟩ := ih rfl hitems
      refine ⟨left', readItems_cons ?_ ?_ ?_ ?_ ?_ hleft hleft', rfl⟩
      all_goals
        rintro tail rfl
        simp_all
    · rw [readItems_closing] at hitems
      cases hitems
    · rw [readItems_anchor] at hitems
      cases hitems

/-- A run of characters ends in front of one that does not belong to it. -/
theorem takeWhile_append_cons_of_neg {p : Char → Bool} {c : Char} (hc : p c = false)
    (cs more : List Char) :
    (cs ++ c :: more).takeWhile p = cs.takeWhile p ∧
      (cs ++ c :: more).dropWhile p = cs.dropWhile p ++ c :: more := by
  induction cs with
  | nil => simp [hc]
  | cons x cs ih => by_cases hx : p x = true <;> simp [hx, ih]

theorem readClass_of_append {cs rest : List Char} {set : CharSet}
    (h : readClass (cs ++ [')', '$']) = .ok (set, rest)) :
    ∃ left, readClass cs = .ok (set, left) ∧ rest = left ++ [')', '$'] := by
  have hhead : (cs ++ [')', '$']).head? = some '^' ↔ cs.head? = some '^' := by
    cases cs <;> simp
  have hbody : (if cs.head? = some '^' then (cs ++ [')', '$']).tail else cs ++ [')', '$']) =
      (if cs.head? = some '^' then cs.tail else cs) ++ [')', '$'] := by
    cases cs with
    | nil => rfl
    | cons c cs => split <;> rfl
  unfold readClass at h ⊢
  dsimp only at h ⊢
  simp only [hhead, hbody] at h
  generalize (if cs.head? = some '^' then cs.tail else cs) = body at h ⊢
  obtain ⟨htake, hdrop⟩ :=
    takeWhile_append_cons_of_neg (p := (· = '-')) (c := ')') (by decide) body ['$']
  rw [htake, hdrop] at h
  split at h
  · next after hhyphens hbracket =>
    obtain ⟨⟨items, rest'⟩, hitems, heq⟩ := bind_eq_ok.mp h
    cases heq
    cases hafter : body.dropWhile (· = '-') with
    | nil =>
      rw [hafter] at hbracket
      cases hbracket
    | cons c cs =>
      rw [hafter] at hbracket
      cases hbracket
      obtain ⟨left, hleft, rfl⟩ := readItems_of_append hitems
      rw [hhyphens]
      exact ⟨left, bind_eq_ok.mpr ⟨_, hleft, rfl⟩, rfl⟩
  · next hbracket =>
    obtain ⟨⟨items, rest'⟩, hitems, heq⟩ := bind_eq_ok.mp h
    cases heq
    obtain ⟨left, hleft, rfl⟩ := readItems_of_append hitems
    refine ⟨left, ?_, rfl⟩
    split
    · next after hhyphens hafter =>
      exact absurd (by rw [hafter, List.cons_append]) (hbracket (after ++ [')', '$']) hhyphens)
    · exact bind_eq_ok.mpr ⟨_, hleft, rfl⟩

theorem readGroupName_of_append {cs rest : List Char} {lexeme : Lexeme}
    (h : readGroupName (cs ++ [')', '$']) = .ok (lexeme, rest)) :
    ∃ left, readGroupName cs = .ok (lexeme, left) ∧ rest = left ++ [')', '$'] := by
  unfold readGroupName at h ⊢
  cases hdrop : cs.dropWhile (· ≠ '>') with
  | nil =>
    -- the name would have to end behind the text
    have hmore : (cs ++ [')', '$']).dropWhile (· ≠ '>') = [] := by
      rw [List.dropWhile_append, hdrop]
      rfl
    rw [hmore] at h
    split at h
    · cases h
    · cases h
    · next hname =>
      split at h <;> cases h
  | cons d after =>
    have hne : cs.dropWhile (· ≠ '>') ≠ [] := hdrop ▸ List.cons_ne_nil d after
    obtain ⟨htake, hdropMore⟩ := takeWhile_append_of_dropWhile_ne_nil hne [')', '$']
    rw [htake, hdropMore, hdrop] at h
    cases hname : cs.takeWhile (· ≠ '>') with
    | nil =>
      rw [hname] at h
      cases h
    | cons c name =>
      rw [hname] at h
      dsimp only [List.cons_append] at h ⊢
      split at h
      · cases h
      · next hchars =>
        cases h
        exact ⟨after, if_neg hchars, rfl⟩

theorem readGroup_of_append {cs rest : List Char} {lexeme : Lexeme}
    (h : readGroup (cs ++ [')', '$']) = .ok (lexeme, rest)) :
    ∃ left, readGroup cs = .ok (lexeme, left) ∧ rest = left ++ [')', '$'] := by
  by_cases hhead : cs.head? = some '?'
  · obtain ⟨cs, rfl⟩ := List.head?_eq_some_iff.mp hhead
    rw [List.cons_append] at h
    unfold readGroup at h
    split at h
    case h_1 heq =>
      cases cs with
      | nil => cases heq
      | cons c cs =>
        cases heq
        cases h
        exact ⟨cs, rfl, rfl⟩
    case h_6 hequal hbang heq =>
      cases cs with
      | nil => cases heq
      | cons c cs =>
        cases heq
        obtain ⟨left, hleft, rfl⟩ := readGroupName_of_append h
        refine ⟨left, ?_, rfl⟩
        rw [readGroup, hleft]
        all_goals
          rintro tail rfl
          simp_all
    case h_7 heq =>
      rcases cs with _ | ⟨c, _ | ⟨d, cs⟩⟩
      · cases heq
      · cases heq
      · cases heq
        exact readGroupName_of_append h
    case h_9 => simp_all
    all_goals cases h
  · rw [readGroup_of_head?_ne (head?_append_ne hhead (by decide))] at h
    cases h
    exact ⟨cs, readGroup_of_head?_ne hhead, rfl⟩

theorem readCountNumber_of_append {cs rest : List Char} {n : Nat}
    (h : readCountNumber (cs ++ [')', '$']) = .ok (n, rest)) :
    ∃ left, readCountNumber cs = .ok (n, left) ∧ rest = left ++ [')', '$'] := by
  have hblank := fun cs =>
    (takeWhile_append_cons_of_neg (p := Text.isBlank) (c := ')') rfl cs ['$']).2
  have hdigits := fun cs =>
    takeWhile_append_cons_of_neg (p := Char.isDigit) (c := ')') rfl cs ['$']
  unfold readCountNumber at h ⊢
  dsimp only at h ⊢
  rw [hblank, (hdigits _).1, (hdigits _).2, hblank] at h
  split at h
  · cases h
  · next hsome =>
    split at h
    · next hsmall =>
      cases h
      exact ⟨_, by rw [if_neg hsome, if_pos hsmall], rfl⟩
    · cases h

theorem dropLazy_before_anchor (cs : List Char) :
    dropLazy (cs ++ [')', '$']) = dropLazy cs ++ [')', '$'] := dropLazy_append (by decide)

theorem readCount_between {cs left : List Char} {min : Nat}
    (h : readCountNumber cs = .ok (min, ',' :: left)) (hleft : left.head? ≠ some '}') :
    readCount cs = (do
      let (max, rest) ← readCountNumber left
      match rest with
      | '}' :: rest =>
        if min ≤ max then .ok (.count min (some max), dropLazy rest) else .error .countOutOfOrder
      | _ => .error .unclosedCount) := by
  rw [readCount, h]
  simp only [bind, Except.bind]
  split
  · next heq => cases heq
  · next heq =>
    cases heq
    exact absurd rfl hleft
  · next heq =>
    cases heq
    rfl
  · next hother => exact absurd rfl (hother left)

theorem readCount_of_append {cs rest : List Char} {lexeme : Lexeme}
    (h : readCount (cs ++ [')', '$']) = .ok (lexeme, rest)) :
    ∃ left, readCount cs = .ok (lexeme, left) ∧ rest = left ++ [')', '$'] := by
  unfold readCount at h
  obtain ⟨⟨min, middle⟩, hmin, h⟩ := bind_eq_ok.mp h
  obtain ⟨left, hleft, rfl⟩ := readCountNumber_of_append hmin
  dsimp only at h
  split at h
  case h_1 heq =>
    cases left with
    | nil => cases heq
    | cons c left =>
      cases heq
      cases h
      exact ⟨dropLazy left, bind_eq_ok.mpr ⟨_, hleft, rfl⟩, dropLazy_before_anchor left⟩
  case h_2 heq =>
    match left with
    | [] | [c] => cases heq
    | c :: d :: left =>
      cases heq
      cases h
      exact ⟨dropLazy left, bind_eq_ok.mpr ⟨_, hleft, rfl⟩, dropLazy_before_anchor left⟩
  case h_3 hbrace heq =>
    cases left with
    | nil => cases heq
    | cons c left =>
      cases heq
      obtain ⟨⟨max, middle⟩, hmax, h⟩ := bind_eq_ok.mp h
      obtain ⟨after, hafter, rfl⟩ := readCountNumber_of_append hmax
      dsimp only at h
      split at h
      · next heq =>
        cases after with
        | nil => cases heq
        | cons c after =>
          cases heq
          split at h
          · next hle =>
            cases h
            refine ⟨dropLazy after, ?_, dropLazy_before_anchor after⟩
            have hleftHead : left.head? ≠ some '}' := by
              intro hhead
              obtain ⟨tail, rfl⟩ := List.head?_eq_some_iff.mp hhead
              exact hbrace (tail ++ [')', '$']) rfl
            rw [readCount_between hleft hleftHead]
            exact bind_eq_ok.mpr ⟨_, hafter, if_pos hle⟩
          · cases h
      · cases h
  case h_4 => cases h

/-- **Reading before an anchor.** A lexeme in front of `)$` is the lexeme that stands there by
itself, unless a backslash has nothing else to escape. -/
theorem Lexeme.read_of_append {c : Char} {cs rest : List Char} {lexeme : Lexeme}
    (h : Lexeme.read c (cs ++ [')', '$']) = .ok (lexeme, rest)) (hcs : c = '\\' → cs ≠ []) :
    ∃ left, Lexeme.read c cs = .ok (lexeme, left) ∧ rest = left ++ [')', '$'] := by
  unfold Lexeme.read at h ⊢
  split at h
  case h_1 =>
    obtain ⟨⟨escape, rest'⟩, hescape, heq⟩ := bind_eq_ok.mp h
    cases heq
    obtain ⟨d, cs, rfl⟩ := List.exists_cons_of_ne_nil (hcs rfl)
    obtain ⟨left, hleft, rfl⟩ := readEscape_of_append hescape
    exact ⟨left, bind_eq_ok.mpr ⟨_, hleft, rfl⟩, rfl⟩
  case h_2 =>
    obtain ⟨⟨set, rest'⟩, hset, heq⟩ := bind_eq_ok.mp h
    cases heq
    obtain ⟨left, hleft, rfl⟩ := readClass_of_append hset
    exact ⟨left, bind_eq_ok.mpr ⟨_, hleft, rfl⟩, rfl⟩
  case h_3 => exact readGroup_of_append h
  case h_9 => exact readCount_of_append h
  case h_6 | h_7 | h_8 =>
    rw [dropLazy_before_anchor] at h
    cases h
    exact ⟨dropLazy cs, rfl, rfl⟩
  all_goals
    cases h
    exact ⟨cs, by simp [*], rfl⟩

theorem scan_of_error {c : Char} {cs : List Char} {fault : Fault}
    (h : Lexeme.read c cs = .error fault) : scan (c :: cs) = ([], some fault) := by
  rw [scan]
  split
  · next hread =>
    rw [h] at hread
    cases hread
    rfl
  · next hread =>
    rw [h] at hread
    cases hread

/-- A text that is not cut into lexemes to its end is not cut before `)$` either, or what follows
its lexemes there closes no group. -/
theorem scan_before_anchor {cs : List Char} (h : (scan cs).2 ≠ none) :
    ∃ tail, (scan (cs ++ [')', '$'])).1 = (scan cs).1 ++ tail ∧
      ((scan (cs ++ [')', '$'])).2 = none → ∀ entry ∈ tail, entry.1 ≠ .closing) := by
  fun_induction scan cs with
  | case1 => exact absurd rfl h
  | case2 c cs fault hfault =>
    cases hread : Lexeme.read c (cs ++ [')', '$']) with
    | error fault' =>
      rw [List.cons_append, scan_of_error hread]
      exact ⟨[], rfl, fun hnone => by cases hnone⟩
    | ok read =>
      have hlone : c = '\\' ∧ cs = [] := by
        by_contra hne
        obtain ⟨left, hleft, -⟩ := Lexeme.read_of_append hread (not_and.mp hne)
        rw [hfault] at hleft
        cases hleft
      obtain ⟨rfl, rfl⟩ := hlone
      have hscan : scan ['\\', ')', '$'] =
          ([(.atom (.char (.single ')')), 2), (.atom .finish, 1)], none) := by
        rw [scan_cons (.atom (.char (.single ')'))) rfl, scan_cons (.atom .finish) rfl, scan]
        rfl
      refine ⟨_, by rw [List.cons_append, List.nil_append, hscan]; rfl, fun _ => ?_⟩
      simp
  | case3 c cs lexeme rest hread hlength lexemes fault hrest ih =>
    have hwidth : (cs ++ [')', '$']).length + 1 - (rest ++ [')', '$']).length =
        cs.length + 1 - rest.length := by
      rw [List.length_append, List.length_append]
      omega
    rw [hrest] at ih
    obtain ⟨tail, htail, hclosing⟩ := ih h
    rw [List.cons_append, scan_cons _ (Lexeme.read_append (by decide) hread), hwidth, htail]
    exact ⟨tail, rfl, hclosing⟩

end IntervalRegex.Regex
