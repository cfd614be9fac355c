import IntervalRegex.Proofs.Text.Decimal
import IntervalRegex.Token.Reader

/-!
# The grammar of tokens

How tokens are written, and what the texts of the grammar stand for. Each reader inverts one
notation: it reads a value from the text of that value and from no other. Neither a hyphen nor a
slash occurs in a quad, so the first of them shows which form a text has.
-/

namespace IntervalRegex

open Text

/-! ### Notation -/

def Field.chars : Field → List Char
  | .octet value => decimal value.val
  | .wildcard => ['*']

/-- The text is one to four fields with dots between them. -/
structure IsQuad (cs : List Char) (fields : List Field) : Prop where
  ne_nil : fields ≠ []
  length_le : fields.length ≤ 4
  chars_eq : cs = ['.'].intercalate (fields.map Field.chars)

/-- A quad, alone, with a number of bits behind it, or with a full address behind it. -/
inductive Token.InGrammar : List Char → Prop
  | quad {cs : List Char} {fields : List Field} (h : IsQuad cs fields) : InGrammar cs
  | block {cs : List Char} {fields : List Field} {bits : Nat} (h : IsQuad cs fields)
    (hbits : 1 ≤ bits ∧ bits ≤ 32) : InGrammar (cs ++ '/' :: decimal bits)
  | range {cs : List Char} {fields : List Field} (h : IsQuad cs fields) (last : Address) :
    InGrammar (cs ++ '-' :: last.chars)

/-- What a text stands for. Fields that are left out are zero, and all bits of a quad without a
number of bits count. -/
inductive Token.Denotes : List Char → Token → Prop
  | quad {cs : List Char} {fields : Quad Field} (h : IsQuad cs fields.toList) :
    Denotes cs (.block fields 32)
  | block {cs : List Char} {fields : List Field} {bits : Nat} {padded : Quad Field}
    (h : IsQuad cs fields) (hbits : 1 ≤ bits ∧ bits ≤ 32)
    (hpadded : padded.toList = fields ++ List.replicate (4 - fields.length) (.octet 0)) :
    Denotes (cs ++ '/' :: decimal bits) (.block padded bits)
  | range (first last : Address) :
    Denotes (first.chars ++ '-' :: last.chars) (.range ⟨first, last⟩)

/-! ### Fields -/

theorem Field.not_mem_chars {field : Field} {c : Char} (hdigit : c.isDigit = false)
    (hstar : c ≠ '*') : c ∉ field.chars := by
  intro hc
  cases field with
  | wildcard => exact hstar (List.mem_singleton.mp hc)
  | octet value => exact not_mem_decimal hdigit value.val hc

theorem decimal_ne_star (n : Nat) : decimal n ≠ ['*'] := by
  intro heq
  exact not_mem_decimal rfl n (heq ▸ List.mem_singleton_self '*')

theorem Octet.ofNat_eq_iff {n : Nat} {value : Octet} (h : n ≤ 255) :
    Octet.ofNat n = value ↔ n = value.val := by
  have hval : (Octet.ofNat n).val = n := Nat.mod_eq_of_lt (Nat.lt_succ_of_le h)
  rw [← Fin.val_inj, hval]

theorem Field.read_eq_some_iff {cs : List Char} {field : Field} :
    Field.read cs = some field ↔ cs = field.chars := by
  unfold Field.read
  cases field with
  | wildcard => split <;> simp_all [Field.chars]
  | octet value =>
    split
    · next hstar => simp [hstar, Field.chars, (decimal_ne_star value.val).symm]
    · rw [Option.map_eq_some_iff, Field.chars]
      constructor
      · intro hread
        obtain ⟨n, hn, hfield⟩ := hread
        obtain ⟨hle, rfl⟩ := (readDecimal_eq_some_iff (by decide)).mp hn
        rw [Field.octet.injEq, Octet.ofNat_eq_iff hle] at hfield
        rw [hfield]
      · intro hcs
        have hle : value.val ≤ 255 := Nat.le_of_lt_succ value.isLt
        refine ⟨value.val, (readDecimal_eq_some_iff (by decide)).mpr ⟨hle, hcs⟩, ?_⟩
        rw [(Octet.ofNat_eq_iff hle).mpr rfl]

theorem mapM_read_eq_some_iff {texts : List (List Char)} {fields : List Field} :
    texts.mapM Field.read = some fields ↔ texts = fields.map Field.chars := by
  induction texts generalizing fields with
  | nil => cases fields <;> simp
  | cons text texts ih =>
    simp only [List.mapM_cons, Option.bind_eq_bind, Option.bind_eq_some_iff, ih,
      Field.read_eq_some_iff, Option.pure_def, Option.some.injEq]
    cases fields with
    | nil => simp
    | cons field fields => simp

/-! ### Quads -/

theorem mem_intercalate {sep c : Char} {texts : List (List Char)}
    (h : c ∈ [sep].intercalate texts) : c = sep ∨ ∃ text ∈ texts, c ∈ text := by
  induction texts with
  | nil => cases h
  | cons text texts ih =>
    cases texts with
    | nil =>
      rw [List.intercalate_singleton] at h
      exact .inr ⟨text, List.mem_cons_self, h⟩
    | cons next texts =>
      rw [List.intercalate_cons_cons, List.append_assoc, List.mem_append] at h
      rcases h with htext | hrest
      · exact .inr ⟨text, List.mem_cons_self, htext⟩
      · rcases List.mem_cons.mp hrest with rfl | hrest
        · exact .inl rfl
        · exact (ih hrest).imp_right fun ⟨t, ht, hc⟩ => ⟨t, List.mem_cons_of_mem text ht, hc⟩

theorem intercalate_concat {sep : Char} {texts : List (List Char)} (hne : texts ≠ [])
    (text : List Char) :
    [sep].intercalate (texts ++ [text]) = [sep].intercalate texts ++ sep :: text := by
  induction texts with
  | nil => exact absurd rfl hne
  | cons first rest ih =>
    cases rest with
    | nil => simp
    | cons next rest =>
      rw [List.cons_append, List.intercalate_cons_of_ne_nil (List.concat_ne_nil _ _),
        ih (List.cons_ne_nil next rest), List.intercalate_cons_cons]
      simp only [List.append_assoc]

theorem IsQuad.not_mem {cs : List Char} {fields : List Field} (h : IsQuad cs fields) {c : Char}
    (hdigit : c.isDigit = false) (hstar : c ≠ '*') (hdot : c ≠ '.') : c ∉ cs := by
  intro hc
  rw [h.chars_eq] at hc
  rcases mem_intercalate hc with rfl | ⟨text, htext, hc⟩
  · exact hdot rfl
  · obtain ⟨field, -, rfl⟩ := List.mem_map.mp htext
    exact Field.not_mem_chars hdigit hstar hc

theorem readFields_eq_some_iff {cs : List Char} {fields : List Field} :
    readFields cs = some fields ↔ IsQuad cs fields := by
  rw [readFields, Option.filter_eq_some_iff, mapM_read_eq_some_iff, decide_eq_true_eq]
  constructor
  · intro hread
    obtain ⟨hsplit, hlength⟩ := hread
    refine ⟨?_, hlength, ?_⟩
    · rintro rfl
      exact List.splitOn_ne_nil '.' cs hsplit
    · rw [← hsplit, List.intercalate_splitOn]
  · intro hquad
    obtain ⟨hne, hlength, rfl⟩ := hquad
    refine ⟨List.splitOn_intercalate '.' ?_ ?_, hlength⟩
    · intro text htext
      obtain ⟨field, -, rfl⟩ := List.mem_map.mp htext
      exact Field.not_mem_chars (by decide) (by decide)
    · rwa [ne_eq, List.map_eq_nil_iff]

/-! ### Bits and addresses -/

theorem readBits_eq_some_iff {cs : List Char} {bits : Nat} :
    readBits cs = some bits ↔ (1 ≤ bits ∧ bits ≤ 32) ∧ cs = decimal bits := by
  rw [readBits, Option.filter_eq_some_iff, readDecimal_eq_some_iff (by decide), bne_iff_ne,
    Nat.one_le_iff_ne_zero]
  constructor
  · intro hread
    obtain ⟨⟨hle, hcs⟩, hpos⟩ := hread
    exact ⟨⟨hpos, hle⟩, hcs⟩
  · intro hbits
    obtain ⟨⟨hpos, hle⟩, hcs⟩ := hbits
    exact ⟨⟨hle, hcs⟩, hpos⟩

theorem fullAddress?_eq_some_iff {fields : List Field} {a : Address} :
    fullAddress? fields = some a ↔ fields = a.toList.map .octet := by
  obtain ⟨first, second, third, fourth⟩ := a
  unfold fullAddress?
  split
  · simp [Quad.toList]
  · next hshape =>
    constructor
    · intro hnone
      cases hnone
    · rintro rfl
      exact absurd rfl (hshape first second third fourth)

theorem Address.isQuad (a : Address) : IsQuad a.chars (a.toList.map .octet) where
  ne_nil := List.cons_ne_nil _ _
  length_le := Nat.le_refl 4
  chars_eq := by rw [Address.chars, List.map_map]; rfl

theorem Address.read_eq_some_iff {cs : List Char} {a : Address} :
    Address.read cs = some a ↔ cs = a.chars := by
  rw [Address.read, Option.bind_eq_some_iff]
  simp only [readFields_eq_some_iff, fullAddress?_eq_some_iff]
  constructor
  · intro hread
    obtain ⟨-, hquad, rfl⟩ := hread
    exact hquad.chars_eq.trans a.isQuad.chars_eq.symm
  · rintro rfl
    exact ⟨_, a.isQuad, rfl⟩

theorem Address.isQuad_text (a : Address) : IsQuad a.text.toList (a.toList.map .octet) := by
  rw [Address.text, String.toList_ofList]
  exact a.isQuad

theorem Address.text_injective {a b : Address} (h : a.text = b.text) : a = b := by
  have hchars : a.chars = b.chars := String.ofList_inj.mp h
  have hread := Address.read_eq_some_iff.mpr hchars
  rw [Address.read_eq_some_iff.mpr rfl] at hread
  exact Option.some.inj hread

theorem Quad.toList_ofListD {α : Type} (fill : α) {xs : List α} (h : xs.length ≤ 4) :
    (Quad.ofListD fill xs).toList = xs ++ List.replicate (4 - xs.length) fill := by
  match xs, h with
  | [], _ | [_], _ | [_, _], _ | [_, _, _], _ | [_, _, _, _], _ => rfl

theorem Quad.length_toList {α : Type} (quad : Quad α) : quad.toList.length = 4 := rfl

theorem Quad.exists_toList_eq {α : Type} {xs : List α} (h : xs.length = 4) :
    ∃ quad : Quad α, quad.toList = xs := by
  match xs, h with
  | [a, b, c, d], _ => exact ⟨⟨a, b, c, d⟩, rfl⟩

theorem Quad.toList_injective {α : Type} : Function.Injective (Quad.toList (α := α)) := by
  rintro ⟨a, b, c, d⟩ ⟨a', b', c', d'⟩ h
  simpa [Quad.toList] using h

namespace Token

/-! ### Texts of each form -/

section Forms

variable {input : String} {cs : List Char} {fields : List Field}

theorem ofFields_eq (h : fields.length ≤ 4) (bits : Nat) {padded : Quad Field}
    (hpadded : padded.toList = fields ++ List.replicate (4 - fields.length) (.octet 0)) :
    ofFields fields bits = block padded bits := by
  have hfields := Quad.toList_ofListD (Field.octet 0) h
  rw [← hpadded] at hfields
  exact congrArg (block · bits) (Quad.toList_injective hfields)

theorem read_quad (h : IsQuad input.toList fields) :
    read input =
      if fields.length = 4 then .ok (ofFields fields 32) else .error (.missingBits input) := by
  have hhyphen := cut_eq_none_iff.mpr (h.not_mem (c := '-') (by decide) (by decide) (by decide))
  have hslash := cut_eq_none_iff.mpr (h.not_mem (c := '/') (by decide) (by decide) (by decide))
  simp only [read, hhyphen, hslash, readFields_eq_some_iff.mpr h]

theorem read_block (h : IsQuad cs fields) {bits : Nat} (hbits : 1 ≤ bits ∧ bits ≤ 32)
    (hinput : input.toList = cs ++ '/' :: decimal bits) :
    read input = .ok (ofFields fields bits) := by
  have hhyphen : cut '-' input.toList = none := by
    rw [cut_eq_none_iff, hinput, List.mem_append, List.mem_cons, not_or, not_or]
    exact ⟨h.not_mem (by decide) (by decide) (by decide), by decide, not_mem_decimal rfl bits⟩
  have hslash := cut_eq_some_iff.mpr
    ⟨hinput, h.not_mem (c := '/') (by decide) (by decide) (by decide)⟩
  have hread := readBits_eq_some_iff.mpr ⟨hbits, rfl⟩
  simp only [read, hhyphen, hslash, readFields_eq_some_iff.mpr h, hread]

theorem read_range (h : IsQuad cs fields) {last : Address}
    (hinput : input.toList = cs ++ '-' :: last.chars) :
    read input = (fullAddress? fields).elim (.error (.incompleteStart input)) fun first =>
      .ok (.range ⟨first, last⟩) := by
  have hhyphen := cut_eq_some_iff.mpr
    ⟨hinput, h.not_mem (c := '-') (by decide) (by decide) (by decide)⟩
  have hlast := Address.read_eq_some_iff.mpr (rfl : last.chars = last.chars)
  simp only [read, hhyphen, readRange, readFields_eq_some_iff.mpr h, hlast]
  cases fullAddress? fields <;> rfl

theorem read_text_range (r : AddressRange) : read r.text = .ok (.range r) := by
  have hinput : r.text.toList = r.first.chars ++ '-' :: r.last.chars := String.toList_ofList
  rw [read_range r.first.isQuad hinput, fullAddress?_eq_some_iff.mpr rfl]
  rfl

theorem read_of_not_inGrammar (h : ¬ InGrammar input.toList) :
    read input = .error (.notToken input) := by
  -- each way to read on puts the text into the grammar, by the form that was cut
  unfold read
  dsimp only
  split
  · next start stop hcut =>
    obtain ⟨hinput, -⟩ := cut_eq_some_iff.mp hcut
    unfold readRange
    split
    · next fields last hfields hlast =>
      obtain rfl := Address.read_eq_some_iff.mp hlast
      rw [hinput] at h
      exact absurd (.range (readFields_eq_some_iff.mp hfields) last) h
    · rfl
  · split
    · next quad bits hcut =>
      obtain ⟨hinput, -⟩ := cut_eq_some_iff.mp hcut
      split
      · next fields count hfields hread =>
        obtain ⟨hcount, rfl⟩ := readBits_eq_some_iff.mp hread
        rw [hinput] at h
        exact absurd (.block (readFields_eq_some_iff.mp hfields) hcount) h
      · rfl
    · split
      · next fields hfields => exact absurd (.quad (readFields_eq_some_iff.mp hfields)) h
      · rfl

end Forms

/-! ### Numbers of bits -/

section Bits

variable {quad : String} {fields : List Field} {bits : Nat}

theorem read_quad_bits (h : IsQuad quad.toList fields) (hbits : 1 ≤ bits ∧ bits ≤ 32) :
    read (quad ++ "/" ++ toString bits) = .ok (ofFields fields bits) := by
  apply read_block h hbits
  rw [String.toList_append, String.toList_append, toList_toString, List.append_assoc]
  rfl

theorem read_address_bits (a : Address) (hbits : 1 ≤ bits ∧ bits ≤ 32) :
    read (a.text ++ "/" ++ toString bits) = .ok (block (a.map .octet) bits) := by
  rw [read_quad_bits a.isQuad_text hbits]
  rfl

/-- Without a number of bits all of them count. -/
theorem read_address (a : Address) : read a.text = .ok (block (a.map .octet) 32) := by
  rw [read_quad a.isQuad_text]
  rfl

theorem isQuad_append_zero (h : IsQuad quad.toList fields) (hlength : fields.length < 4) :
    IsQuad (quad ++ ".0").toList (fields ++ [.octet 0]) where
  ne_nil := List.concat_ne_nil _ _
  length_le := by
    rw [List.length_append]
    exact hlength
  chars_eq := by
    have hne : fields.map Field.chars ≠ [] := List.map_eq_nil_iff.not.mpr h.ne_nil
    rw [String.toList_append, h.chars_eq, List.map_append, List.map_singleton,
      intercalate_concat hne]
    rfl

theorem ofFields_append_zero (hlength : fields.length < 4) (bits : Nat) :
    ofFields (fields ++ [.octet 0]) bits = ofFields fields bits := by
  match fields, hlength with
  | [], _ | [_], _ | [_, _], _ | [_, _, _], _ => rfl

/-- A zero that is written stands for the same as one that is left out. -/
theorem read_zero_bits (h : IsQuad quad.toList fields) (hlength : fields.length < 4)
    (hbits : 1 ≤ bits ∧ bits ≤ 32) :
    read (quad ++ ".0" ++ "/" ++ toString bits) = .ok (ofFields fields bits) := by
  rw [read_quad_bits (isQuad_append_zero h hlength) hbits, ofFields_append_zero hlength]

end Bits

/-! ### All texts -/

/-- The answer to a text, by the form of the text. -/
inductive Answer (input : String) : Except PatternError Token → Prop
  | notToken (h : ¬ InGrammar input.toList) : Answer input (.error (.notToken input))
  | missingBits {fields : List Field} (h : IsQuad input.toList fields)
    (hshort : fields.length < 4) : Answer input (.error (.missingBits input))
  | incompleteStart {cs : List Char} {fields : List Field} {last : Address} (h : IsQuad cs fields)
    (hinput : input.toList = cs ++ '-' :: last.chars)
    (hstart : ∀ first : Address, fields ≠ first.toList.map .octet) :
    Answer input (.error (.incompleteStart input))
  | token {token : Token} (h : Denotes input.toList token) : Answer input (.ok token)

theorem Answer.read_eq {input : String} {answer : Except PatternError Token}
    (h : Answer input answer) : read input = answer := by
  cases h with
  | notToken h => exact read_of_not_inGrammar h
  | missingBits h hshort => rw [read_quad h, if_neg (Nat.ne_of_lt hshort)]
  | incompleteStart h hinput hstart =>
    have hnone : fullAddress? _ = none :=
      Option.eq_none_iff_forall_ne_some.mpr fun first hfirst =>
        hstart first (fullAddress?_eq_some_iff.mp hfirst)
    rw [read_range h hinput, hnone]
    rfl
  | token h =>
    generalize hinput : input.toList = cs at h
    cases h with
    | quad h =>
      subst hinput
      rw [read_quad h, if_pos (Quad.length_toList _),
        ofFields_eq h.length_le 32 (List.append_nil _).symm]
    | block h hbits hpadded =>
      rw [read_block h hbits hinput, ofFields_eq h.length_le _ hpadded]
    | range first last =>
      rw [read_range first.isQuad hinput, fullAddress?_eq_some_iff.mpr rfl]
      rfl

theorem exists_answer (input : String) : ∃ answer, Answer input answer := by
  by_cases htoken : InGrammar input.toList
  · generalize hinput : input.toList = cs at htoken
    cases htoken with
    | @quad _ fields h =>
      subst hinput
      rcases Nat.lt_or_eq_of_le h.length_le with hshort | hfull
      · exact ⟨_, .missingBits h hshort⟩
      · obtain ⟨quad, rfl⟩ := Quad.exists_toList_eq hfull
        exact ⟨_, .token (.quad h)⟩
    | block h hbits =>
      have hdenotes := Denotes.block h hbits (Quad.toList_ofListD (.octet 0) h.length_le)
      rw [← hinput] at hdenotes
      exact ⟨_, .token hdenotes⟩
    | @range cs fields h last =>
      by_cases hfull : ∃ first : Address, fields = first.toList.map .octet
      · obtain ⟨first, rfl⟩ := hfull
        have hdenotes := Denotes.range first last
        rw [h.chars_eq, ← first.isQuad.chars_eq] at hinput
        rw [← hinput] at hdenotes
        exact ⟨_, .token hdenotes⟩
      · exact ⟨_, .incompleteStart h hinput (not_exists.mp hfull)⟩
  · exact ⟨_, .notToken htoken⟩

theorem read_eq_iff {input : String} {answer : Except PatternError Token} :
    read input = answer ↔ Answer input answer := by
  constructor
  · rintro rfl
    obtain ⟨answer, h⟩ := exists_answer input
    rwa [h.read_eq]
  · exact Answer.read_eq

/-- **Reading tokens.** A text is refused as no token exactly if it is outside the grammar, for want
of bits exactly if it is a quad of less than four fields, and for its start exactly if what stands
before a full address is no full address. Every other text is read as what it denotes, and an error
carries the text itself. -/
theorem read_classifies (input : String) :
    (read input = .error (.notToken input) ↔ ¬ InGrammar input.toList) ∧
      (read input = .error (.missingBits input) ↔
        ∃ fields, IsQuad input.toList fields ∧ fields.length < 4) ∧
      (read input = .error (.incompleteStart input) ↔
        ∃ cs fields, ∃ last : Address, IsQuad cs fields ∧ input.toList = cs ++ '-' :: last.chars ∧
          ∀ first : Address, fields ≠ first.toList.map .octet) ∧
      (∀ token, read input = .ok token ↔ Denotes input.toList token) ∧
      ∀ e, read input = .error e →
        e = .notToken input ∨ e = .missingBits input ∨ e = .incompleteStart input := by
  simp only [read_eq_iff]
  refine ⟨⟨?_, .notToken⟩, ⟨?_, ?_⟩, ⟨?_, ?_⟩, fun token => ⟨?_, .token⟩, ?_⟩
  · intro hanswer
    cases hanswer with
    | notToken h => exact h
  · intro hanswer
    cases hanswer with
    | missingBits h hshort => exact ⟨_, h, hshort⟩
  · intro hquad
    obtain ⟨fields, h, hshort⟩ := hquad
    exact .missingBits h hshort
  · intro hanswer
    cases hanswer with
    | incompleteStart h hinput hstart => exact ⟨_, _, _, h, hinput, hstart⟩
  · intro hrange
    obtain ⟨cs, fields, last, h, hinput, hstart⟩ := hrange
    exact .incompleteStart h hinput hstart
  · intro hanswer
    cases hanswer with
    | token h => exact h
  · intro e hanswer
    cases hanswer with
    | notToken => exact .inl rfl
    | missingBits => exact .inr (.inl rfl)
    | incompleteStart => exact .inr (.inr rfl)

/-! ### Printing ranges

A token that is a range is written in one way only, so that the text of a range is both what is read
as it and all that is read as it. -/

theorem denotes_range_iff {cs : List Char} {r : AddressRange} :
    Denotes cs (.range r) ↔ cs = r.chars := by
  constructor
  · intro hdenotes
    cases hdenotes with
    | range first last => rfl
  · rintro rfl
    exact .range r.first r.last

theorem read_eq_ok_iff {input : String} {token : Token} :
    read input = .ok token ↔ Denotes input.toList token := by
  rw [read_eq_iff]
  constructor
  · intro hanswer
    cases hanswer with
    | token h => exact h
  · exact .token

/-- **Reading inverts printing.** A text is read as a range, whether the bounds are in order or not,
exactly if it is the text of that range, character by character. -/
theorem read_eq_range_iff (input : String) (r : AddressRange) :
    read input = .ok (.range r) ↔ r.text = input := by
  rw [read_eq_ok_iff, denotes_range_iff]
  constructor
  · intro hinput
    rw [AddressRange.text, ← hinput, String.ofList_toList]
  · rintro rfl
    exact String.toList_ofList

end Token

end IntervalRegex
