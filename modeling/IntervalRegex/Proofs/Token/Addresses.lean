import IntervalRegex.Proofs.Token.Block
import IntervalRegex.Proofs.Token.Grammar
import IntervalRegex.Proofs.Token.Range

/-!
# The addresses of a block

A block of fields covers the addresses of one range, unless one of its wildcards holds a bit that
counts. The pattern of the fields and the pattern of the range then match the same texts, the
addresses of the range.
-/

namespace IntervalRegex

open Fragment Text

theorem Quad.toList_map {α β : Type} (f : α → β) (q : Quad α) :
    (q.map f).toList = q.toList.map f := rfl

namespace Token

variable {fields : Quad Field} {bits : Nat}

/-- A bit that counts lies in a wildcard. -/
def Broken (fields : Quad Field) (bits : Nat) : Prop :=
  ∃ j < bits, fields.toList[j / 8]? = some .wildcard

theorem any_wildcard_iff :
    (fields.toList.zipIdx.any fun (field, index) =>
      field == .wildcard && 0 < fixedBits bits index) = true ↔ Broken fields bits := by
  simp only [List.any_eq_true, Prod.exists, List.mem_zipIdx_iff_getElem?, Bool.and_eq_true,
    beq_iff_eq, decide_eq_true_eq, lt_fixedBits_iff]
  constructor
  · intro hany
    obtain ⟨-, index, hfield, rfl, hbits, -⟩ := hany
    refine ⟨8 * index, hbits, ?_⟩
    rwa [Nat.mul_div_cancel_left index (by decide)]
  · intro hbroken
    obtain ⟨j, hj, hfield⟩ := hbroken
    exact ⟨.wildcard, j / 8, hfield, rfl, by omega, by decide⟩

theorem addresses_of_broken (h : Broken fields bits) : (block fields bits).addresses = none :=
  if_pos (any_wildcard_iff.mpr h)

theorem addresses_of_not_broken (h : ¬ Broken fields bits) :
    (block fields bits).addresses = AddressRange.block (fields.map Field.floor) bits :=
  if_neg (any_wildcard_iff.not.mpr h)

theorem addresses_eq_none_iff :
    (block fields bits).addresses = none ↔ 32 < bits ∨ Broken fields bits := by
  by_cases hbroken : Broken fields bits
  · exact iff_of_true (addresses_of_broken hbroken) (.inr hbroken)
  · rw [addresses_of_not_broken hbroken, AddressRange.block_eq_none_iff, or_iff_left hbroken]

theorem block_of_addresses {r : AddressRange} (h : (block fields bits).addresses = some r) :
    bits ≤ 32 ∧ ¬ Broken fields bits ∧
      AddressRange.block (fields.map Field.floor) bits = some r := by
  have hsome : (block fields bits).addresses ≠ none := by
    rw [h]
    exact Option.some_ne_none r
  rw [ne_eq, addresses_eq_none_iff, not_or] at hsome
  obtain ⟨hbits, hbroken⟩ := hsome
  rw [addresses_of_not_broken hbroken] at h
  exact ⟨Nat.not_lt.mp hbits, hbroken, h⟩

section Covered

variable {r : AddressRange} (h : (block fields bits).addresses = some r)

include h

theorem blockAgrees_iff_contains (x : Address) :
    BlockAgrees bits fields x ↔ r.contains x = true := by
  -- bit by bit: no wildcard holds a bit that counts, so each of them is a bit of an octet
  obtain ⟨hbits, hbroken, hblock⟩ := block_of_addresses h
  rw [blockAgrees_iff, AddressRange.contains_block_iff hblock, Nat.min_eq_left hbits]
  apply forall₂_congr
  intro j hj
  have hplace : j / 8 < fields.toList.length := by
    have hlength := fields.length_toList
    omega
  have hfield := List.getElem?_eq_getElem hplace
  generalize fields.toList[j / 8] = field at hfield
  cases field with
  | wildcard => exact absurd ⟨j, hj, hfield⟩ hbroken
  | octet value =>
    have hoctet : (fields.map Field.floor).toList[j / 8]? = some value := by
      rw [Quad.toList_map, List.getElem?_map, hfield]
      rfl
    have hbit := Address.testBit_value hoctet (Nat.mod_lt j (by decide))
    rw [Nat.div_add_mod] at hbit
    rw [hbit, hfield]
    constructor
    · intro hall
      exact hall value rfl
    · intro hvalue value' heq
      cases heq
      exact hvalue

theorem first_le_last_of_addresses : r.first.value ≤ r.last.value := by
  -- the range holds the address that it was made from
  obtain ⟨-, -, hblock⟩ := block_of_addresses h
  have hfloor : r.contains (fields.map Field.floor) = true :=
    (AddressRange.contains_block_iff hblock _).mpr fun _ _ => rfl
  rw [AddressRange.contains_iff] at hfloor
  exact Nat.le_trans hfloor.1 hfloor.2

end Covered

/-- **Blocks are ranges.** A block covers no single range exactly if it counts more bits than there
are or one of them lies in a wildcard. Otherwise its matcher accepts the addresses of the range, and
so does the matcher of the range written out. -/
theorem addresses_agree (fields : Quad Field) (bits : Nat) :
    ((block fields bits).addresses = none ↔
      32 < bits ∨ ∃ j < bits, fields.toList[j / 8]? = some .wildcard) ∧
    ∀ r, (block fields bits).addresses = some r →
      ∃ p m q k, (block fields bits).pattern = .ok p ∧ Matcher.compile .ascii p = .ok m ∧
        (read r.text).bind pattern = .ok q ∧ Matcher.compile .ascii q = .ok k ∧
        ∀ input : String,
          (m.accepts input = true ↔ ∃ x : Address, input = x.text ∧ r.contains x = true) ∧
            (m.accepts input = true ↔ k.accepts input = true) := by
  refine ⟨addresses_eq_none_iff, ?_⟩
  intro r hr
  have hclosed := dotSeparated_closed (blockFragments_closed fields bits)
  obtain ⟨m, hm, haccepts⟩ := exists_compile hclosed.1
  obtain ⟨f, hf, hfclosed, hlang⟩ := fragment_range_of_le (first_le_last_of_addresses hr)
  obtain ⟨k, hk, hkaccepts⟩ := exists_compile hfclosed.1
  have hcontains : ∀ input : String,
      m.accepts input = true ↔ ∃ x : Address, input = x.text ∧ r.contains x = true := by
    intro input
    rw [haccepts, mem_lang_blockFragments_iff]
    apply exists_congr
    intro x
    rw [blockAgrees_iff_contains hr, Address.text, ← String.toList_inj, String.toList_ofList]
  have hpattern : (read r.text).bind pattern = .ok (String.ofList f.text) := by
    rw [read_text_range, Except.bind, pattern, hf]
    rfl
  refine ⟨_, m, _, k, rfl, hm, hpattern, hk, ?_⟩
  intro input
  refine ⟨hcontains input, ?_⟩
  rw [hcontains, hkaccepts, hlang, mem_between_dottedOctets_iff r.last.value_lt]
  simp only [AddressRange.contains_iff, Nat.lt_succ_iff]

/-- Wildcards are read as zero where no bit counts. -/
theorem addresses_agree_wildcards :
    (block ⟨.octet 10, .octet 1, .wildcard, .wildcard⟩ 16).addresses =
        some ⟨⟨10, 1, 0, 0⟩, ⟨10, 1, 255, 255⟩⟩ ∧
      ∃ p m q k, (block ⟨.octet 10, .octet 1, .wildcard, .wildcard⟩ 16).pattern = .ok p ∧
        Matcher.compile .ascii p = .ok m ∧
        (read "10.1.0.0-10.1.255.255").bind pattern = .ok q ∧ Matcher.compile .ascii q = .ok k ∧
        ∀ input : String,
          (m.accepts input = true ↔ ∃ x : Address, input = x.text ∧
            (⟨⟨10, 1, 0, 0⟩, ⟨10, 1, 255, 255⟩⟩ : AddressRange).contains x = true) ∧
            (m.accepts input = true ↔ k.accepts input = true) := by
  have haddresses : (block ⟨.octet 10, .octet 1, .wildcard, .wildcard⟩ 16).addresses =
      some ⟨⟨10, 1, 0, 0⟩, ⟨10, 1, 255, 255⟩⟩ := by
    decide
  have htext : AddressRange.text ⟨⟨10, 1, 0, 0⟩, ⟨10, 1, 255, 255⟩⟩ = "10.1.0.0-10.1.255.255" := by
    decide +kernel
  have hagree := (addresses_agree _ _).2 _ haddresses
  rw [htext] at hagree
  exact ⟨haddresses, hagree⟩

end Token

end IntervalRegex
