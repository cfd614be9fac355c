import IntervalRegex.Proofs.Token.Addresses

/-!
# Networks

Of the address in front of a number of bits only the bits that count go into the pattern: the others
vanish octet by octet, also in the octet that is cut. Networks of one number of bits therefore have
the same pattern if they are the same block, and otherwise no text in common. An octet that is left
out reads as a zero.
-/

namespace IntervalRegex

open Fragment Text

/-! ### Bits that do not count -/

/-- Below the bits that count an octet has no part in its pattern. -/
theorem Field.fragment_congr {fixed : Nat} (hfixed : fixed ≤ 8) {a b : Octet}
    (h : (Field.octet b).Agrees fixed a) :
    (Field.octet a).fragment fixed = (Field.octet b).fragment fixed := by
  rw [Field.agrees_octet_iff hfixed] at h
  have hblock : octetBlock a fixed = octetBlock b fixed := by
    rw [octetBlock, octetBlock, Nat.one_shiftLeft, h]
  simp only [Field.fragment, hblock]
  split
  · rfl
  · split
    · next hall =>
      rw [hall, Nat.sub_self, pow_zero, Nat.div_one, Nat.div_one] at h
      rw [h]
    · rfl

theorem blockFragments_octets (a : Address) (bits : Nat) :
    blockFragments (a.map .octet) bits =
      [(Field.octet a.first).fragment (fixedBits bits 0),
        (Field.octet a.second).fragment (fixedBits bits 1),
        (Field.octet a.third).fragment (fixedBits bits 2),
        (Field.octet a.fourth).fragment (fixedBits bits 3)] := rfl

theorem blockFragments_congr {a b : Address} {bits : Nat} (h : BlockAgrees bits (b.map .octet) a) :
    blockFragments (a.map .octet) bits = blockFragments (b.map .octet) bits := by
  obtain ⟨hfirst, hsecond, hthird, hfourth⟩ := Quad.forall_getElem?_iff.mp h
  rw [blockFragments_octets, blockFragments_octets,
    Field.fragment_congr (fixedBits_le bits 0) hfirst,
    Field.fragment_congr (fixedBits_le bits 1) hsecond,
    Field.fragment_congr (fixedBits_le bits 2) hthird,
    Field.fragment_congr (fixedBits_le bits 3) hfourth]

namespace Token

/-! ### Blocks of octets -/

theorem addresses_octets (a : Address) (bits : Nat) :
    (block (a.map .octet) bits).addresses = AddressRange.block a bits := by
  apply addresses_of_not_broken
  intro hbroken
  obtain ⟨j, -, hfield⟩ := hbroken
  rw [Quad.toList_map, List.getElem?_map, Option.map_eq_some_iff] at hfield
  obtain ⟨value, -, hvalue⟩ := hfield
  cases hvalue

theorem blockAgrees_octets_iff {a : Address} {bits : Nat} (hbits : bits ≤ 32) (x : Address) :
    BlockAgrees bits (a.map .octet) x ↔ x.SharesBits bits a := by
  obtain ⟨r, hr⟩ := AddressRange.exists_block a hbits
  have haddresses := addresses_octets a bits
  rw [hr] at haddresses
  rw [blockAgrees_iff_contains haddresses, AddressRange.contains_block_iff hr]
  rfl

/-- The matcher of the network of an address. -/
theorem exists_compile_network (a : Address) {bits : Nat} (hbits : bits ≤ 32) :
    ∃ p m, (block (a.map .octet) bits).pattern = .ok p ∧ Matcher.compile .ascii p = .ok m ∧
      ∀ input : String, m.accepts input = true ↔
        ∃ x : Address, input = x.text ∧ x.SharesBits bits a := by
  have hclosed := dotSeparated_closed (blockFragments_closed (a.map .octet) bits)
  obtain ⟨m, hcompile, haccepts⟩ := exists_compile hclosed.1
  refine ⟨_, m, rfl, hcompile, ?_⟩
  intro input
  rw [haccepts, mem_lang_blockFragments_iff]
  apply exists_congr
  intro x
  rw [blockAgrees_octets_iff hbits, Address.text, ← String.toList_inj, String.toList_ofList]

theorem pattern_congr {a b : Address} {bits : Nat} (hbits : bits ≤ 32) (h : a.SharesBits bits b) :
    (block (a.map .octet) bits).pattern = (block (b.map .octet) bits).pattern := by
  have hfragments := blockFragments_congr ((blockAgrees_octets_iff hbits a).mpr h)
  rw [pattern, pattern, fragment_block, fragment_block, hfragments]

/-- **Networks.** Two addresses with the same number of bits behind them have one pattern if they
share these bits, and otherwise no text is accepted by both matchers. The pattern of a quad of less
than four fields, wildcards among them or not, is that of the quad with a zero behind it. -/
theorem networks_partition {bits : Nat} (hbits : 1 ≤ bits ∧ bits ≤ 32) :
    (∀ a b : Address, ∃ p m q k,
      (read (a.text ++ "/" ++ toString bits)).bind pattern = .ok p ∧
        Matcher.compile .ascii p = .ok m ∧
        (read (b.text ++ "/" ++ toString bits)).bind pattern = .ok q ∧
        Matcher.compile .ascii q = .ok k ∧
        (a.SharesBits bits b → p = q) ∧
        (¬ a.SharesBits bits b →
          ∀ input : String, ¬ (m.accepts input = true ∧ k.accepts input = true))) ∧
      ∀ (quad : String) (fields : List Field), IsQuad quad.toList fields → fields.length < 4 →
        ∃ p, (read (quad ++ "/" ++ toString bits)).bind pattern = .ok p ∧
          (read (quad ++ ".0" ++ "/" ++ toString bits)).bind pattern = .ok p := by
  refine ⟨?_, ?_⟩
  · intro a b
    obtain ⟨p, m, hp, hm, haccepts⟩ := exists_compile_network a hbits.2
    obtain ⟨q, k, hq, hk, hkaccepts⟩ := exists_compile_network b hbits.2
    rw [read_address_bits a hbits, read_address_bits b hbits]
    refine ⟨p, m, q, k, hp, hm, hq, hk, ?_, ?_⟩
    · intro hshares
      rw [pattern_congr hbits.2 hshares, hq] at hp
      exact (Except.ok.inj hp).symm
    · intro hapart input hboth
      obtain ⟨x, rfl, hxa⟩ := (haccepts input).mp hboth.1
      obtain ⟨y, hxy, hyb⟩ := (hkaccepts x.text).mp hboth.2
      obtain rfl := Address.text_injective hxy
      exact hapart (hxa.symm.trans hyb)
  · intro quad fields hquad hlength
    rw [read_zero_bits hquad hlength hbits, read_quad_bits hquad hbits]
    exact ⟨_, rfl, rfl⟩

/-- The third octet is cut after four bits: 47 and 32 agree up to there, and 48 does not. -/
theorem networks_partition_cut :
    (∃ p, (read "10.1.47.9/20").bind pattern = .ok p ∧
        (read "10.1.32.1/20").bind pattern = .ok p) ∧
      (∃ p m q k, (read "10.1.47.9/20").bind pattern = .ok p ∧ Matcher.compile .ascii p = .ok m ∧
        (read "10.1.48.0/20").bind pattern = .ok q ∧ Matcher.compile .ascii q = .ok k ∧
        ∀ input : String, ¬ (m.accepts input = true ∧ k.accepts input = true)) ∧
      ∃ p, (read "*.18/20").bind pattern = .ok p ∧ (read "*.18.0/20").bind pattern = .ok p := by
  have h47 : Address.text ⟨10, 1, 47, 9⟩ ++ "/" ++ toString 20 = "10.1.47.9/20" := by decide +kernel
  have h32 : Address.text ⟨10, 1, 32, 1⟩ ++ "/" ++ toString 20 = "10.1.32.1/20" := by decide +kernel
  have h48 : Address.text ⟨10, 1, 48, 0⟩ ++ "/" ++ toString 20 = "10.1.48.0/20" := by decide +kernel
  have hbits : 1 ≤ 20 ∧ 20 ≤ 32 := by decide
  obtain ⟨hpairs, hquads⟩ := networks_partition hbits
  obtain ⟨p, -, q, -, hp, -, hq, -, hshares, -⟩ := hpairs ⟨10, 1, 47, 9⟩ ⟨10, 1, 32, 1⟩
  obtain rfl := hshares (by decide)
  obtain ⟨r, m, s, k, hr, hm, hs, hk, -, hapart⟩ := hpairs ⟨10, 1, 47, 9⟩ ⟨10, 1, 48, 0⟩
  rw [h47] at hp hr
  rw [h32] at hq
  rw [h48] at hs
  have hstar : IsQuad "*.18".toList [.wildcard, .octet 18] := ⟨by decide, by decide, by decide⟩
  exact ⟨⟨p, hp, hq⟩, ⟨r, m, s, k, hr, hm, hs, hk, hapart (by decide)⟩,
    hquads "*.18" _ hstar (by decide)⟩

end Token

end IntervalRegex
