import KeaGauge.Net.Cidr
import Mathlib.Data.Nat.Bitwise
import Mathlib.Tactic.Common
/-!
# The addresses of a network

The network of a prefix has the addresses that agree with its own on as many
leading bits as its length says (`Cidr.Covers`). The length says as well how
many bits are left, and two addresses have the same number without these just
when they agree on the others (`div_size_eq_iff`). So the addresses of the
network are those from its first to its last (`covers_iff_between`), whatever
the length, none of the bits and all of them included.
-/

namespace KeaGauge.Net

namespace Address

theorem value_ofNat (family : Family) (n : Nat) : (ofNat family n).value = n % 2 ^ family.width :=
  BitVec.toNat_ofNat _ _

/-- A bit of an address, the first being the most significant of its number. -/
theorem getMsbD_bits (a : Address) {i : Nat} (hi : i < a.family.width) :
    a.bits.getMsbD i = a.value.testBit (a.family.width - 1 - i) := by
  rw [BitVec.getMsbD_eq_getLsbD, decide_eq_true hi, Bool.true_and, value, BitVec.testBit_toNat]

end Address

namespace Cidr

variable {c : Cidr} {a : Address}

/-- **An address is one of the network** of a prefix: it is of its family, and
agrees with its address on the leading bits that the length counts. -/
structure Covers (c : Cidr) (a : Address) : Prop where
  family_eq : a.family = c.family
  leading : ∀ i < c.length, a.bits.getMsbD i = c.address.bits.getMsbD i

/-! ## The ends of a network -/

theorem size_eq (c : Cidr) : c.size = 2 ^ c.hostBits := rfl

/-- The addresses of the network from the first on are within those of the
family. -/
theorem first_add_size_le (c : Cidr) :
    c.address.value / c.size * c.size + c.size ≤ 2 ^ c.family.width := by
  have hsize : c.size * 2 ^ c.length = 2 ^ c.family.width := by
    have hlength : c.length ≤ c.family.width := c.length_le
    rw [size_eq, hostBits, ← pow_add, Nat.sub_add_cancel hlength]
  have hbelow : c.address.value / c.size < 2 ^ c.length := by
    refine Nat.div_lt_of_lt_mul ?_
    rw [hsize]
    exact c.address.bits.isLt
  calc c.address.value / c.size * c.size + c.size
      = (c.address.value / c.size + 1) * c.size := (Nat.succ_mul _ _).symm
    _ ≤ 2 ^ c.length * c.size := Nat.mul_le_mul_right _ hbelow
    _ = 2 ^ c.family.width := by rw [Nat.mul_comm, hsize]

theorem size_pos (c : Cidr) : 0 < c.size := Nat.two_pow_pos _

theorem value_first (c : Cidr) : c.first.value = c.address.value / c.size * c.size := by
  have hle := c.first_add_size_le
  have hpos := c.size_pos
  rw [first, Address.value_ofNat, Nat.mod_eq_of_lt (by omega)]

theorem value_last (c : Cidr) :
    c.last.value = c.address.value / c.size * c.size + (c.size - 1) := by
  have hle := c.first_add_size_le
  have hpos := c.size_pos
  rw [last, Address.value_ofNat, Nat.mod_eq_of_lt (by omega)]

/-- The numbers from the first to the last are those that are the same but for
the host bits. -/
theorem between_iff_div_size_eq {n : Nat} :
    c.first.value ≤ n ∧ n ≤ c.last.value ↔ n / c.size = c.address.value / c.size := by
  have hpos := c.size_pos
  rw [value_first, value_last, Nat.div_eq_iff hpos]
  omega

/-! ## Leading bits -/

/-- **Numbers without the host bits are the same** just when all the bits before
these agree. -/
theorem div_size_eq_iff (hfamily : a.family = c.family) :
    a.value / c.size = c.address.value / c.size ↔
      ∀ i < c.length, a.bits.getMsbD i = c.address.bits.getMsbD i := by
  have hwidth : a.family.width = c.address.family.width := congrArg Family.width hfamily
  have hsplit : c.hostBits + c.length = c.address.family.width := Nat.sub_add_cancel c.length_le
  have hbit : ∀ i < c.length, (a.bits.getMsbD i = c.address.bits.getMsbD i ↔
      a.value.testBit (c.address.family.width - 1 - i) =
        c.address.value.testBit (c.address.family.width - 1 - i)) := by
    intro i hi
    rw [a.getMsbD_bits (by omega), c.address.getMsbD_bits (by omega), hwidth]
  constructor
  · intro h i hi
    -- the bit stands above the host bits, so it is one of what is left without them
    have hplace : c.address.family.width - 1 - i = c.length - 1 - i + c.hostBits := by omega
    rw [hbit i hi, hplace, ← Nat.testBit_div_two_pow, ← Nat.testBit_div_two_pow, ← size_eq, h]
  · intro h
    refine Nat.eq_of_testBit_eq fun j => ?_
    rw [size_eq, Nat.testBit_div_two_pow, Nat.testBit_div_two_pow]
    by_cases hj : j < c.length
    · have hplace : j + c.hostBits = c.address.family.width - 1 - (c.length - 1 - j) := by omega
      rw [hplace]
      exact (hbit _ (by omega)).1 (h _ (by omega))
    · -- there are no bits so high
      have hnone : ∀ {b : Address}, b.family.width = c.address.family.width →
          b.value.testBit (j + c.hostBits) = false := by
        intro b hb
        refine Nat.testBit_lt_two_pow (b.bits.isLt.trans_le ?_)
        exact Nat.pow_le_pow_right (by decide) (by omega)
      rw [hnone hwidth, hnone rfl]

/-- **The addresses of a network are those between its ends.** -/
theorem covers_iff_between (hfamily : a.family = c.family) :
    c.Covers a ↔ c.first.value ≤ a.value ∧ a.value ≤ c.last.value := by
  rw [between_iff_div_size_eq, div_size_eq_iff hfamily]
  exact ⟨fun h => h.leading, fun h => ⟨hfamily, h⟩⟩

end Cidr

end KeaGauge.Net
