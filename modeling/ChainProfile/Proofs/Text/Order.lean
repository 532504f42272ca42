import Mathlib.Data.String.Basic
import ChainProfile.Proofs.Text.Hex

/-! Numbers in the order of their texts. The characters of the sixteen digits stand in the order of the
digits, so of two texts of one length the first place where they differ decides about the texts and
about the numbers alike, in each base up to sixteen. -/

namespace ChainProfile.Text

open Hex (numberIn numberIn_cons place_digitChar)

variable {base : Nat} {cs ds : List Char}

def DigitsOf (base : Nat) (cs : List Char) : Prop := ∀ c ∈ cs, ∃ n < base, c = n.digitChar

theorem digitChar_lt_iff : ∀ n < 16, ∀ m < 16, n.digitChar < m.digitChar ↔ n < m := by decide

theorem digitChar_inj : ∀ n < 16, ∀ m < 16, n.digitChar = m.digitChar ↔ n = m := by decide

theorem numberIn_lt (several : 1 < base) (within : base ≤ 16) (digits : DigitsOf base cs) :
    numberIn base cs < base ^ cs.length := by
  have small : ∀ n ∈ cs.reverse.map Hex.place, n < base := by
    simp only [List.forall_mem_map, List.mem_reverse]
    intro c member
    obtain ⟨n, below, rfl⟩ := digits c member
    rwa [place_digitChar n (by omega)]
  have bound := Nat.ofDigits_lt_base_pow_length several small
  rwa [List.length_map, List.length_reverse] at bound

theorem mul_add_lt_mul_add_iff {unit n m x y : Nat} (left : x < unit) (right : y < unit) :
    unit * n + x < unit * m + y ↔ n < m ∨ n = m ∧ x < y := by
  obtain below | rfl | above := Nat.lt_trichotomy n m
  · have carried : unit * (n + 1) ≤ unit * m := Nat.mul_le_mul_left unit below
    rw [Nat.mul_succ] at carried
    omega
  · omega
  · have carried : unit * (m + 1) ≤ unit * n := Nat.mul_le_mul_left unit above
    rw [Nat.mul_succ] at carried
    omega

theorem lt_iff_numberIn_lt (several : 1 < base) (within : base ≤ 16)
    (same : cs.length = ds.length) (left : DigitsOf base cs) (right : DigitsOf base ds) :
    cs < ds ↔ numberIn base cs < numberIn base ds := by
  induction cs generalizing ds with
  | nil =>
    rw [List.length_eq_zero_iff.mp same.symm]
    simp
  | cons c cs ih =>
    cases ds with
    | nil => cases same
    | cons d ds =>
      obtain ⟨⟨n, small, rfl⟩, lower⟩ := List.forall_mem_cons.mp left
      obtain ⟨⟨m, little, rfl⟩, upper⟩ := List.forall_mem_cons.mp right
      have same : cs.length = ds.length := Nat.succ.inj same
      have bound := numberIn_lt several within lower
      have limit := numberIn_lt several within upper
      rw [← same] at limit
      rw [List.cons_lt_cons_iff, digitChar_lt_iff n (by omega) m (by omega),
        digitChar_inj n (by omega) m (by omega), ih same lower upper, numberIn_cons, numberIn_cons,
        ← same, place_digitChar n (by omega), place_digitChar m (by omega),
        mul_add_lt_mul_add_iff bound limit]

end ChainProfile.Text
