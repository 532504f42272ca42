import Mathlib.Algebra.Ring.Parity
import Mathlib.Data.List.DropRight
import ChainProfile.Block
import ChainProfile.Proofs.Merkle.Tree

/-! Merkle roots that do not tell two lengths apart. A list that repeats its last `2 ^ k` hashes has
the layers of the shorter list, each with a tail repeated that halves from layer to layer. Where the
shorter layer has an odd number of hashes the tail is its last hash, which is paired with itself
there and with its copy here, and from the next layer on the two are the same. -/

namespace ChainProfile.Merkle

variable {digest : Bytes → Hash256}

theorem iterate_layer_repeated {front tail : List Hash256} {k n : Nat}
    (even : front.length = 2 * n * 2 ^ k) (full : tail.length = 2 ^ k) :
    (layer digest)^[k + 1] (front ++ tail ++ tail) = (layer digest)^[k + 1] (front ++ tail) := by
  induction k generalizing front tail with
  | zero =>
    obtain ⟨h, rfl⟩ := List.length_eq_one_iff.mp full
    rw [Nat.pow_zero, Nat.mul_one] at even
    have pair : layer digest [h, h] = layer digest [h] := rfl
    rw [Function.iterate_one, List.append_assoc, layer_append even, layer_append even]
    exact congrArg (layer digest front ++ ·) pair
  | succ k ih =>
    have cut : front.length = 2 * (2 * n * 2 ^ k) := by
      rw [even, Nat.pow_succ']
      exact Nat.mul_left_comm ..
    have half : tail.length = 2 * 2 ^ k := full.trans (Nat.pow_succ' ..)
    have frontAbove : (layer digest front).length = 2 * n * 2 ^ k := by
      rw [length_layer]
      omega
    have tailAbove : (layer digest tail).length = 2 ^ k := by
      rw [length_layer]
      omega
    rw [Function.iterate_succ_apply _ (k + 1), Function.iterate_succ_apply _ (k + 1), List.append_assoc,
      layer_append cut, layer_append cut, layer_append half, ← List.append_assoc]
    exact ih frontAbove tailAbove

theorem one_lt_length_iterate_layer {hs : List Hash256} {j k : Nat} (below : j < k + 1)
    (longer : 2 ^ k < hs.length) : 1 < ((layer digest)^[j] hs).length := by
  refine Nat.lt_of_not_le fun short => ?_
  have fits := (length_iterate_layer_le j).mp short
  have power : 2 ^ j ≤ 2 ^ k := Nat.pow_le_pow_right Nat.two_pos (Nat.le_of_lt_succ below)
  omega

theorem rootWith_repeated {front tail : List Hash256} {k n : Nat} (some : 0 < n)
    (even : front.length = 2 * n * 2 ^ k) (full : tail.length = 2 ^ k) :
    rootWith digest (front ++ tail ++ tail) = rootWith digest (front ++ tail) := by
  have positive : 0 < 2 ^ k := Nat.two_pow_pos k
  have longer : 2 ^ k < (front ++ tail).length := by
    have block : 2 ^ k ≤ front.length := even ▸ Nat.le_mul_of_pos_left _ (by omega)
    rw [List.length_append]
    omega
  have longest : 2 ^ k < (front ++ tail ++ tail).length := by
    rw [List.length_append]
    omega
  rw [← rootWith_iterate_layer (k + 1) fun _ below => one_lt_length_iterate_layer below longest,
    iterate_layer_repeated even full,
    rootWith_iterate_layer (k + 1) fun _ below => one_lt_length_iterate_layer below longer]

theorem rootWith_append_rtake {hs : List Hash256} {k n : Nat} (some : 0 < n)
    (length : hs.length = (2 * n + 1) * 2 ^ k) :
    rootWith digest (hs ++ hs.rtake (2 ^ k)) = rootWith digest hs := by
  rw [Nat.succ_mul] at length
  have part : 2 ^ k ≤ hs.length := length ▸ Nat.le_add_left _ _
  have rest : hs.length - 2 ^ k = 2 * n * 2 ^ k := by rw [length, Nat.add_sub_cancel]
  have front : (hs.take (2 * n * 2 ^ k)).length = 2 * n * 2 ^ k :=
    List.length_take_of_le (rest ▸ Nat.sub_le _ _)
  have tail : (hs.rtake (2 ^ k)).length = 2 ^ k := by
    rw [List.rtake, List.length_drop, Nat.sub_sub_self part]
  have whole : hs.take (2 * n * 2 ^ k) ++ hs.rtake (2 ^ k) = hs := by
    rw [List.rtake, rest, List.take_append_drop]
  have same : rootWith digest (hs.take (2 * n * 2 ^ k) ++ hs.rtake (2 ^ k) ++ hs.rtake (2 ^ k)) = _ :=
    rootWith_repeated some front tail
  rwa [whole] at same

/-- An odd number of equal parts, more than one, has the root of the list with its last part twice. -/
theorem root_append_rtake {k m : Nat} (odd : Odd m) (several : 3 ≤ m) :
    (∀ hs : List Hash256, hs.length = m * 2 ^ k → root (hs ++ hs.rtake (2 ^ k)) = root hs) ∧
      ∀ b : Block, b.transactions.length = m * 2 ^ k →
        { b with transactions := b.transactions ++ b.transactions.rtake (2 ^ k) }.merkleRoot =
          b.merkleRoot := by
  obtain ⟨n, rfl⟩ := odd
  have repeated (hs : List Hash256) (length : hs.length = (2 * n + 1) * 2 ^ k) :
      root (hs ++ hs.rtake (2 ^ k)) = root hs := by
    rw [root_eq_rootWith, root_eq_rootWith, rootWith_append_rtake (by omega) length]
  refine ⟨repeated, ?_⟩
  intro b length
  have ids := repeated (b.transactions.map Transaction.id) (by rw [List.length_map, length])
  rwa [List.rtake, List.length_map, ← List.map_drop, ← List.map_append] at ids

theorem root_append_rtake_pairs :
    let h : Nat → Hash256 := .ofNat
    let pays : Int64 → Transaction := fun value => .coinbase [] [⟨value, []⟩]
    let b : Block := ⟨⟨1, .zero, .zero, 0, 0, 0⟩, [pays 1, pays 2, pays 3, pays 4, pays 5, pays 6]⟩
    Odd 3 ∧ 3 ≤ 3 ∧ [h 1, h 2, h 3, h 4, h 5, h 6].length = 3 * 2 ^ 1 ∧
      root [h 1, h 2, h 3, h 4, h 5, h 6, h 5, h 6] = root [h 1, h 2, h 3, h 4, h 5, h 6] ∧
      b.transactions.length = 3 * 2 ^ 1 ∧
      { b with transactions := b.transactions ++ [pays 5, pays 6] }.merkleRoot = b.merkleRoot := by
  intro h pays b
  have odd : Odd 3 := ⟨1, rfl⟩
  have repeated := root_append_rtake (k := 1) odd (Nat.le_refl 3)
  exact ⟨odd, Nat.le_refl 3, rfl, repeated.1 [h 1, h 2, h 3, h 4, h 5, h 6] rfl, rfl,
    repeated.2 b rfl⟩

end ChainProfile.Merkle
