import Mathlib.Algebra.Group.Nat.Defs
import Mathlib.Data.Nat.Find
import Mathlib.Logic.Function.Iterate
import Mathlib.Order.Bounds.Basic
import ChainProfile.Proofs.Merkle.Layers

/-! Merkle roots from the top down. A list that fits half of its tree hashes that half with itself,
any other splits at the power of two, and the layers built from the bottom up give the same root:
what an odd layer repeats is one hash below and a whole half above. One layer is one level of the
tree, at every length, and the layers end after as many steps as the tree is deep. -/

namespace ChainProfile.Merkle

variable (digest : Bytes → Hash256)

def combineWith (left right : Hash256) : Hash256 := digest (left.bytes ++ right.bytes)

/-- The root of the tree of that depth over a list that fits it. -/
def topDown : (depth : Nat) → List Hash256 → Hash256
  | 0, hs => hs.headD .zero
  | depth + 1, hs =>
    if hs.length ≤ 2 ^ depth then combineWith digest (topDown depth hs) (topDown depth hs)
    else combineWith digest (topDown depth (hs.take (2 ^ depth))) (topDown depth (hs.drop (2 ^ depth)))

def layer (hs : List Hash256) : List Hash256 := (pairs hs).map digest

theorem pairUp_eq_layer : pairUp = layer Sha256.double := by
  funext hs
  exact pairUp_eq_map hs

theorem layer_pair (a b : Hash256) (hs : List Hash256) :
    layer digest (a :: b :: hs) = combineWith digest a b :: layer digest hs := rfl

theorem length_layer (hs : List Hash256) :
    (layer digest hs).length = (hs.length + 1) / 2 := by
  rw [layer, List.length_map, length_pairs]

variable {digest}

theorem length_layer_le_pow {hs : List Hash256} {k : Nat} :
    (layer digest hs).length ≤ 2 ^ k ↔ hs.length ≤ 2 ^ (k + 1) := by
  rw [length_layer, Nat.pow_succ]
  omega

theorem layer_append {front : List Hash256} {n : Nat} (even : front.length = 2 * n)
    (back : List Hash256) : layer digest (front ++ back) = layer digest front ++ layer digest back := by
  induction n generalizing front with
  | zero =>
    obtain rfl := List.length_eq_zero_iff.mp even
    rfl
  | succ n ih =>
    obtain ⟨a, tail, rfl⟩ := List.exists_cons_of_length_eq_add_one even
    obtain ⟨b, front, rfl⟩ := List.exists_cons_of_length_eq_add_one (Nat.succ.inj even)
    have shorter : front.length = 2 * n := by simpa [Nat.mul_succ] using even
    rw [List.cons_append, List.cons_append, layer_pair, layer_pair, ih shorter, List.cons_append]

theorem layer_ne_nil {hs : List Hash256} (some : hs ≠ []) : layer digest hs ≠ [] := by
  have positive := List.length_pos_iff.mpr some
  rw [← List.length_pos_iff, length_layer]
  omega

theorem topDown_of_fits {depth : Nat} {hs : List Hash256} (fits : hs.length ≤ 2 ^ depth) :
    topDown digest (depth + 1) hs =
      combineWith digest (topDown digest depth hs) (topDown digest depth hs) := by
  rw [topDown, if_pos fits]

theorem topDown_append {depth : Nat} {front back : List Hash256} (full : front.length = 2 ^ depth)
    (some : back ≠ []) :
    topDown digest (depth + 1) (front ++ back) =
      combineWith digest (topDown digest depth front) (topDown digest depth back) := by
  have positive := List.length_pos_iff.mpr some
  have longer : ¬ (front ++ back).length ≤ 2 ^ depth := by
    rw [List.length_append]
    omega
  rw [topDown, if_neg longer, List.take_left' full, List.drop_left' full]

theorem exists_halves {depth : Nat} {hs : List Hash256} (longer : ¬ hs.length ≤ 2 ^ depth)
    (fits : hs.length ≤ 2 ^ (depth + 1)) :
    ∃ front back, hs = front ++ back ∧ front.length = 2 ^ depth ∧ back ≠ [] ∧
      back.length ≤ 2 ^ depth := by
  have double := Nat.pow_succ 2 depth
  have rest : (hs.drop (2 ^ depth)).length = hs.length - 2 ^ depth := List.length_drop
  refine ⟨hs.take (2 ^ depth), hs.drop (2 ^ depth), (List.take_append_drop _ hs).symm, ?_, ?_, ?_⟩
  · exact List.length_take_of_le (Nat.le_of_not_le longer)
  · rw [← List.length_pos_iff]
    omega
  · omega

theorem topDown_succ {depth : Nat} {hs : List Hash256} (some : hs ≠ [])
    (fits : hs.length ≤ 2 ^ (depth + 1)) :
    topDown digest (depth + 1) hs = topDown digest depth (layer digest hs) := by
  induction depth generalizing hs with
  | zero =>
    match hs, some, fits with
    | [_], _, _ => rfl
    | [_, _], _, _ => rfl
  | succ depth ih =>
    by_cases half : hs.length ≤ 2 ^ (depth + 1)
    · rw [topDown_of_fits half, topDown_of_fits (length_layer_le_pow.mpr half), ih some half]
    · -- The cut falls between two pairs, so it is a cut of the layer as well.
      obtain ⟨front, back, rfl, full, right, short⟩ := exists_halves half fits
      have left : front ≠ [] := by
        rw [← List.length_pos_iff, full]
        exact Nat.two_pow_pos _
      have even : front.length = 2 * 2 ^ depth := full.trans (Nat.pow_succ' ..)
      have above : (layer digest front).length = 2 ^ depth := by
        rw [length_layer]
        omega
      rw [topDown_append full right, layer_append even, topDown_append above (layer_ne_nil right),
        ih left (Nat.le_of_eq full), ih right short]

theorem iterate_layer {depth : Nat} {hs : List Hash256} (some : hs ≠ [])
    (fits : hs.length ≤ 2 ^ depth) : (layer digest)^[depth] hs = [topDown digest depth hs] := by
  induction depth generalizing hs with
  | zero =>
    match hs, some, fits with
    | [_], _, _ => rfl
  | succ depth ih =>
    rw [Function.iterate_succ_apply, topDown_succ some fits,
      ih (layer_ne_nil some) (length_layer_le_pow.mpr fits)]

theorem length_iterate_layer_le {hs : List Hash256} (k : Nat) :
    ((layer digest)^[k] hs).length ≤ 1 ↔ hs.length ≤ 2 ^ k := by
  induction k generalizing hs with
  | zero => rfl
  | succ k ih => rw [Function.iterate_succ_apply, ih, length_layer_le_pow]

theorem rootWith_of_several {hs : List Hash256} (several : 1 < hs.length) :
    rootWith digest hs = rootWith digest (layer digest hs) := by
  match hs, several with
  | a :: b :: rest, _ => exact rootWith_layer digest a b rest

theorem rootWith_iterate_layer {hs : List Hash256} (k : Nat)
    (several : ∀ j < k, 1 < ((layer digest)^[j] hs).length) :
    rootWith digest ((layer digest)^[k] hs) = rootWith digest hs := by
  induction k generalizing hs with
  | zero => rfl
  | succ k ih =>
    rw [Function.iterate_succ_apply, ih fun j below => several (j + 1) (Nat.succ_lt_succ below)]
    exact (rootWith_of_several (several 0 (Nat.succ_pos k))).symm

theorem exists_least_depth (n : Nat) : ∃ depth, IsLeast {k | n ≤ 2 ^ k} depth := by
  have some : ∃ k, n ≤ 2 ^ k := ⟨n, Nat.le_of_lt Nat.lt_two_pow_self⟩
  exact ⟨Nat.find some, Nat.find_spec some, fun _ fits => Nat.find_min' some fits⟩

/-- The layers end after as many steps as the tree is deep, with the root of the tree. -/
theorem rootWith_eq_topDown (digest : Bytes → Hash256) (hs : List Hash256) :
    root = rootWith Sha256.double ∧ pairUp = layer Sha256.double ∧
      ∃ depth, IsLeast {k | hs.length ≤ 2 ^ k} depth ∧
        IsLeast {k | ((layer digest)^[k] hs).length ≤ 1} depth ∧
        (hs ≠ [] → (layer digest)^[depth] hs = [rootWith digest hs] ∧
          rootWith digest hs = topDown digest depth hs) := by
  obtain ⟨depth, fits, least⟩ := exists_least_depth hs.length
  have ends : IsLeast {k | ((layer digest)^[k] hs).length ≤ 1} depth :=
    ⟨(length_iterate_layer_le depth).mpr fits,
      fun k short => least ((length_iterate_layer_le k).mp short)⟩
  refine ⟨funext root_eq_rootWith, pairUp_eq_layer, depth, ⟨fits, least⟩, ends, ?_⟩
  intro some
  have several : ∀ j < depth, 1 < ((layer digest)^[j] hs).length := fun j below =>
    Nat.lt_of_not_le fun short => Nat.not_le_of_lt below (ends.2 short)
  have last : (layer digest)^[depth] hs = [topDown digest depth hs] := iterate_layer some fits
  have same := rootWith_iterate_layer depth several
  rw [last, rootWith] at same
  exact ⟨by rw [last, same], same.symm⟩

theorem rootWith_eq_topDown_five :
    let h : Nat → Hash256 := .ofNat
    let pair := combine (h 5) (h 5)
    [h 1, h 2, h 3, h 4, h 5] ≠ [] ∧ root [h 1, h 2, h 3, h 4, h 5] =
      combine (combine (combine (h 1) (h 2)) (combine (h 3) (h 4))) (combine pair pair) := by
  intro h pair
  obtain ⟨rooted, _, depth, least, _, tree⟩ :=
    rootWith_eq_topDown Sha256.double [h 1, h 2, h 3, h 4, h 5]
  have three : IsLeast {k | [h 1, h 2, h 3, h 4, h 5].length ≤ 2 ^ k} 3 := by
    have enough : 5 ≤ 2 ^ 3 := by decide
    refine ⟨enough, fun k fits => ?_⟩
    by_contra below
    have bound : 2 ^ k ≤ 2 ^ 2 := Nat.pow_le_pow_right (by decide) (by omega)
    exact absurd (Nat.le_trans fits bound) (by simp)
  obtain rfl := least.unique three
  have some : [h 1, h 2, h 3, h 4, h 5] ≠ [] := List.cons_ne_nil _ _
  have shape : ∀ digest (a b c d e : Hash256), topDown digest 3 [a, b, c, d, e] =
      combineWith digest (combineWith digest (combineWith digest a b) (combineWith digest c d))
        (combineWith digest (combineWith digest e e) (combineWith digest e e)) :=
    fun _ _ _ _ _ _ => rfl
  refine ⟨some, ?_⟩
  rw [rooted, (tree some).2, shape]
  rfl

end ChainProfile.Merkle
