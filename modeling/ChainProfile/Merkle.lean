import ChainProfile.Sha256

/-! Merkle roots by layers. Neighbours are hashed together until one hash is left; the last hash of
an odd layer is paired with itself, and the empty list has the zero hash. -/

namespace ChainProfile.Merkle

def combine (left right : Hash256) : Hash256 := Sha256.double (left.bytes ++ right.bytes)

def pairUp : List Hash256 → List Hash256
  | [] => []
  | [h] => [combine h h]
  | a :: b :: rest => combine a b :: pairUp rest

theorem length_pairUp : (hs : List Hash256) → (pairUp hs).length = (hs.length + 1) / 2
  | [] => rfl
  | [_] => by simp [pairUp]
  | a :: b :: rest => by
    rw [pairUp, List.length_cons, length_pairUp rest, List.length_cons, List.length_cons]
    omega

def root : List Hash256 → Hash256
  | [] => .zero
  | [h] => h
  | a :: b :: rest => root (pairUp (a :: b :: rest))
termination_by hs => hs.length
decreasing_by
  rw [length_pairUp]
  simp only [List.length_cons]
  omega

@[simp] theorem root_nil : root [] = .zero := by rw [root]

@[simp] theorem root_singleton (h : Hash256) : root [h] = h := by rw [root]

theorem root_pair (a b : Hash256) : root [a, b] = combine a b := by
  rw [root, pairUp, pairUp, root]

end ChainProfile.Merkle
