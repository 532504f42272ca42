import ChainProfile.Merkle

/-! Merkle roots with any digest in place of the double one. A layer digests the strings of `pairs`
one by one, so all strings that a root depends on can be listed. -/

namespace ChainProfile.Merkle

def pairs : List Hash256 → List Bytes
  | [] => []
  | [h] => [h.bytes ++ h.bytes]
  | a :: b :: rest => (a.bytes ++ b.bytes) :: pairs rest

theorem length_pairs : (hs : List Hash256) → (pairs hs).length = (hs.length + 1) / 2
  | [] => rfl
  | [_] => by simp [pairs]
  | a :: b :: rest => by
    rw [pairs, List.length_cons, length_pairs rest, List.length_cons, List.length_cons]
    omega

variable (digest : Bytes → Hash256)

def rootWith : List Hash256 → Hash256
  | [] => .zero
  | [h] => h
  | a :: b :: rest => rootWith ((pairs (a :: b :: rest)).map digest)
termination_by hs => hs.length
decreasing_by
  rw [List.length_map, length_pairs]
  simp only [List.length_cons]
  omega

/-- The strings that are digested for the root, layer by layer. -/
def inputs : List Hash256 → List Bytes
  | [] => []
  | [_] => []
  | a :: b :: rest =>
    pairs (a :: b :: rest) ++ inputs ((pairs (a :: b :: rest)).map digest)
termination_by hs => hs.length
decreasing_by
  rw [List.length_map, length_pairs]
  simp only [List.length_cons]
  omega

theorem rootWith_layer (a b : Hash256) (rest : List Hash256) :
    rootWith digest (a :: b :: rest) = rootWith digest ((pairs (a :: b :: rest)).map digest) := by
  rw [rootWith]

theorem inputs_layer (a b : Hash256) (rest : List Hash256) :
    inputs digest (a :: b :: rest) = pairs (a :: b :: rest) ++
      inputs digest ((pairs (a :: b :: rest)).map digest) := by
  rw [inputs]

theorem pairUp_eq_map : (hs : List Hash256) → pairUp hs = (pairs hs).map Sha256.double
  | [] => rfl
  | [_] => rfl
  | a :: b :: rest => by
    rw [pairUp, pairs, List.map_cons, pairUp_eq_map rest]
    rfl

theorem root_eq_rootWith (hs : List Hash256) : root hs = rootWith Sha256.double hs := by
  induction hs using root.induct with
  | case1 => rw [root, rootWith]
  | case2 h => rw [root, rootWith]
  | case3 a b rest ih => rw [root, rootWith, ih, pairUp_eq_map]

end ChainProfile.Merkle
