import ChainProfile.Proofs.Merkle.Layers

/-! What a Merkle root binds. Two lists of one length with the same root are the same list, unless
among the strings digested for the two roots there are different ones with one digest. Nothing is
assumed of the digest, and the strings that collide are named: for most digests some collide. -/

namespace ChainProfile

variable {digest : Bytes → Hash256}

/-- Different strings, one of each list, have the same digest. -/
def Collides (digest : Bytes → Hash256) (xs ys : List Bytes) : Prop :=
  ∃ x ∈ xs, ∃ y ∈ ys, x ≠ y ∧ digest x = digest y

theorem Collides.mono {xs ys xs' ys' : List Bytes} (collides : Collides digest xs ys)
    (left : xs ⊆ xs') (right : ys ⊆ ys') : Collides digest xs' ys' := by
  obtain ⟨x, hx, y, hy, different⟩ := collides
  exact ⟨x, left hx, y, right hy, different⟩

theorem eq_or_collides {xs ys : List Bytes} (same : xs.map digest = ys.map digest) :
    xs = ys ∨ Collides digest xs ys := by
  induction xs generalizing ys with
  | nil => exact .inl (List.map_eq_nil_iff.mp same.symm).symm
  | cons x xs ih =>
    cases ys with
    | nil => cases same
    | cons y ys =>
      obtain ⟨first, rest⟩ := List.cons.inj same
      by_cases equal : x = y
      · obtain tails | collides := ih rest
        · exact .inl (by rw [equal, tails])
        · exact .inr (collides.mono (List.subset_cons_self _ _) (List.subset_cons_self _ _))
      · exact .inr ⟨x, List.mem_cons_self, y, List.mem_cons_self, equal, first⟩

namespace Merkle

theorem pairs_inj : {hs ks : List Hash256} → hs.length = ks.length → pairs hs = pairs ks → hs = ks
  | [], [], _, _ => rfl
  | [h], [k], _, same => by
    have halves := List.append_inj (List.cons.inj same).1 (h.length_bytes.trans k.length_bytes.symm)
    rw [Hash256.ext halves.1]
  | a :: b :: hs, c :: d :: ks, length, same => by
    obtain ⟨first, rest⟩ := List.cons.inj same
    have halves := List.append_inj first (a.length_bytes.trans c.length_bytes.symm)
    have tails := pairs_inj (Nat.succ.inj (Nat.succ.inj length)) rest
    rw [Hash256.ext halves.1, Hash256.ext halves.2, tails]

theorem eq_or_collides_of_rootWith {hs ks : List Hash256} (length : hs.length = ks.length)
    (same : rootWith digest hs = rootWith digest ks) :
    hs = ks ∨ Collides digest (inputs digest hs) (inputs digest ks) := by
  induction hs using rootWith.induct digest generalizing ks with
  | case1 => exact .inl (List.length_eq_zero_iff.mp length.symm).symm
  | case2 h =>
    obtain ⟨k, rfl⟩ := List.length_eq_one_iff.mp length.symm
    rw [rootWith, rootWith] at same
    exact .inl (by rw [same])
  | case3 a b rest ih =>
    obtain ⟨c, d, rest', rfl⟩ : ∃ c d rest', ks = c :: d :: rest' := by
      obtain ⟨c, tail, rfl⟩ := List.exists_cons_of_length_eq_add_one length.symm
      have shorter := Nat.succ.inj length.symm
      obtain ⟨d, rest', rfl⟩ := List.exists_cons_of_length_eq_add_one shorter
      exact ⟨c, d, rest', rfl⟩
    rw [rootWith_layer, rootWith_layer] at same
    rw [inputs_layer, inputs_layer]
    have above := @ih ((pairs (c :: d :: rest')).map digest) ?_ same
    · obtain agree | collides := above
      · obtain equal | collides := eq_or_collides agree
        · exact .inl (pairs_inj length equal)
        · exact .inr (collides.mono (List.subset_append_left _ _) (List.subset_append_left _ _))
      · exact .inr (collides.mono (List.subset_append_right _ _) (List.subset_append_right _ _))
    · rw [List.length_map, List.length_map, length_pairs, length_pairs, length]

theorem length_of_mem_pairs {x : Bytes} : {hs : List Hash256} → x ∈ pairs hs → x.length = 64
  | [h], member => by
    obtain rfl := List.mem_singleton.mp member
    rw [List.length_append, h.length_bytes]
  | a :: b :: rest, member => by
    obtain rfl | later := List.mem_cons.mp member
    · rw [List.length_append, a.length_bytes, b.length_bytes]
    · exact length_of_mem_pairs later

theorem length_of_mem_inputs {x : Bytes} {hs : List Hash256} (member : x ∈ inputs digest hs) :
    x.length = 64 := by
  induction hs using inputs.induct digest with
  | case1 => simp [inputs] at member
  | case2 h => simp [inputs] at member
  | case3 a b rest ih =>
    rw [inputs_layer] at member
    obtain first | later := List.mem_append.mp member
    · exact length_of_mem_pairs first
    · exact ih later

/-- Lists of one length with one root are equal, or strings of 64 bytes collide that were digested
for the two. -/
theorem rootWith_binds {hs ks : List Hash256} (length : hs.length = ks.length)
    (same : rootWith digest hs = rootWith digest ks) :
    root = rootWith Sha256.double ∧
      (hs = ks ∨ ∃ x ∈ inputs digest hs, ∃ y ∈ inputs digest ks,
        x.length = 64 ∧ y.length = 64 ∧ x ≠ y ∧ digest x = digest y) := by
  refine ⟨funext root_eq_rootWith, ?_⟩
  obtain equal | collides := eq_or_collides_of_rootWith length same
  · exact .inl equal
  · obtain ⟨x, left, y, right, different, digests⟩ := collides
    exact .inr ⟨x, left, y, right, length_of_mem_inputs left, length_of_mem_inputs right, different,
      digests⟩

theorem rootWith_binds_zero :
    let zero : Bytes → Hash256 := fun _ => .zero
    let hs : List Hash256 := [.ofNat 1, .ofNat 2, .ofNat 3]
    let ks : List Hash256 := [.ofNat 1, .ofNat 2, .ofNat 4]
    hs.length = ks.length ∧ rootWith zero hs = rootWith zero ks ∧
      ∃ x ∈ inputs zero hs, ∃ y ∈ inputs zero ks,
        x.length = 64 ∧ y.length = 64 ∧ x ≠ y ∧ zero x = zero y := by
  intro zero hs ks
  have length : hs.length = ks.length := rfl
  have same : rootWith zero hs = rootWith zero ks := by simp [hs, ks, rootWith, pairs, zero]
  have different : hs ≠ ks := by decide
  exact ⟨length, same, (rootWith_binds length same).2.resolve_left different⟩

end Merkle

end ChainProfile
