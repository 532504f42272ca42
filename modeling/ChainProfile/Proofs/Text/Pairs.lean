import Mathlib.Data.List.Infix
import ChainProfile.Proofs.Outcome
import ChainProfile.Proofs.Text.Hex

/-! What byte pairs are read as. A pair of two digits is a byte, and so is a plus sign before a digit,
since each pair is read as a number of its own. A pair is cut out of the encoded text, which has to be
whole at both ends of it: reading gets stuck at the first pair that ends inside a character, if each
pair before it is a byte. -/

namespace ChainProfile.Text.Hex

variable {c d : Char} {cs front rest : List Char}

inductive Paired : List Char → Prop
  | nil : Paired []
  | cons {c d : Char} {rest : List Char} (first : c.isHexDigit = true ∨ c = '+')
      (second : d.isHexDigit = true) (later : Paired rest) : Paired (c :: d :: rest)

def WholeAt (cs : List Char) (size : Nat) : Prop := ∃ front, front <+: cs ∧ utf8Length front = size

instance (cs : List Char) (size : Nat) : Decidable (WholeAt cs size) :=
  decidable_of_iff (∃ front ∈ cs.inits, utf8Length front = size) (by simp [WholeAt, List.mem_inits])

/-- Behind pairs that are bytes there is one that ends inside a character. -/
def CutsCharacter (cs : List Char) : Prop :=
  ∃ front rest, cs = front ++ rest ∧ Paired front ∧ rest ≠ [] ∧ ¬ WholeAt rest 2

def Unread (cs : List Char) : Prop := ∀ c d rest, cs = c :: d :: rest → octet? c d = none

theorem utf8Length_cons (c : Char) (cs : List Char) :
    utf8Length (c :: cs) = c.utf8Size + utf8Length cs := rfl

theorem wholeAt_two_iff :
    WholeAt (c :: rest) 2 ↔ c.utf8Size = 2 ∨ c.utf8Size = 1 ∧ ∃ d ∈ rest.head?, d.utf8Size = 1 := by
  constructor
  · rintro ⟨front, starts, size⟩
    cases front with
    | nil => cases size
    | cons x more =>
      obtain ⟨rfl, later⟩ := List.cons_prefix_cons.mp starts
      rw [utf8Length_cons] at size
      cases more with
      | nil => exact .inl size
      | cons y more =>
        obtain ⟨tail, rfl⟩ := later
        rw [utf8Length_cons] at size
        have one := x.utf8Size_pos
        have other := y.utf8Size_pos
        exact .inr ⟨by omega, y, rfl, by omega⟩
  · rintro (two | ⟨one, d, first, other⟩)
    · exact ⟨[c], List.cons_prefix_cons.mpr ⟨rfl, List.nil_prefix⟩, two⟩
    · obtain ⟨tail, rfl⟩ := List.head?_eq_some_iff.mp first
      refine ⟨[c, d], ⟨tail, rfl⟩, ?_⟩
      rw [utf8Length_cons, one, utf8Length_cons, other]
      rfl

theorem isHexDigit_of_digit? (found : digit? c ≠ none) : c.isHexDigit = true := by
  simp only [digit?, Char.le_def, UInt32.le_iff_toNat_le] at found
  simp only [Char.isHexDigit, Char.isDigit, UInt32.le_iff_toNat_le, ge_iff_le, Bool.or_eq_true,
    Bool.and_eq_true, decide_eq_true_eq]
  split_ifs at found with decimal lower upper
  · exact .inl (.inl decimal)
  · exact .inl (.inr lower)
  · exact .inr upper
  · exact absurd rfl found

theorem isSome_digit?_iff : (digit? c).isSome = true ↔ c.isHexDigit = true := by
  constructor
  · intro found
    exact isHexDigit_of_digit? (Option.isSome_iff_ne_none.mp found)
  · intro hex
    rw [digit?_of_isHexDigit c hex]
    rfl

theorem isSome_octet?_iff :
    (octet? c d).isSome = true ↔
      (c.isHexDigit = true ∨ c = '+') ∧ d.isHexDigit = true := by
  unfold octet?
  split
  case isTrue plus =>
    rw [Option.isSome_map, isSome_digit?_iff]
    simp [plus]
  case isFalse other =>
    simp only [other, or_false, ← isSome_digit?_iff]
    cases digit? c <;> cases digit? d <;> simp

theorem utf8Size_of_first (first : c.isHexDigit = true ∨ c = '+') : c.utf8Size = 1 := by
  obtain hex | rfl := first
  · exact utf8Size_of_isHexDigit c hex
  · rfl

theorem readPairs_cons_of_octet? {b : UInt8} (pair : octet? c d = some b) (rest : List Char) :
    readPairs (c :: d :: rest) = (readPairs rest).map (b :: ·) := by
  obtain ⟨first, second⟩ := isSome_octet?_iff.mp (Option.isSome_of_eq_some pair)
  simp [readPairs, utf8Size_of_first first, utf8Size_of_isHexDigit d second, pair]

theorem unread_singleton (c : Char) : Unread [c] := nofun

theorem unread_cons (none : octet? c d = .none) (rest : List Char) : Unread (c :: d :: rest) := by
  rintro _ _ _ ⟨⟩
  exact none

theorem readPairs_of_unread (present : cs ≠ []) (unread : Unread cs) :
    readPairs cs = .error (if WholeAt cs 2 then .notANumber else .cutsCharacter) := by
  match cs with
  | [c] => simp [readPairs, wholeAt_two_iff]
  | c :: d :: rest =>
    have none := unread c d rest rfl
    rw [readPairs]
    by_cases two : c.utf8Size = 2
    · rw [if_pos two, if_pos (wholeAt_two_iff.mpr (.inl two))]
    · rw [if_neg two]
      have ends : WholeAt (c :: d :: rest) 2 ↔ c.utf8Size = 1 ∧ d.utf8Size = 1 := by
        simp [wholeAt_two_iff, two]
      simp only [ends, none]
      split <;> rfl

theorem paired_or_unread (cs : List Char) :
    Paired cs ∨ ∃ front rest, cs = front ++ rest ∧ Paired front ∧ rest ≠ [] ∧ Unread rest := by
  induction cs using List.twoStepInduction with
  | nil => exact .inl .nil
  | singleton c => exact .inr ⟨[], [c], rfl, .nil, nofun, unread_singleton c⟩
  | cons_cons c d rest ih _ =>
    cases pair : octet? c d with
    | none => exact .inr ⟨[], _, rfl, .nil, nofun, unread_cons pair rest⟩
    | some b =>
      obtain ⟨first, second⟩ := isSome_octet?_iff.mp (Option.isSome_of_eq_some pair)
      obtain paired | ⟨front, tail, rfl, paired, present, unread⟩ := ih
      · exact .inl (.cons first second paired)
      · exact .inr ⟨c :: d :: front, tail, rfl, .cons first second paired, present, unread⟩

theorem readPairs_append (paired : Paired front) (rest : List Char) :
    ∃ bs, readPairs (front ++ rest) = (readPairs rest).map (bs ++ ·) := by
  induction paired with
  | nil => exact ⟨[], by rw [List.nil_append]; cases readPairs rest <;> rfl⟩
  | cons first second _ ih =>
    obtain ⟨bs, onward⟩ := ih
    obtain ⟨b, pair⟩ := Option.isSome_iff_exists.mp (isSome_octet?_iff.mpr ⟨first, second⟩)
    refine ⟨b :: bs, ?_⟩
    rw [List.cons_append, List.cons_append, readPairs_cons_of_octet? pair, onward]
    cases readPairs rest <;> rfl

theorem readPairs_of_paired (paired : Paired cs) : ∃ bs, readPairs cs = .ok bs := by
  obtain ⟨bs, read⟩ := readPairs_append paired []
  rw [List.append_nil] at read
  exact ⟨bs ++ [], read⟩

theorem readPairs_append_of_unread (paired : Paired front) (present : rest ≠ [])
    (unread : Unread rest) :
    readPairs (front ++ rest) = .error (if WholeAt rest 2 then .notANumber else .cutsCharacter) := by
  obtain ⟨bs, read⟩ := readPairs_append paired rest
  rw [read, map_eq_error, readPairs_of_unread present unread]

theorem unread_of_cut (cut : ¬ WholeAt cs 2) : Unread cs := by
  rintro c d rest rfl
  by_contra read
  obtain ⟨first, second⟩ := isSome_octet?_iff.mp (Option.isSome_iff_ne_none.mpr read)
  exact cut (wholeAt_two_iff.mpr
    (.inr ⟨utf8Size_of_first first, d, rfl, utf8Size_of_isHexDigit d second⟩))

theorem readPairs_eq_ok_iff : (∃ bs, readPairs cs = .ok bs) ↔ Paired cs := by
  constructor
  · rintro ⟨bs, read⟩
    obtain paired | ⟨front, rest, rfl, paired, present, unread⟩ := paired_or_unread cs
    · exact paired
    · rw [readPairs_append_of_unread paired present unread] at read
      cases read
  · exact readPairs_of_paired

theorem readPairs_eq_cutsCharacter_iff :
    readPairs cs = .error .cutsCharacter ↔ CutsCharacter cs := by
  constructor
  · intro stuck
    obtain paired | ⟨front, rest, rfl, paired, present, unread⟩ := paired_or_unread cs
    · obtain ⟨bs, read⟩ := readPairs_of_paired paired
      rw [read] at stuck
      cases stuck
    · refine ⟨front, rest, rfl, paired, present, ?_⟩
      intro whole
      rw [readPairs_append_of_unread paired present unread, if_pos whole] at stuck
      cases stuck
  · rintro ⟨front, rest, rfl, paired, present, cut⟩
    rw [readPairs_append_of_unread paired present (unread_of_cut cut), if_neg cut]

theorem length_of_readPairs {bs : Bytes} (read : readPairs cs = .ok bs) :
    cs.length = 2 * bs.length := by
  have paired := readPairs_eq_ok_iff.mp ⟨bs, read⟩
  induction paired generalizing bs with
  | nil =>
    cases read
    rfl
  | cons first second _ ih =>
    obtain ⟨b, pair⟩ := Option.isSome_iff_exists.mp (isSome_octet?_iff.mpr ⟨first, second⟩)
    rw [readPairs_cons_of_octet? pair, map_eq_ok] at read
    obtain ⟨more, onward, rfl⟩ := read
    rw [List.length_cons, List.length_cons, ih onward, List.length_cons]
    omega

theorem Paired.utf8Size (paired : Paired cs) : ∀ c ∈ cs, c.utf8Size = 1 := by
  induction paired with
  | nil => exact nofun
  | cons first second _ ih =>
    simp only [List.forall_mem_cons]
    exact ⟨utf8Size_of_first first, utf8Size_of_isHexDigit _ second, ih⟩

theorem Paired.length_even (paired : Paired cs) : cs.length % 2 = 0 := by
  induction paired with
  | nil => rfl
  | cons _ _ _ ih => exact (Nat.add_mod_right _ 2).trans ih

theorem Paired.isHexDigit_iff (paired : Paired cs) :
    (∀ c ∈ cs, c.isHexDigit = true) ↔ '+' ∉ cs := by
  constructor
  · intro hex member
    exact absurd (hex '+' member) (by decide)
  · intro unsigned
    induction paired with
    | nil => exact nofun
    | cons first second _ ih =>
      simp only [List.mem_cons, not_or] at unsigned
      simp only [List.forall_mem_cons]
      exact ⟨first.resolve_right (Ne.symm unsigned.1), second, ih unsigned.2.2⟩

theorem not_cutsCharacter_of_utf8Size (short : ∀ c ∈ cs, c.utf8Size = 1)
    (even : cs.length % 2 = 0) : ¬ CutsCharacter cs := by
  rintro ⟨front, rest, rfl, paired, present, cut⟩
  have count := paired.length_even
  rw [List.length_append] at even
  match rest with
  | [c] =>
    rw [List.length_singleton] at even
    omega
  | c :: d :: more =>
    simp only [List.forall_mem_append, List.forall_mem_cons] at short
    exact cut (wholeAt_two_iff.mpr (.inr ⟨short.2.1, d, rfl, short.2.2.1⟩))

end ChainProfile.Text.Hex
