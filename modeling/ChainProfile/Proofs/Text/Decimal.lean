import ChainProfile.Proofs.Text.Trim
import ChainProfile.Text.Decimal

/-! Decimal numbers written and read. A printed number is read back, whatever its sign. A word is read
exactly from the texts of its own number, so a number outside the word's range is read as none. A
number's text holds signs and digits only, hence no blank and no separator. -/

namespace ChainProfile.Text.Decimal

variable {cs : List Char} {c : Char} {n : Int}

theorem digits?_toDigits (n : Nat) : digits? (Nat.toDigits 10 n) = some n := by
  have all : ∀ c ∈ Nat.toDigits 10 n, c.isDigit = true := fun c member =>
    Nat.isDigit_of_mem_toDigits (by decide) (by decide) member
  rw [digits?, if_pos ⟨Nat.toDigits_ne_nil, List.all_eq_true.mpr all⟩]
  exact congrArg some Nat.ofDigitChars_ten_toDigits

theorem integer?_of_digits (all : ∀ c ∈ cs, c.isDigit = true) :
    integer? cs = (digits? cs).map fun n => (n : Int) := by
  unfold integer?
  split
  · exact absurd (all _ List.mem_cons_self) (by decide)
  · exact absurd (all _ List.mem_cons_self) (by decide)
  · rfl

theorem integer?_toString (n : Int) : integer? (toString n).toList = some n := by
  rw [Int.toString_eq_repr, Int.repr_eq_if]
  split
  · rw [Nat.toList_repr, integer?_of_digits fun c member =>
      Nat.isDigit_of_mem_toDigits (by decide) (by decide) member, digits?_toDigits]
    simp
    omega
  · rw [String.toList_append, Nat.toList_repr]
    simp [integer?, digits?_toDigits]
    omega

theorem ranged_eq_some {α : Type} {toInt : α → Int} {ofInt : Int → α} {low high : Int}
    (back : ∀ a, ofInt (toInt a) = a) (within : ∀ a, low ≤ toInt a ∧ toInt a ≤ high)
    (forth : ∀ n, low ≤ n → n ≤ high → toInt (ofInt n) = n) {read : Option Int} {a : α} :
    (read.bind fun n => if low ≤ n ∧ n ≤ high then some (ofInt n) else none) = some a ↔
      read = some (toInt a) := by
  cases read with
  | none => simp
  | some n =>
    simp only [Option.bind_some, Option.some.injEq]
    constructor
    · intro taken
      split at taken
      · rename_i range
        cases taken
        exact (forth n range.1 range.2).symm
      · cases taken
    · rintro rfl
      rw [if_pos (within a), back]

theorem int32?_eq_some {a : Int32} : int32? cs = some a ↔ integer? cs = some a.toInt :=
  ranged_eq_some Int32.ofInt_toInt (fun a => ⟨a.minValue_le_toInt, a.toInt_le⟩)
    fun _ lower upper => Int32.toInt_ofInt_of_le lower (Int.lt_of_le_sub_one upper)

theorem int64?_eq_some {a : Int64} : int64? cs = some a ↔ integer? cs = some a.toInt :=
  ranged_eq_some Int64.ofInt_toInt (fun a => ⟨a.minValue_le_toInt, a.toInt_le⟩)
    fun _ lower upper => Int64.toInt_ofInt_of_le lower (Int.lt_of_le_sub_one upper)

theorem int32?_toString (n : Int32) : int32? (toString n).toList = some n :=
  int32?_eq_some.mpr (integer?_toString n.toInt)

theorem int64?_toString (n : Int64) : int64? (toString n).toList = some n :=
  int64?_eq_some.mpr (integer?_toString n.toInt)

def Within (low high : Int) (cs : List Char) : Prop :=
  ∀ n, integer? cs = some n → low ≤ n ∧ n ≤ high

theorem within_of_int32? {a : Int32} (read : int32? cs = some a) :
    Within Int32.minValue.toInt Int32.maxValue.toInt cs := by
  intro n number
  cases (int32?_eq_some.mp read).symm.trans number
  exact ⟨a.minValue_le_toInt, a.toInt_le⟩

theorem within_of_int64? {a : Int64} (read : int64? cs = some a) :
    Within Int64.minValue.toInt Int64.maxValue.toInt cs := by
  intro n number
  cases (int64?_eq_some.mp read).symm.trans number
  exact ⟨a.minValue_le_toInt, a.toInt_le⟩

theorem isDigit_of_digits? {next : Nat → Option Int} (read : (digits? cs).bind next = some n) :
    ∀ c ∈ cs, c.isDigit = true := by
  unfold digits? at read
  split at read
  · rename_i digits
    exact List.all_eq_true.mp digits.2
  · cases read

def IsMark (c : Char) : Prop := c = '-' ∨ c = '+' ∨ c.isDigit = true

theorem isMark_of_integer? (read : integer? cs = some n) : ∀ c ∈ cs, IsMark c := by
  unfold integer? at read
  split at read
  all_goals
    simp only [Option.pure_def, Option.bind_eq_bind, Option.map_bind] at read
    have all := isDigit_of_digits? read
  · exact List.forall_mem_cons.mpr ⟨.inl rfl, fun c member => .inr (.inr (all c member))⟩
  · exact List.forall_mem_cons.mpr ⟨.inr (.inl rfl), fun c member => .inr (.inr (all c member))⟩
  · exact fun c member => .inr (.inr (all c member))

theorem isBlank_of_isMark (mark : IsMark c) : isBlank c = false := by
  obtain rfl | rfl | digit := mark
  · rfl
  · rfl
  · have range := Char.isDigit_iff_toNat.mp digit
    simp [isBlank, blankRanges] at range ⊢
    omega

theorem trim_of_integer? (read : integer? cs = some n) : trim cs = cs :=
  trim_of_dark fun c member => isBlank_of_isMark (isMark_of_integer? read c member)

theorem colon_notMem_of_integer? (read : integer? cs = some n) : ':' ∉ cs := by
  intro member
  exact absurd (isMark_of_integer? read ':' member) (by simp [IsMark])

end ChainProfile.Text.Decimal
