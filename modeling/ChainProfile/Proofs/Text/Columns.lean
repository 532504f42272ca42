import Mathlib.Data.List.Forall2
import Mathlib.Data.List.Lex
import ChainProfile.Proofs.Text.Order
import ChainProfile.Text.Decimal

/-! Rows of numbers in columns. Each number is filled with zeros to the width of its column and a mark is
set behind it. Where all numbers of two rows fit their columns, the columns begin at the same places,
so the texts are in the order of the rows. -/

namespace ChainProfile.Text

open Decimal (padded fillZeros)
open Hex (numberIn numberIn_cons place_digitChar)

variable {α : Type} {base width : Nat} {n m : Int} {cs : List Char}

theorem append_lt_append_iff [LT α] [Std.Irrefl (α := α) (· < ·)] {front other xs ys : List α}
    (same : front.length = other.length) :
    front ++ xs < other ++ ys ↔ front < other ∨ front = other ∧ xs < ys := by
  induction front generalizing other with
  | nil =>
    rw [List.length_eq_zero_iff.mp same.symm]
    simp
  | cons x front ih =>
    cases other with
    | nil => cases same
    | cons y other =>
      rw [List.cons_append, List.cons_append, List.cons_lt_cons_iff, List.cons_lt_cons_iff,
        ih (Nat.succ.inj same), List.cons.injEq]
      tauto

theorem digitsOf_toDigits (several : 1 < base) (n : Nat) : DigitsOf base (Nat.toDigits base n) := by
  induction n using Nat.strongRecOn with
  | _ n ih =>
    rw [Nat.toDigits_eq_if several]
    split
    · rename_i small
      exact List.forall_mem_singleton.mpr ⟨n, small, rfl⟩
    · rename_i large
      have last : n % base < base := Nat.mod_lt n (by omega)
      have front := ih (n / base) (Nat.div_lt_self (by omega) several)
      exact List.forall_mem_append.mpr ⟨front, List.forall_mem_singleton.mpr ⟨_, last, rfl⟩⟩

theorem numberIn_ten (digits : DigitsOf 10 cs) : numberIn 10 cs = Nat.ofDigitChars 10 cs 0 := by
  induction cs with
  | nil => rfl
  | cons c cs ih =>
    obtain ⟨⟨n, small, rfl⟩, later⟩ := List.forall_mem_cons.mp digits
    rw [numberIn_cons, place_digitChar n (by omega), ih later,
      Nat.ofDigitChars_cons_digitChar_of_lt_ten small, Nat.mul_zero, Nat.zero_add,
      ← Nat.ofDigitChars_eq_ofDigitChars_zero]

structure Fits (width : Nat) (n : Int) : Prop where
  low : 0 ≤ n
  high : n.natAbs < 10 ^ width

theorem Fits.of_lt {bound : Nat} (places : 10 ^ width = bound) (low : 0 ≤ n) (high : n < bound) :
    Fits width n :=
  ⟨low, by omega⟩

theorem Fits.toList_padded (fits : Fits width n) :
    (padded width n).toList = fillZeros width (Nat.toDigits 10 n.natAbs) := by
  rw [padded, String.toList_ofList, if_neg (Int.not_lt.mpr fits.low)]

theorem Fits.length_padded (fits : Fits width n) (some : 0 < width) :
    (padded width n).toList.length = width := by
  have short := Nat.toDigits_length 10 n.natAbs width some fits.high
  rw [fits.toList_padded, fillZeros, List.length_append, List.length_replicate]
  omega

theorem Fits.digitsOf_padded (fits : Fits width n) : DigitsOf 10 (padded width n).toList := by
  rw [fits.toList_padded, fillZeros]
  refine List.forall_mem_append.mpr ⟨?_, digitsOf_toDigits (by decide) _⟩
  intro c member
  exact ⟨0, by decide, List.eq_of_mem_replicate member⟩

theorem Fits.numberIn_padded (fits : Fits width n) :
    numberIn 10 (padded width n).toList = n.natAbs := by
  rw [numberIn_ten fits.digitsOf_padded, fits.toList_padded, fillZeros, Nat.ofDigitChars_append,
    Nat.ofDigitChars_replicate_zero, Nat.mul_zero, Nat.ofDigitChars_ten_toDigits]

/-- A place for numbers of one width, with the mark behind them. -/
structure Column where
  width : Nat
  mark : String
  some : 0 < width := by decide

def Column.text (column : Column) (n : Int) : List Char :=
  (padded column.width n).toList ++ column.mark.toList

variable {column : Column} {layout : List Column} {row other : List Int}

theorem Fits.length_text (fits : Fits column.width n) :
    (column.text n).length = column.width + column.mark.toList.length := by
  rw [Column.text, List.length_append, fits.length_padded column.some]

theorem Fits.text_inj (left : Fits column.width n) (right : Fits column.width m) :
    column.text n = column.text m ↔ n = m := by
  constructor
  · intro same
    have numbers := congrArg (numberIn 10) (List.append_cancel_right same)
    rw [left.numberIn_padded, right.numberIn_padded] at numbers
    rw [← Int.natAbs_of_nonneg left.low, numbers, Int.natAbs_of_nonneg right.low]
  · exact congrArg _

theorem Fits.text_lt_iff (left : Fits column.width n) (right : Fits column.width m) :
    column.text n < column.text m ↔ n < m := by
  have low := left.low
  have high := right.low
  have same : (padded column.width n).toList.length = (padded column.width m).toList.length := by
    rw [left.length_padded column.some, right.length_padded column.some]
  have marks : ¬ column.mark.toList < column.mark.toList := List.lt_irrefl _
  rw [Column.text, Column.text, append_lt_append_iff same, or_iff_left (mt And.right marks),
    lt_iff_numberIn_lt (by decide) (by decide) same left.digitsOf_padded right.digitsOf_padded,
    left.numberIn_padded, right.numberIn_padded]
  omega

def columns (layout : List Column) (row : List Int) : List Char :=
  (List.zipWith Column.text layout row).flatten

def RowFits (layout : List Column) (row : List Int) : Prop :=
  List.Forall₂ (fun column n => Fits column.width n) layout row

theorem columns_lt_iff (left : RowFits layout row) (right : RowFits layout other) :
    columns layout row < columns layout other ↔ row < other := by
  induction left generalizing other with
  | nil =>
    cases right
    exact iff_of_false (List.lt_irrefl _) (List.lt_irrefl _)
  | cons fits _ ih =>
    cases right with
    | cons here later =>
      have same := fits.length_text.trans here.length_text.symm
      simp only [columns, List.zipWith_cons_cons, List.flatten_cons] at ih ⊢
      rw [append_lt_append_iff same, fits.text_lt_iff here, fits.text_inj here, ih later,
        List.cons_lt_cons_iff]

theorem columns_inj (left : RowFits layout row) (right : RowFits layout other) :
    columns layout row = columns layout other ↔ row = other := by
  constructor
  · intro same
    have below := mt (columns_lt_iff left right).mpr (same ▸ List.lt_irrefl _)
    have above := mt (columns_lt_iff right left).mpr (same ▸ List.lt_irrefl _)
    exact (lt_trichotomy row other).resolve_left below |>.resolve_right above
  · exact congrArg _

end ChainProfile.Text
