/-! Decimal numbers. A number is written as ASCII digits after at most one sign; a text with another
character, no digit, or a value outside the word's range is no number. Printed numbers can be
filled with zeros, and a minus sign counts as one of the places. -/

namespace ChainProfile.Text.Decimal

def digits? (cs : List Char) : Option Nat :=
  if cs ≠ [] ∧ cs.all Char.isDigit then
    some (cs.foldl (fun n c => 10 * n + (c.toNat - '0'.toNat)) 0)
  else none

def integer? : List Char → Option Int
  | '-' :: cs => (digits? cs).map fun n => -(n : Int)
  | '+' :: cs => (digits? cs).map fun n => (n : Int)
  | cs => (digits? cs).map fun n => (n : Int)

def int32? (cs : List Char) : Option Int32 :=
  (integer? cs).bind fun n =>
    if Int32.minValue.toInt ≤ n ∧ n ≤ Int32.maxValue.toInt then some (Int32.ofInt n) else none

def int64? (cs : List Char) : Option Int64 :=
  (integer? cs).bind fun n =>
    if Int64.minValue.toInt ≤ n ∧ n ≤ Int64.maxValue.toInt then some (Int64.ofInt n) else none

def fillZeros (width : Nat) (digits : List Char) : List Char :=
  List.replicate (width - digits.length) '0' ++ digits

def padded (width : Nat) (n : Int) : String :=
  let digits := Nat.toDigits 10 n.natAbs
  String.ofList (if n < 0 then '-' :: fillZeros (width - 1) digits else fillZeros width digits)

end ChainProfile.Text.Decimal
