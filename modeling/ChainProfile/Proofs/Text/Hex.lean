import Mathlib.Data.List.Induction
import Mathlib.Data.Nat.Digits.Defs
import Mathlib.Tactic.IntervalCases
import ChainProfile.Proofs.LittleEndian

/-! Hexadecimal digits as numbers. A digit has one number in both cases and is written in lower case,
so pairs of digits are read as the bytes that lower-case digits write, most significant first. The
number of the digits is the number of these bytes. -/

namespace ChainProfile.Text.Hex

variable {c d : Char} {cs : List Char}

/-- The place of a digit in either case among the sixteen digits. -/
def place (c : Char) : Nat := "0123456789abcdef".toList.idxOf c.toLower

/-- The number that digits of a base write, most significant first. -/
def numberIn (base : Nat) (cs : List Char) : Nat := Nat.ofDigits base (cs.reverse.map place)

def number (cs : List Char) : Nat := numberIn 16 cs

theorem mem_of_isHexDigit (hex : c.isHexDigit = true) : c ∈ "0123456789abcdefABCDEF".toList := by
  simp only [Char.isHexDigit, Char.isDigit, UInt32.le_iff_toNat_le, ge_iff_le, Bool.or_eq_true,
    Bool.and_eq_true, decide_eq_true_eq] at hex
  have code : c = Char.ofNat c.val.toNat := (Char.ofNat_toNat c).symm
  rw [code]
  generalize c.val.toNat = n at hex
  obtain (⟨low, high⟩ | ⟨low, high⟩) | ⟨low, high⟩ := hex <;> simp at low high <;>
    interval_cases n <;> decide

/-- What holds of the digits of both cases holds of every digit. The test runs over the list, since
one for all characters would run over all of them. -/
theorem forall_isHexDigit {P : Char → Prop} [DecidablePred P]
    (each : ("0123456789abcdefABCDEF".toList.all fun c => P c) = true) :
    ∀ c, c.isHexDigit = true → P c := by
  intro c hex
  exact of_decide_eq_true (List.all_eq_true.mp each c (mem_of_isHexDigit hex))

theorem digit?_of_isHexDigit : ∀ c, c.isHexDigit = true → digit? c = some (place c) :=
  forall_isHexDigit (by decide)

theorem place_lt : ∀ c, c.isHexDigit = true → place c < 16 := forall_isHexDigit (by decide)

theorem digitChar_place : ∀ c, c.isHexDigit = true → (place c).digitChar = c.toLower :=
  forall_isHexDigit (by decide)

theorem utf8Size_of_isHexDigit : ∀ c : Char, c.isHexDigit = true → c.utf8Size = 1 :=
  forall_isHexDigit (by decide)

theorem isBlank_of_isHexDigit : ∀ c, c.isHexDigit = true → isBlank c = false :=
  forall_isHexDigit (by decide)

theorem ne_plus_of_isHexDigit : ∀ c, c.isHexDigit = true → c ≠ '+' := forall_isHexDigit (by decide)

theorem isHexDigit_digitChar : ∀ n < 16, n.digitChar.isHexDigit = true := by decide

theorem place_digitChar : ∀ n < 16, place n.digitChar = n := by decide

theorem numberIn_cons (base : Nat) (c : Char) (cs : List Char) :
    numberIn base (c :: cs) = base ^ cs.length * place c + numberIn base cs := by
  simp [numberIn, Nat.ofDigits_append, Nat.add_comm]

theorem number_cons (c : Char) (cs : List Char) :
    number (c :: cs) = 16 ^ cs.length * place c + number cs :=
  numberIn_cons 16 c cs

theorem number_zeros_append (count : Nat) (cs : List Char) :
    number (List.replicate count '0' ++ cs) = number cs := by
  induction count with
  | zero => rfl
  | succ count ih =>
    have nothing : place '0' = 0 := by decide
    rw [List.replicate_succ, List.cons_append, number_cons, nothing, ih, Nat.mul_zero, Nat.zero_add]

theorem number_map_toLower (hex : ∀ c ∈ cs, c.isHexDigit = true) :
    number (cs.map Char.toLower) = number cs := by
  induction cs with
  | nil => rfl
  | cons c cs ih =>
    obtain ⟨here, later⟩ := List.forall_mem_cons.mp hex
    have same : place c.toLower = place c :=
      digitChar_place _ here ▸ place_digitChar _ (place_lt _ here)
    rw [List.map_cons, number_cons, number_cons, ih later, same, List.length_map]

theorem length_flatMap_octet (bs : Bytes) : (bs.flatMap octet).length = 2 * bs.length := by
  simpa [encode] using length_encode bs

theorem mem_flatMap_octet {bs : Bytes} (member : c ∈ bs.flatMap octet) :
    ∃ n < 16, c = n.digitChar := by
  obtain ⟨b, -, inside⟩ := List.mem_flatMap.mp member
  have small := b.toNat_lt
  simp only [octet, List.mem_cons, List.not_mem_nil, or_false] at inside
  obtain rfl | rfl := inside
  · exact ⟨_, by omega, rfl⟩
  · exact ⟨_, by omega, rfl⟩

theorem number_flatMap_octet (bs : Bytes) :
    number (bs.flatMap octet) = Bytes.value bs.reverse := by
  induction bs with
  | nil => rfl
  | cons b bs ih =>
    have small := b.toNat_lt
    have high := place_digitChar (b.toNat / 16) (by omega)
    have low := place_digitChar (b.toNat % 16) (by omega)
    simp only [List.flatMap_cons, octet, List.cons_append, List.nil_append, number_cons, high, low,
      ih, List.length_cons, length_flatMap_octet, List.reverse_cons, Bytes.value_append,
      Bytes.value, List.length_reverse]
    rw [Nat.pow_succ, Nat.pow_mul]
    calc 256 ^ bs.length * 16 * (b.toNat / 16) + (256 ^ bs.length * (b.toNat % 16) + _)
        = Bytes.value bs.reverse + 256 ^ bs.length * (16 * (b.toNat / 16) + b.toNat % 16) := by ring
      _ = Bytes.value bs.reverse + 256 ^ bs.length * b.toNat := by rw [Nat.div_add_mod]

theorem octet?_of_isHexDigit (first : c.isHexDigit = true) (second : d.isHexDigit = true) :
    ∃ b, octet? c d = some b ∧ octet b = [c.toLower, d.toLower] := by
  have high := place_lt _ first
  have low := place_lt _ second
  have whole : (UInt8.ofNat (16 * place c + place d)).toNat = 16 * place c + place d := by
    rw [UInt8.toNat_ofNat', Nat.mod_eq_of_lt (by omega)]
  have upper : (16 * place c + place d) / 16 = place c := by omega
  have lower : (16 * place c + place d) % 16 = place d := by omega
  refine ⟨UInt8.ofNat (16 * place c + place d), ?_, ?_⟩
  · rw [octet?, if_neg (ne_plus_of_isHexDigit _ first), digit?_of_isHexDigit _ first,
      digit?_of_isHexDigit _ second]
  · rw [octet, whole, upper, lower, digitChar_place _ first, digitChar_place _ second]

theorem readPairs_of_isHexDigit (hex : ∀ c ∈ cs, c.isHexDigit = true) (even : cs.length % 2 = 0) :
    ∃ bs, readPairs cs = .ok bs ∧ bs.flatMap octet = cs.map Char.toLower := by
  induction cs using List.twoStepInduction with
  | nil => exact ⟨[], rfl, rfl⟩
  | singleton c => cases even
  | cons_cons c d rest ih _ =>
    simp only [List.forall_mem_cons] at hex
    obtain ⟨first, second, later⟩ := hex
    obtain ⟨b, pair, digits⟩ := octet?_of_isHexDigit first second
    obtain ⟨bs, read, onward⟩ := ih later ((Nat.add_mod_right _ 2).symm.trans even)
    refine ⟨b :: bs, ?_, ?_⟩
    · simp [readPairs, utf8Size_of_isHexDigit _ first, utf8Size_of_isHexDigit _ second, pair, read,
        Except.map]
    · rw [List.flatMap_cons, digits, onward]
      rfl

theorem utf8Length_of_utf8Size (short : ∀ c ∈ cs, c.utf8Size = 1) : utf8Length cs = cs.length := by
  induction cs with
  | nil => rfl
  | cons c cs ih =>
    obtain ⟨here, later⟩ := List.forall_mem_cons.mp short
    have rest : cs.foldr (fun c n => c.utf8Size + n) 0 = cs.length := ih later
    rw [utf8Length, List.foldr_cons, rest, here, List.length_cons, Nat.add_comm]

theorem utf8Length_of_isHexDigit (hex : ∀ c ∈ cs, c.isHexDigit = true) :
    utf8Length cs = cs.length :=
  utf8Length_of_utf8Size fun c member => utf8Size_of_isHexDigit c (hex c member)

end ChainProfile.Text.Hex
