import ChainProfile.Proofs.Hash256
import ChainProfile.Proofs.Text.Pairs

/-! Which texts are read as bytes. The reader of hashes fills a text with zeros to 64 bytes, cuts it
into pairs and reads these; the reader of byte strings cuts the text as it stands. Both take a pair of
a plus sign and a digit for a byte, so what they accept is hexadecimal exactly if it has no such sign.
A pair that would cut a character is refused by the reader of byte strings and leaves the reader of
hashes without an answer. -/

namespace ChainProfile.Hash256

open Text (trim)
open Text.Hex

variable {s : String} {cs : List Char}

def written (s : String) : List Char := withoutMarker (trim s.toList)

def filled (cs : List Char) : List Char := List.replicate (64 - utf8Length cs) '0' ++ cs

def Fits (cs : List Char) : Prop := 1 ≤ utf8Length cs ∧ utf8Length cs ≤ 64

/-- The reader of hashes gives a hash or says what is wrong with the text. -/
def Answers (s : String) : Prop :=
  (∃ h, parse s = .ok h) ∨ ∃ cause, parse s = .error (.refused cause)

theorem parse_of_fits (fits : Fits (written s)) :
    parse s = match readPairs (filled (written s)) with
      | .ok bs => .ok (ofNat (Bytes.value bs.reverse))
      | .error .notANumber => .error (.refused .invalidHex)
      | .error .cutsCharacter => .error .cutsCharacter := by
  obtain ⟨some, within⟩ := fits
  rw [written] at some within
  rw [parse, if_neg (by omega)]
  rfl

theorem parse_of_not_fits (unfit : ¬ Fits (written s)) :
    parse s = .error (.refused .invalidLength) := by
  rw [Fits, written] at unfit
  rw [parse, if_pos (by omega)]

theorem exists_parse_eq_ok_iff :
    (∃ h, parse s = .ok h) ↔ Fits (written s) ∧ Paired (filled (written s)) := by
  by_cases fits : Fits (written s)
  · rw [parse_of_fits fits, ← readPairs_eq_ok_iff]
    split <;> simp_all
  · rw [parse_of_not_fits fits]
    simp [fits]

theorem parse_eq_cutsCharacter_iff :
    parse s = .error .cutsCharacter ↔
      Fits (written s) ∧ CutsCharacter (filled (written s)) := by
  by_cases fits : Fits (written s)
  · rw [parse_of_fits fits, ← readPairs_eq_cutsCharacter_iff]
    split <;> simp_all
  · rw [parse_of_not_fits fits]
    simp [fits]

theorem answers_iff :
    Answers s ↔ ¬ (Fits (written s) ∧ CutsCharacter (filled (written s))) := by
  rw [← parse_eq_cutsCharacter_iff, Answers]
  rcases parse s with (cause | _) | h <;> simp

theorem exists_refused_iff :
    (∃ cause, parse s = .error (.refused cause)) ↔
      ¬ (Fits (written s) ∧ (Paired (filled (written s)) ∨ CutsCharacter (filled (written s)))) := by
  rw [and_or_left, ← exists_parse_eq_ok_iff, ← parse_eq_cutsCharacter_iff]
  rcases parse s with (cause | _) | h <;> simp

theorem exists_decode_eq_ok_iff : (∃ bs, decode s = .ok bs) ↔ Paired (trim s.toList) := by
  rw [← readPairs_eq_ok_iff]
  by_cases odd : utf8Length (trim s.toList) % 2 ≠ 0
  · rw [decode, if_pos odd, readPairs_eq_ok_iff]
    refine iff_of_false nofun ?_
    intro paired
    rw [utf8Length_of_utf8Size paired.utf8Size] at odd
    exact odd paired.length_even
  · rw [decode, if_neg odd]
    split <;> simp_all

theorem forall_mem_filled (P : Char → Prop) (zero : P '0') :
    (∀ c ∈ filled cs, P c) ↔ ∀ c ∈ cs, P c := by
  rw [filled, List.forall_mem_append]
  refine and_iff_right ?_
  intro c member
  rw [List.eq_of_mem_replicate member]
  exact zero

theorem plus_mem_filled : '+' ∈ filled cs ↔ '+' ∈ cs := by
  simp [filled]

theorem length_filled (short : ∀ c ∈ cs, c.utf8Size = 1) (fits : Fits cs) :
    (filled cs).length = 64 := by
  obtain ⟨_, within⟩ := fits
  rw [utf8Length_of_utf8Size short] at within
  rw [filled, List.length_append, List.length_replicate, utf8Length_of_utf8Size short]
  omega

/-- A text is read as bytes exactly if its pairs are, and then its digits are hexadecimal exactly if none
of them is a plus sign. All other texts are refused, but for the hashes whose pairs cut a character. -/
theorem accepted_hexadecimal_iff (s : String) :
    (∀ h, parse s = .ok h →
      1 ≤ (written s).length ∧ (written s).length ≤ 64 ∧
        ((∀ c ∈ written s, c.isHexDigit = true) ↔ '+' ∉ written s)) ∧
    (∀ bs, decode s = .ok bs →
      (trim s.toList).length % 2 = 0 ∧
        ((∀ c ∈ trim s.toList, c.isHexDigit = true) ↔ '+' ∉ trim s.toList)) ∧
    ((∃ h, parse s = .ok h) ↔ Fits (written s) ∧ Paired (filled (written s))) ∧
    ((∃ cause, parse s = .error (.refused cause)) ↔
      ¬ (Fits (written s) ∧
        (Paired (filled (written s)) ∨ CutsCharacter (filled (written s))))) ∧
    ((∃ bs, decode s = .ok bs) ↔ Paired (trim s.toList)) := by
  refine ⟨?_, ?_, exists_parse_eq_ok_iff, exists_refused_iff, exists_decode_eq_ok_iff⟩
  · intro h read
    obtain ⟨fits, paired⟩ := exists_parse_eq_ok_iff.mp ⟨h, read⟩
    have short := (forall_mem_filled (·.utf8Size = 1) rfl).mp paired.utf8Size
    have digits := paired.isHexDigit_iff
    rw [forall_mem_filled (·.isHexDigit = true) rfl, plus_mem_filled] at digits
    rw [Fits, utf8Length_of_utf8Size short] at fits
    exact ⟨fits.1, fits.2, digits⟩
  · intro bs read
    have paired := exists_decode_eq_ok_iff.mp ⟨bs, read⟩
    exact ⟨paired.length_even, paired.isHexDigit_iff⟩

theorem accepted_not_hexadecimal :
    (∃ h, parse "+f" = .ok h ∧ ¬ ∀ c ∈ written "+f", c.isHexDigit = true) ∧
      ∃ bs, decode "+f" = .ok bs ∧ ¬ ∀ c ∈ trim "+f".toList, c.isHexDigit = true := by
  have sign : '+'.isHexDigit ≠ true := by decide
  have hash : parse "+f" = .ok (ofNat 15) := by rfl
  have bytes : decode "+f" = .ok [15] := by rfl
  exact ⟨⟨_, hash, fun digits => sign (digits '+' (by decide))⟩,
    _, bytes, fun digits => sign (digits '+' (by decide))⟩

theorem accepted_hexadecimal_iff_plus :
    (parse " 0X1f+f" = .ok (ofNat 0x1f0f) ∧ (written " 0X1f+f").length ≤ 64 ∧
        ((∀ c ∈ written " 0X1f+f", c.isHexDigit = true) ↔ '+' ∉ written " 0X1f+f")) ∧
      (decode "1A+f" = .ok [26, 15] ∧ (trim "1A+f".toList).length % 2 = 0 ∧
        ((∀ c ∈ trim "1A+f".toList, c.isHexDigit = true) ↔ '+' ∉ trim "1A+f".toList)) := by
  have hash : parse " 0X1f+f" = .ok (ofNat 0x1f0f) := by rfl
  have bytes : decode "1A+f" = .ok [26, 15] := by rfl
  exact ⟨⟨hash, ((accepted_hexadecimal_iff _).1 _ hash).2⟩, bytes,
    (accepted_hexadecimal_iff _).2.1 _ bytes⟩

theorem answers_of_utf8Size (short : ∀ c ∈ written s, c.utf8Size = 1) : Answers s := by
  rw [answers_iff]
  rintro ⟨fits, cuts⟩
  have all := (forall_mem_filled (·.utf8Size = 1) rfl).mpr short
  refine not_cutsCharacter_of_utf8Size all ?_ cuts
  rw [length_filled short fits]

/-- The reader of hashes answers unless it comes to a pair that cuts a character, which never happens
with characters of one byte. -/
theorem answers_iff_uncut (s : String) :
    (Answers s ↔ ¬ (Fits (written s) ∧ CutsCharacter (filled (written s)))) ∧
      ((∀ c ∈ written s, c.utf8Size = 1) → Answers s) :=
  ⟨answers_iff, answers_of_utf8Size⟩

theorem not_answers_of_parse_eq (stuck : parse s = .error .cutsCharacter) : ¬ Answers s := by
  rw [Answers, stuck]
  simp

theorem parse_euro : parse "€" = .error .cutsCharacter := by
  rfl

theorem not_answers_euro : ¬ Answers "€" :=
  not_answers_of_parse_eq parse_euro

theorem answers_iff_uncut_letters :
    (∀ c ∈ written " 0Xzz", c.utf8Size = 1) ∧ Answers " 0Xzz" ∧
      CutsCharacter (filled (written "€")) := by
  have letters : written " 0Xzz" = ['z', 'z'] := by decide
  have short : ∀ c ∈ written " 0Xzz", c.utf8Size = 1 := by
    rw [letters, List.forall_mem_cons, List.forall_mem_singleton]
    exact ⟨rfl, rfl⟩
  exact ⟨short, (answers_iff_uncut _).2 short,
    (not_not.mp (mt (answers_iff_uncut "€").1.mpr (not_answers_of_parse_eq parse_euro))).2⟩

end ChainProfile.Hash256
