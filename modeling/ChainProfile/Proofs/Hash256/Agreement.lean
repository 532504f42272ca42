import ChainProfile.Proofs.Hash256.Reading

/-! Where the two readers of hexadecimal text agree. A text of 64 encoded bytes needs no zeros before it,
so without a marker both readers cut it into the same pairs. One gives the bytes in the order of the text
and the other in the reverse of it, and what is no byte to the one is none to the other. -/

namespace ChainProfile.Hash256

open Text (trim)
open Text.Hex

variable {s : String} {cs : List Char}

theorem written_of_unmarked
    (unmarked : ∀ marker ∈ ["0x", "0X"], ¬ marker.toList <+: trim s.toList) :
    written s = trim s.toList := by
  rw [written]
  unfold withoutMarker
  split
  case h_1 digits whole => exact absurd (whole ▸ ⟨digits, rfl⟩) (unmarked "0x" (by decide))
  case h_2 digits whole => exact absurd (whole ▸ ⟨digits, rfl⟩) (unmarked "0X" (by decide))
  case h_3 => rfl

theorem filled_of_full (full : utf8Length cs = 64) : filled cs = cs := by
  rw [filled, full]
  rfl

theorem fits_of_full (full : utf8Length cs = 64) : Fits cs := by
  rw [Fits, full]
  decide

theorem length_of_readPairs_full {bs : Bytes} (full : utf8Length cs = 64)
    (read : readPairs cs = .ok bs) : bs.length = 32 := by
  have short := (readPairs_eq_ok_iff.mp ⟨bs, read⟩).utf8Size
  have counted := length_of_readPairs read
  rw [← utf8Length_of_utf8Size short, full] at counted
  omega

theorem decode_eq_of_parse (full : utf8Length (trim s.toList) = 64)
    (unmarked : ∀ marker ∈ ["0x", "0X"], ¬ marker.toList <+: trim s.toList) :
    decode s = match parse s with
      | .ok h => .ok h.bytes.reverse
      | .error _ => .error .invalidHex := by
  have same : written s = trim s.toList := written_of_unmarked unmarked
  have fits : Fits (written s) := same ▸ fits_of_full full
  rw [decode, full, if_neg (by decide), parse_of_fits fits, same, filled_of_full full]
  cases read : readPairs (trim s.toList) with
  | error fault => cases fault <;> rfl
  | ok bs =>
    have shown := bytes_ofNat_reverse (length_of_readPairs_full full read)
    simp only [shown, List.reverse_reverse]

/-- A text of 64 encoded bytes and no marker is read as a hash exactly if it is read as the bytes of this
hash in reverse, which is if all its pairs are bytes. Where the reader of hashes refuses it or gets stuck,
the other finds fault with its characters. -/
theorem parse_eq_ok_iff_decode (s : String) (full : utf8Length (trim s.toList) = 64)
    (unmarked : ∀ marker ∈ ["0x", "0X"], ¬ marker.toList <+: trim s.toList) :
    (∀ h, parse s = .ok h ↔ decode s = .ok h.bytes.reverse) ∧
      ((∃ h, parse s = .ok h) ↔ Paired (trim s.toList)) ∧
      ((∃ failure, parse s = .error failure) ↔ decode s = .error .invalidHex) := by
  have agree := decode_eq_of_parse full unmarked
  refine ⟨?_, ?_, ?_⟩
  · intro h
    rw [agree]
    cases parse s with
    | error failure => exact iff_of_false nofun nofun
    | ok found => simp [Hash256.ext_iff]
  · rw [← exists_decode_eq_ok_iff, agree]
    cases parse s <;> simp
  · rw [agree]
    cases parse s <;> simp

theorem parse_eq_ok_iff_decode_signed :
    let signed := "\t+F000000000123456789abcdefABCDEFfedcba98765432100123456789abcdef "
    let euro := String.ofList (List.replicate 61 'a' ++ ['€'])
    let number := 0xf000000000123456789abcdefabcdeffedcba98765432100123456789abcdef
    (utf8Length (trim signed.toList) = 64 ∧
        (∀ marker ∈ ["0x", "0X"], ¬ marker.toList <+: trim signed.toList) ∧
        decode signed = .ok (ofNat number).bytes.reverse ∧ parse signed = .ok (ofNat number)) ∧
      (utf8Length (trim euro.toList) = 64 ∧
        (∀ marker ∈ ["0x", "0X"], ¬ marker.toList <+: trim euro.toList) ∧
        parse euro = .error .cutsCharacter ∧ decode euro = .error .invalidHex) := by
  intro signed euro number
  have full : utf8Length (trim signed.toList) = 64 := by decide
  have unmarked : ∀ marker ∈ ["0x", "0X"], ¬ marker.toList <+: trim signed.toList := by decide
  have bytes : decode signed = .ok (ofNat number).bytes.reverse := by decide
  have full' : utf8Length (trim euro.toList) = 64 := by decide
  have unmarked' : ∀ marker ∈ ["0x", "0X"], ¬ marker.toList <+: trim euro.toList := by decide
  have stuck : parse euro = .error .cutsCharacter := by decide
  exact ⟨⟨full, unmarked, bytes, ((parse_eq_ok_iff_decode _ full unmarked).1 _).mpr bytes⟩,
    full', unmarked', stuck, (parse_eq_ok_iff_decode _ full' unmarked').2.2.mp ⟨_, stuck⟩⟩

end ChainProfile.Hash256
