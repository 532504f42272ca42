import ChainProfile.Proofs.Text.Hex
import ChainProfile.Proofs.Text.Joined

/-! Hashes as text. A text of at most 64 digits is filled with zeros on the left, so that it is the text
of 32 bytes. Their order is reversed both when a hash is read and when it is shown, so the number that
the digits write is the number of the hash. -/

namespace ChainProfile.Hash256

open Text (trim Spaced)
open Text.Hex

variable {cs : List Char} {marker digits text : String}

/-- A text of one to 64 hexadecimal digits, with or without a marker before them, and blanks around. -/
structure Shows (text digits : String) : Prop where
  spaced : ∃ marker ∈ ["", "0x", "0X"], Spaced (marker ++ digits) text
  hexadecimal : ∀ c ∈ digits.toList, c.isHexDigit = true
  some : 1 ≤ digits.length
  fits : digits.length ≤ 64

def zeros (digits : String) : List Char := List.replicate (64 - digits.length) '0'

theorem withoutMarker_of_isHexDigit (hex : ∀ c ∈ cs, c.isHexDigit = true) :
    withoutMarker cs = cs := by
  unfold withoutMarker
  split
  · exact absurd (hex 'x' (by simp)) (by decide)
  · exact absurd (hex 'X' (by simp)) (by decide)
  · rfl

theorem withoutMarker_append (listed : marker ∈ ["", "0x", "0X"])
    (hex : ∀ c ∈ digits.toList, c.isHexDigit = true) :
    withoutMarker (marker ++ digits).toList = digits.toList := by
  rw [String.toList_append]
  simp only [List.mem_cons, List.not_mem_nil, or_false] at listed
  obtain rfl | rfl | rfl := listed
  · exact withoutMarker_of_isHexDigit hex
  · rfl
  · rfl

theorem isBlank_of_marker (listed : marker ∈ ["", "0x", "0X"]) :
    ∀ c ∈ marker.toList, Text.isBlank c = false := by
  simp only [List.mem_cons, List.not_mem_nil, or_false] at listed
  have dark : (marker.toList.all fun c => !Text.isBlank c) = true := by
    obtain rfl | rfl | rfl := listed <;> rfl
  simpa using dark

theorem Shows.withoutMarker_trim (shows : Shows text digits) :
    withoutMarker (trim text.toList) = digits.toList := by
  obtain ⟨marker, listed, spaced⟩ := shows.spaced
  have dark : ∀ c ∈ (marker ++ digits).toList, Text.isBlank c = false := by
    rw [String.toList_append, List.forall_mem_append]
    exact ⟨isBlank_of_marker listed, fun c member =>
      isBlank_of_isHexDigit c (shows.hexadecimal c member)⟩
  rw [Text.trim_of_spaced spaced (Text.trim_of_dark dark)]
  exact withoutMarker_append listed shows.hexadecimal

theorem Shows.isHexDigit_filled (shows : Shows text digits) :
    ∀ c ∈ zeros digits ++ digits.toList, c.isHexDigit = true := by
  rw [List.forall_mem_append]
  exact ⟨fun c member => List.eq_of_mem_replicate member ▸ rfl, shows.hexadecimal⟩

theorem Shows.length_filled (shows : Shows text digits) :
    (zeros digits ++ digits.toList).length = 64 := by
  have fits := shows.fits
  rw [List.length_append, zeros, List.length_replicate, String.length_toList]
  omega

theorem bytes_ofNat_reverse {bs : Bytes} (counted : bs.length = 32) :
    (ofNat (Bytes.value bs.reverse)).bytes = bs.reverse := by
  have read := Bytes.le_value bs.reverse
  rw [List.length_reverse, counted] at read
  exact read

theorem Shows.parse (shows : Shows text digits) :
    ∃ h, parse text = .ok h ∧ h.value = number digits.toList ∧
      h.hex = String.ofList (zeros digits) ++ Text.lowercase digits := by
  obtain ⟨bs, read, written⟩ :=
    readPairs_of_isHexDigit shows.isHexDigit_filled (by rw [shows.length_filled])
  have counted : bs.length = 32 := by
    have lengths := congrArg List.length written
    rw [length_flatMap_octet, List.length_map, shows.length_filled] at lengths
    omega
  have size : utf8Length digits.toList = digits.length :=
    (utf8Length_of_isHexDigit shows.hexadecimal).trans String.length_toList
  refine ⟨ofNat (Bytes.value bs.reverse), ?_, ?_, ?_⟩
  · have some := shows.some
    have fits := shows.fits
    rw [Hash256.parse, shows.withoutMarker_trim, size, if_neg (by omega)]
    rw [zeros] at read
    simp only [read]
  · rw [value, bytes_ofNat_reverse counted, ← number_flatMap_octet, written,
      number_map_toLower shows.isHexDigit_filled, zeros, number_zeros_append]
  · rw [hex, bytes_ofNat_reverse counted, List.reverse_reverse, encode, written, ← String.toList_inj]
    simp [zeros]

theorem exists_digit_of_mem_hex {h : Hash256} {c : Char} (member : c ∈ h.hex.toList) :
    ∃ n < 16, c = n.digitChar := by
  rw [hex, encode, String.toList_ofList] at member
  exact mem_flatMap_octet member

theorem length_hex (h : Hash256) : h.hex.toList.length = 64 := by
  rw [hex, length_encode, List.length_reverse, h.length_bytes]

theorem shows_hex (h : Hash256) : Shows h.hex h.hex where
  spaced := ⟨"", by decide, by simpa using Spaced.refl h.hex⟩
  hexadecimal := by
    intro c member
    obtain ⟨n, small, rfl⟩ := exists_digit_of_mem_hex member
    exact isHexDigit_digitChar n small
  some := by simp [← String.length_toList, length_hex]
  fits := by simp [← String.length_toList, length_hex]

theorem number_hex (h : Hash256) : number h.hex.toList = h.value := by
  rw [hex, encode, String.toList_ofList, number_flatMap_octet, List.reverse_reverse, value]

theorem parse_hex (h : Hash256) : Hash256.parse h.hex = .ok h := by
  obtain ⟨found, read, same, -⟩ := (shows_hex h).parse
  rw [number_hex, value_inj] at same
  rw [read, same]

/-- The digits of a text are the number of the hash that it is read as, and the hash is shown by these
digits in lower case, filled with zeros. What a hash is shown as is read as that hash. -/
theorem text_round_trip :
    (∀ text digits, Shows text digits → ∃ h, parse text = .ok h ∧ h.value = number digits.toList ∧
      h.hex = String.ofList (zeros digits) ++ Text.lowercase digits) ∧
    ∀ h : Hash256, parse h.hex = .ok h :=
  ⟨fun _ _ shows => shows.parse, parse_hex⟩

theorem shows_three : Shows " 0XaBc\n" "aBc" where
  spaced := ⟨"0X", by decide, .intro " " "\n" (List.all_eq_true.mp rfl) (List.all_eq_true.mp rfl)⟩
  hexadecimal := List.all_eq_true.mp rfl
  some := by decide
  fits := by decide

theorem text_round_trip_three :
    (∃ h, parse " 0XaBc\n" = .ok h ∧ h.value = 0xabc ∧
      h.hex = "0000000000000000000000000000000000000000000000000000000000000abc") ∧
      parse (ofNat 0xabc).hex = .ok (ofNat 0xabc) := by
  obtain ⟨h, read, same, shown⟩ := text_round_trip.1 _ _ shows_three
  exact ⟨⟨h, read, same.trans (by decide), shown.trans (by decide)⟩, text_round_trip.2 _⟩

end ChainProfile.Hash256
