import ChainProfile.Proofs.Text.Trim

/-! Lower case. Only letters of ASCII change, and no letter is a blank. So a text has its blanks
where its lower-case form has them, and what is no letter comes from itself alone. -/

namespace ChainProfile.Text

variable {c mark : Char}

theorem isUpper_iff : c.isUpper = true ↔ 65 ≤ c.toNat ∧ c.toNat ≤ 90 :=
  decide_eq_true_iff.trans (and_congr UInt32.le_iff_toNat_le UInt32.le_iff_toNat_le)

theorem isLower_iff : c.isLower = true ↔ 97 ≤ c.toNat ∧ c.toNat ≤ 122 :=
  Bool.and_eq_true_iff.trans (and_congr (decide_eq_true_iff.trans UInt32.le_iff_toNat_le)
    (decide_eq_true_iff.trans UInt32.le_iff_toNat_le))

theorem isAlpha_iff : c.isAlpha = true ↔ c.isUpper = true ∨ c.isLower = true := Bool.or_eq_true_iff

theorem toLower_of_isUpper (upper : c.isUpper = true) : c.toLower.toNat = c.toNat + 32 := by
  have range := isUpper_iff.mp upper
  have made : c.toLower.val = c.val + 32 := congrArg Char.val (dif_pos (of_decide_eq_true upper))
  have sum : c.toLower.toNat = (c.toNat + 32) % 2 ^ 32 := by
    rw [Char.toNat, made, UInt32.toNat_add]
    rfl
  omega

theorem toLower_of_not_isUpper (other : ¬ c.isUpper = true) : c.toLower = c :=
  dif_neg fun upper => other (decide_eq_true upper)

theorem isLower_toLower (upper : c.isUpper = true) : c.toLower.isLower = true := by
  have range := isUpper_iff.mp upper
  rw [isLower_iff, toLower_of_isUpper upper]
  omega

theorem isBlank_of_isAlpha (letter : c.isAlpha = true) : isBlank c = false := by
  have range : 65 ≤ c.toNat ∧ c.toNat ≤ 122 := by
    rw [isAlpha_iff, isUpper_iff, isLower_iff] at letter
    omega
  simp [isBlank, blankRanges]
  omega

theorem isBlank_toLower (c : Char) : isBlank c.toLower = isBlank c := by
  by_cases upper : c.isUpper = true
  · rw [isBlank_of_isAlpha (isAlpha_iff.mpr (.inl upper)),
      isBlank_of_isAlpha (isAlpha_iff.mpr (.inr (isLower_toLower upper)))]
  · rw [toLower_of_not_isUpper upper]

theorem toLower_ne (other : mark.isAlpha = false) (differ : c ≠ mark) : c.toLower ≠ mark := by
  rintro rfl
  by_cases upper : c.isUpper = true
  · rw [isAlpha_iff.mpr (.inr (isLower_toLower upper))] at other
    cases other
  · exact differ (toLower_of_not_isUpper upper).symm

theorem trim_map_toLower {cs : List Char} (trimmed : trim cs = cs) :
    trim (cs.map Char.toLower) = cs.map Char.toLower := by
  rw [trim_eq_self_iff] at trimmed ⊢
  simpa [isBlank_toLower] using trimmed

@[simp] theorem toLower_toLower (c : Char) : c.toLower.toLower = c.toLower := by
  refine toLower_of_not_isUpper fun again => ?_
  have range := isUpper_iff.mp again
  by_cases upper : c.isUpper = true
  · rw [toLower_of_isUpper upper] at range
    have before := isUpper_iff.mp upper
    omega
  · rw [toLower_of_not_isUpper upper] at again
    exact upper again

end ChainProfile.Text
