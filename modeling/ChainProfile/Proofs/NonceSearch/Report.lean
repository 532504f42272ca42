import ChainProfile.Proofs.LittleEndian
import ChainProfile.Proofs.NonceSearch

/-! What a nonce search reports. A report exists exactly where some nonce wins, and it is the only one
there is: the first winning nonce, the hash there, and the number of nonces tried. Searching and
mining are both answered by it, and neither changes anything of a header but the nonce. -/

namespace ChainProfile

theorem Header.value_trailing (h : Header) : Bytes.value (h.bytes.drop 76) = h.nonce.toNat := by
  have bound := h.nonce.toNat_lt
  have trailing : h.bytes.drop 76 = Bytes.u32 h.nonce :=
    List.drop_left' (by simp [Hash256.length_bytes])
  rw [trailing, Bytes.u32, Bytes.value_le]
  exact Nat.mod_eq_of_lt bound

namespace NonceSearch

variable {target : Hash256} {hasher : HeaderHasher} {header last : Header}
variable {start m n : UInt32} {found other : Found}

/-- What a search from `start` on has to say of a header. -/
structure Found.Reports (target : Hash256) (hasher : HeaderHasher) (header : Header)
    (start : UInt32) (found : Found) : Prop where
  first : FirstWin target hasher header start found.nonce
  hash : found.hash = (header.withNonce found.nonce).hash hasher
  attempts : found.attempts.toNat = found.nonce.toNat - start.toNat + 1

theorem FirstWin.unique (one : FirstWin target hasher header start m)
    (two : FirstWin target hasher header start n) : m = n := by
  have notBelow : ¬ m < n := fun below => two.least m one.reached below one.wins
  have notAbove : ¬ n < m := fun above => one.least n two.reached above two.wins
  exact UInt32.le_antisymm (UInt32.not_lt.mp notAbove) (UInt32.not_lt.mp notBelow)

theorem Found.Reports.unique (one : found.Reports target hasher header start)
    (two : other.Reports target hasher header start) : found = other := by
  have nonce := one.first.unique two.first
  have hash : found.hash = other.hash := by rw [one.hash, two.hash, nonce]
  have attempts : found.attempts = other.attempts := by
    rw [← UInt64.toNat_inj, one.attempts, two.attempts, nonce]
  cases found
  cases other
  cases nonce
  cases hash
  cases attempts
  rfl

theorem toNat_attempts (start nonce : UInt32) :
    (1 + UInt64.ofNat (nonce.toNat - start.toNat)).toNat = nonce.toNat - start.toNat + 1 := by
  have bound := nonce.toNat_lt
  have one : (1 : UInt64).toNat = 1 := rfl
  rw [UInt64.toNat_add, one, UInt64.toNat_ofNat']
  omega

theorem FirstWin.reports (first : FirstWin target hasher header start n) :
    Found.Reports target hasher header start
      ⟨n, (header.withNonce n).hash hasher, 1 + UInt64.ofNat (n.toNat - start.toNat)⟩ :=
  ⟨first, rfl, toNat_attempts start n⟩

theorem search_eq_some :
    search header target hasher = (some found, last) ↔
      found.Reports target hasher header header.nonce ∧ last = header.withNonce found.nonce := by
  have ended := search_searched target hasher header
  generalize search header target hasher = answer at ended
  cases ended with
  | found first =>
    constructor
    · intro same
      cases same
      exact ⟨first.reports, rfl⟩
    · rintro ⟨reports, rfl⟩
      rw [reports.unique first.reports]
  | exhausted lost =>
    constructor
    · intro same
      cases same
    · rintro ⟨reports, _⟩
      exact absurd reports.first.wins (lost _ reports.first.reached)

theorem search_eq_none :
    search header target hasher = (none, last) ↔
      (∀ nonce, header.nonce ≤ nonce → ¬ Wins target hasher header nonce) ∧
        last = header.withNonce 0xffffffff := by
  have ended := search_searched target hasher header
  generalize search header target hasher = answer at ended
  cases ended with
  | found first =>
    constructor
    · intro same
      cases same
    · rintro ⟨lost, _⟩
      exact absurd first.wins (lost _ first.reached)
  | exhausted lost =>
    constructor
    · intro same
      cases same
      exact ⟨lost, rfl⟩
    · rintro ⟨_, rfl⟩
      rfl

theorem isSome_search :
    (search header target hasher).1.isSome ↔
      ∃ nonce, header.nonce ≤ nonce ∧ Wins target hasher header nonce := by
  have ended := search_searched target hasher header
  generalize search header target hasher = answer at ended
  cases ended with
  | found first => simpa using ⟨_, first.reached, first.wins⟩
  | exhausted lost => simpa using lost

variable {network : Network} {block mined : Block}

theorem mine_eq_ok :
    (mine network block target hasher).run.value = .ok (mined, found) ↔
      found.Reports target hasher block.header 0 ∧ mined = block.withNonce found.nonce := by
  have outcome := mined_mine network block target hasher
  generalize (mine network block target hasher).run.value = answer at outcome
  cases outcome with
  | found first =>
    constructor
    · intro same
      cases same
      exact ⟨first.reports, rfl⟩
    · rintro ⟨reports, rfl⟩
      rw [reports.unique first.reports]
      rfl
  | exhausted lost =>
    constructor
    · intro same
      cases same
    · rintro ⟨reports, _⟩
      exact absurd reports.first.wins (lost _)

theorem exists_mine_eq_ok :
    (∃ outcome, (mine network block target hasher).run.value = .ok outcome) ↔
      ∃ nonce, Wins target hasher block.header nonce := by
  constructor
  · rintro ⟨⟨mined, found⟩, went⟩
    exact ⟨found.nonce, (mine_eq_ok.mp went).1.first.wins⟩
  · rintro ⟨nonce, wins⟩
    exact (mined_mine network block target hasher).exists_ok wins

/-- Searching takes the first winning nonce from the header's own on, mining the first of all. -/
theorem search_mine_reports (header : Header) (target : Hash256) (hasher : HeaderHasher)
    (network : Network) (block : Block) :
    ((search header target hasher).1.isSome ↔
        ∃ nonce, header.nonce ≤ nonce ∧ Wins target hasher header nonce) ∧
      (∀ found last, search header target hasher = (some found, last) ↔
        found.Reports target hasher header header.nonce ∧ last = header.withNonce found.nonce) ∧
      (∀ last, search header target hasher = (none, last) ↔
        (∀ nonce, header.nonce ≤ nonce → ¬ Wins target hasher header nonce) ∧
          last = header.withNonce 0xffffffff) ∧
      ((∃ outcome, (mine network block target hasher).run.value = .ok outcome) ↔
        ∃ nonce, Wins target hasher block.header nonce) ∧
      (∀ mined found, (mine network block target hasher).run.value = .ok (mined, found) ↔
        found.Reports target hasher block.header 0 ∧ mined = block.withNonce found.nonce) ∧
      ∀ nonce, mine network (block.withNonce nonce) target hasher =
        mine network block target hasher :=
  ⟨isSome_search, fun _ _ => search_eq_some, fun _ => search_eq_none, exists_mine_eq_ok,
    fun _ _ => mine_eq_ok, fun _ => rfl⟩

/-- Where hashes fall as nonces grow, only the largest nonce meets zero. From `0xfffffffd` on it is the
third to be tried, in mining the last of all; where none wins, a search ends there empty-handed. -/
theorem search_mine_reports_largest :
    let falling : HeaderHasher := fun bytes => .ofNat (0xffffffff - Bytes.value (bytes.drop 76))
    let never : HeaderHasher := fun _ => .ofNat 1
    let header : Header := ⟨1, .zero, .zero, 0, 0x207fffff, 0xfffffffd⟩
    search header .zero falling =
        (some ⟨0xffffffff, .zero, 3⟩, header.withNonce 0xffffffff) ∧
      search header .zero never = (none, header.withNonce 0xffffffff) ∧
      (mine .devnet ⟨header, []⟩ .zero falling).run.value =
        .ok (⟨header.withNonce 0xffffffff, []⟩, ⟨0xffffffff, .zero, 4294967296⟩) := by
  intro falling never header
  have zero : Hash256.zero.value = 0 := by decide
  have largest : (0xffffffff : UInt32).toNat = 4294967295 := rfl
  have hash : ∀ nonce, ((header.withNonce nonce).hash falling).value = 4294967295 - nonce.toNat := by
    intro nonce
    simp only [Header.hash, falling, Header.value_trailing, Hash256.value_ofNat]
    exact Nat.mod_eq_of_lt (by omega)
  have lowest : (header.withNonce 0xffffffff).hash falling = .zero := by
    rw [← Hash256.value_inj, hash, largest, zero]
  have first : ∀ start, FirstWin .zero falling header start 0xffffffff := by
    intro start
    have reached := start.toNat_lt
    constructor
    · rw [UInt32.le_iff_toNat_le, largest]
      omega
    · exact Nat.le_of_eq (congrArg Hash256.value lowest)
    · intro lower _ below
      rw [UInt32.lt_iff_toNat_lt, largest] at below
      rw [Wins, hash, zero]
      omega
  have third : Found.Reports .zero falling header header.nonce ⟨0xffffffff, .zero, 3⟩ :=
    ⟨first _, lowest.symm, by decide⟩
  have lastOfAll : Found.Reports .zero falling header 0 ⟨0xffffffff, .zero, 4294967296⟩ :=
    ⟨first _, lowest.symm, by decide⟩
  have above : ¬ (Hash256.ofNat 1).value ≤ Hash256.zero.value := by decide
  have lost : ∀ nonce, header.nonce ≤ nonce → ¬ Wins .zero never header nonce := fun _ _ => above
  obtain ⟨_, found, _, _, mined, _⟩ := search_mine_reports header .zero falling .devnet ⟨header, []⟩
  obtain ⟨_, _, exhausted, _⟩ := search_mine_reports header .zero never .devnet ⟨header, []⟩
  exact ⟨(found _ _).mpr ⟨third, rfl⟩, (exhausted _).mpr ⟨lost, rfl⟩,
    (mined _ _).mpr ⟨lastOfAll, rfl⟩⟩

end NonceSearch

end ChainProfile
