import ChainProfile.NonceSearch
import ChainProfile.Proofs.Outcome

/-! What a nonce search finds. It stops at the least nonce that wins from its start on and gives up
only where none does, so mining finds the least winning nonce there is, and a block that has been
mined differs from its candidate in the nonce alone. -/

namespace ChainProfile

def Header.withNonce (h : Header) (nonce : UInt32) : Header := { h with nonce }

def Block.withNonce (b : Block) (nonce : UInt32) : Block :=
  { b with header := b.header.withNonce nonce }

namespace NonceSearch

def Wins (target : Hash256) (hasher : HeaderHasher) (header : Header) (nonce : UInt32) : Prop :=
  ((header.withNonce nonce).hash hasher).value ≤ target.value

/-- The nonce wins, and from `start` on no lower one does. -/
structure FirstWin (target : Hash256) (hasher : HeaderHasher) (header : Header)
    (start nonce : UInt32) : Prop where
  reached : start ≤ nonce
  wins : Wins target hasher header nonce
  least : ∀ lower, start ≤ lower → lower < nonce → ¬ Wins target hasher header lower

variable {target : Hash256} {hasher : HeaderHasher} {header : Header} {start next nonce : UInt32}

theorem le_of_next_le (follows : next.toNat = start.toNat + 1) (after : next ≤ nonce) :
    start ≤ nonce := by
  rw [UInt32.le_iff_toNat_le] at after ⊢
  omega

theorem eq_or_next_le (follows : next.toNat = start.toNat + 1) (after : start ≤ nonce) :
    nonce = start ∨ next ≤ nonce := by
  rw [UInt32.le_iff_toNat_le] at after ⊢
  rw [← UInt32.toNat_inj]
  omega

theorem FirstWin.here (wins : Wins target hasher header start) :
    FirstWin target hasher header start start where
  reached := UInt32.le_refl start
  wins := wins
  least _ after below := absurd after (UInt32.not_le.mpr below)

theorem FirstWin.before (first : FirstWin target hasher header next nonce)
    (follows : next.toNat = start.toNat + 1) (lost : ¬ Wins target hasher header start) :
    FirstWin target hasher header start nonce := by
  refine ⟨le_of_next_le follows first.reached, first.wins, ?_⟩
  intro lower after below
  obtain rfl | beyond := eq_or_next_le follows after
  · exact lost
  · exact first.least lower beyond below

/-- What a search from the header's nonce on may end with. -/
inductive Searched (target : Hash256) (hasher : HeaderHasher) (header : Header)
    (attempts : UInt64) : Option Found × Header → Prop
  | found {nonce : UInt32} (first : FirstWin target hasher header header.nonce nonce) :
      Searched target hasher header attempts
        (some ⟨nonce, (header.withNonce nonce).hash hasher,
          attempts + UInt64.ofNat (nonce.toNat - header.nonce.toNat)⟩, header.withNonce nonce)
  | exhausted (lost : ∀ nonce, header.nonce ≤ nonce → ¬ Wins target hasher header nonce) :
      Searched target hasher header attempts (none, header.withNonce 0xffffffff)

theorem Searched.here {attempts : UInt64} (wins : Wins target hasher header header.nonce) :
    Searched target hasher header attempts
      (some ⟨header.nonce, header.hash hasher, attempts⟩, header) := by
  have found : Searched target hasher header attempts _ := .found (.here wins)
  rw [Nat.sub_self] at found
  simpa [Header.withNonce] using found

theorem Searched.before {attempts : UInt64} {ended : Option Found × Header}
    (onward : Searched target hasher (header.withNonce next) (attempts + 1) ended)
    (follows : next.toNat = header.nonce.toNat + 1)
    (lost : ¬ Wins target hasher header header.nonce) :
    Searched target hasher header attempts ended := by
  cases onward with
  | found first =>
    rename_i nonce
    have same : FirstWin target hasher header next nonce := ⟨first.reached, first.wins, first.least⟩
    have found : Searched target hasher header attempts _ := .found (same.before follows lost)
    have reached := UInt32.le_iff_toNat_le.mp same.reached
    have steps : nonce.toNat - header.nonce.toNat = 1 + (nonce.toNat - next.toNat) := by omega
    rw [steps, UInt64.ofNat_add, ← UInt64.add_assoc] at found
    exact found
  | exhausted none =>
    refine .exhausted ?_
    intro nonce after
    obtain rfl | beyond := eq_or_next_le follows after
    · exact lost
    · exact none nonce beyond

theorem searchFrom_of_win (attempts : UInt64) (left : Nat)
    (wins : Wins target hasher header header.nonce) :
    searchFrom target hasher attempts left header =
      (some ⟨header.nonce, header.hash hasher, attempts⟩, header) := by
  rw [searchFrom.eq_def]
  exact if_pos ((Difficulty.meets_iff _ _).mpr wins)

theorem searchFrom_of_loss (attempts : UInt64) (left : Nat)
    (lost : ¬ Wins target hasher header header.nonce) :
    searchFrom target hasher attempts left header =
      match left with
      | 0 => (none, header)
      | left + 1 =>
        searchFrom target hasher (attempts + 1) left (header.withNonce (header.nonce + 1)) := by
  rw [searchFrom.eq_def]
  exact if_neg fun meets => lost ((Difficulty.meets_iff _ _).mp meets)

theorem eq_of_remaining (none : remaining start = 0) (after : start ≤ nonce) :
    nonce = 0xffffffff := by
  have bound := nonce.toNat_lt
  have last : (0xffffffff : UInt32).toNat = 4294967295 := rfl
  rw [UInt32.le_iff_toNat_le] at after
  rw [← UInt32.toNat_inj, last]
  simp only [remaining] at none
  omega

theorem toNat_next_of_remaining {left : Nat} (some : remaining nonce = left + 1) :
    (nonce + 1).toNat = nonce.toNat + 1 := by
  have one : (1 : UInt32).toNat = 1 := rfl
  simp only [remaining] at some
  rw [UInt32.toNat_add, one]
  omega

theorem searchFrom_searched (attempts : UInt64) (left : Nat) (header : Header)
    (all : remaining header.nonce = left) :
    Searched target hasher header attempts (searchFrom target hasher attempts left header) := by
  induction left generalizing header attempts with
  | zero =>
    by_cases wins : Wins target hasher header header.nonce
    · rw [searchFrom_of_win attempts 0 wins]
      exact .here wins
    · rw [searchFrom_of_loss attempts 0 wins]
      have last := eq_of_remaining all (UInt32.le_refl header.nonce)
      have lost : ∀ nonce, header.nonce ≤ nonce → ¬ Wins target hasher header nonce := by
        intro nonce after
        rw [eq_of_remaining all after, ← last]
        exact wins
      have exhausted : Searched target hasher header attempts _ := .exhausted lost
      rwa [← last] at exhausted
  | succ left ih =>
    by_cases wins : Wins target hasher header header.nonce
    · rw [searchFrom_of_win attempts (left + 1) wins]
      exact .here wins
    · rw [searchFrom_of_loss attempts (left + 1) wins]
      have follows := toNat_next_of_remaining all
      refine (ih (attempts + 1) (header.withNonce (header.nonce + 1)) ?_).before follows wins
      simp only [remaining, Header.withNonce] at all ⊢
      omega

theorem search_searched (target : Hash256) (hasher : HeaderHasher) (header : Header) :
    Searched target hasher header 1 (search header target hasher) :=
  searchFrom_searched 1 _ header rfl

variable {network : Network} {block : Block}

theorem value_mine :
    (mine network block target hasher).run.value =
      match search (block.header.withNonce 0) target hasher with
      | (some found, header) => .ok ({ block with header }, found)
      | (none, header) => .error (.nonceSpaceExhausted network header.bits) := by
  rw [mine, ← Header.withNonce]
  generalize search (block.header.withNonce 0) target hasher = ended
  obtain ⟨found, header⟩ := ended
  cases found <;> rfl

/-- The outcome of a computation that needs a winning nonce: what is made of the least one there is,
or the fault that stands for there being none. -/
inductive Mined {α : Type} (target : Hash256) (hasher : HeaderHasher) (header : Header)
    (made : UInt32 → α) (fault : ProfileError) : Except ProfileError α → Prop
  | found {nonce : UInt32} (first : FirstWin target hasher header 0 nonce) :
      Mined target hasher header made fault (.ok (made nonce))
  | exhausted (lost : ∀ nonce, ¬ Wins target hasher header nonce) :
      Mined target hasher header made fault (.error fault)

namespace Mined

variable {α β : Type} {made : UInt32 → α} {fault : ProfileError} {x : Except ProfileError α}

theorem of_ok {a : α} (mined : Mined target hasher header made fault x) (went : x = .ok a) :
    ∃ nonce, FirstWin target hasher header 0 nonce ∧ a = made nonce := by
  cases mined with
  | found first => exact ⟨_, first, (Except.ok.inj went).symm⟩
  | exhausted lost => cases went

theorem of_error {e : ProfileError} (mined : Mined target hasher header made fault x)
    (failed : x = .error e) : e = fault ∧ ∀ nonce, ¬ Wins target hasher header nonce := by
  cases mined with
  | found first => cases failed
  | exhausted lost => exact ⟨(Except.error.inj failed).symm, lost⟩

theorem exists_ok (mined : Mined target hasher header made fault x)
    (wins : Wins target hasher header nonce) : ∃ a, x = .ok a := by
  cases mined with
  | found first => exact ⟨_, rfl⟩
  | exhausted lost => exact absurd wins (lost nonce)

theorem eq_error (mined : Mined target hasher header made fault x)
    (lost : ∀ nonce, ¬ Wins target hasher header nonce) : x = .error fault := by
  cases mined with
  | found first => exact absurd first.wins (lost _)
  | exhausted _ => rfl

theorem bind {next : α → Except ProfileError β} {rest : UInt32 → β}
    (mined : Mined target hasher header made fault x)
    (goes : ∀ nonce, next (made nonce) = .ok (rest nonce)) :
    Mined target hasher header rest fault (x >>= next) := by
  cases mined with
  | found first =>
    change Mined target hasher header rest fault (next (made _))
    rw [goes]
    exact .found first
  | exhausted lost => exact .exhausted lost

end Mined

/-- Mining takes the least winning nonce of all, whatever nonce the block came with, and fails only
if there is none. -/
theorem mined_mine (network : Network) (block : Block) (target : Hash256) (hasher : HeaderHasher) :
    Mined target hasher block.header
      (fun nonce => (block.withNonce nonce,
        ⟨nonce, (block.withNonce nonce).header.hash hasher, 1 + UInt64.ofNat nonce.toNat⟩))
      (.nonceSpaceExhausted network block.header.bits)
      (mine network block target hasher).run.value := by
  have ended := search_searched target hasher (block.header.withNonce 0)
  rw [value_mine]
  generalize search (block.header.withNonce 0) target hasher = found at ended
  cases ended with
  | found first =>
    have least : FirstWin target hasher block.header 0 _ :=
      ⟨first.reached, first.wins, first.least⟩
    exact .found least
  | exhausted lost => exact .exhausted fun nonce => lost nonce UInt32.zero_le

theorem value_mineDevnet {parent : Header} {parentHash : Hash256} {name : String} {pays : Int64}
    (expands : Difficulty.compactToTarget parent.bits = .ok target)
    (made : Genesis.devnet parentHash name (nextTime parent.time) 0 parent.bits pays = .ok block) :
    (mineDevnet parent parentHash name pays hasher).run.value =
      (mine .devnet block target hasher).run.value := by
  rw [mineDevnet, expands, made]
  simp only [Logged.value_run_bind]
  exact bind_pure (mine .devnet block target hasher).run.value

end NonceSearch

end ChainProfile
