import ChainProfile.Checkpoint

/-! Look-ups in checkpoint tables whose heights increase. The halving search ends at the last entry
that is not too high, so a height has a hash exactly if the table has an entry for it. A table that
passes its check increases and starts with the genesis block. -/

namespace ChainProfile.Checkpoint

/-- Where positions once too high stay too high, the search ends at the last that is not, or at the
start if there is none. -/
theorem narrow_spec {tooHigh : Nat → Bool} {stop : Nat}
    (rises : ∀ i j, i ≤ j → j < stop → tooHigh i = true → tooHigh j = true) (start width : Nat)
    (room : 0 < width) (fits : start + width ≤ stop)
    (above : ∀ j, start + width ≤ j → j < stop → tooHigh j = true) :
    narrow tooHigh start width < stop ∧
      (narrow tooHigh start width = start ∨ tooHigh (narrow tooHigh start width) = false) ∧
      ∀ j, narrow tooHigh start width < j → j < stop → tooHigh j = true := by
  fun_induction narrow tooHigh start width with
  | case1 start width single =>
    refine ⟨by omega, .inl rfl, ?_⟩
    intro j beyond inside
    exact above j (by omega) inside
  | case2 start width many middle ih =>
    by_cases high : tooHigh middle = true
    · rw [dif_pos high] at ih
      rw [if_pos high]
      refine ih (by omega) (by omega) ?_
      intro j beyond inside
      exact rises middle j (by omega) inside high
    · rw [dif_neg high] at ih
      rw [if_neg high]
      obtain ⟨inside, found, later⟩ := ih (by omega) (by omega) fun j beyond => above j (by omega)
      refine ⟨inside, .inr ?_, later⟩
      obtain same | low := found
      · rw [same]
        exact Bool.eq_false_iff.mpr high
      · exact low

variable {table : List Checkpoint} {height : Int32} {c : Checkpoint} {hash genesisHash : Hash256}

def Ascending (table : List Checkpoint) : Prop := table.Pairwise fun c d => c.height < d.height

theorem Ascending.height_le (ascending : Ascending table) {i j : Nat} (order : i ≤ j)
    (inside : j < table.length) : table[i].height ≤ table[j].height := by
  obtain before | rfl := Nat.lt_or_eq_of_le order
  · exact Int32.le_of_lt (List.pairwise_iff_getElem.mp ascending i j _ inside before)
  · exact Int32.le_refl _

theorem isAbove_iff {i : Nat} (inside : i < table.length) :
    isAbove table height i = true ↔ height < table[i].height := by
  simp [isAbove, inside]

theorem lastAtOrBelow?_position (ascending : Ascending table) (room : 0 < table.length)
    (height : Int32) :
    ∃ k, ∃ inside : k < table.length,
      lastAtOrBelow? table height = (some table[k]).filter (fun c => c.height ≤ height) ∧
        (k = 0 ∨ table[k].height ≤ height) ∧
        ∀ j (after : j < table.length), k < j → height < table[j].height := by
  have rises : ∀ i j, i ≤ j → j < table.length → isAbove table height i = true →
      isAbove table height j = true := by
    intro i j order inside high
    have low := (isAbove_iff (by omega)).mp high
    exact (isAbove_iff inside).mpr (Int32.lt_of_lt_of_le low (ascending.height_le order inside))
  obtain ⟨inside, found, later⟩ := narrow_spec rises 0 table.length room (by omega)
    fun j beyond inside => absurd inside (by omega)
  refine ⟨_, inside, ?_, ?_, ?_⟩
  · rw [lastAtOrBelow?, List.getElem?_eq_getElem inside]
  · refine found.imp_right fun low => Int32.not_lt.mp ?_
    rw [← isAbove_iff inside, low]
    exact Bool.false_ne_true
  · intro j after beyond
    exact (isAbove_iff after).mp (later j beyond after)

theorem lastAtOrBelow?_eq_some (ascending : Ascending table) :
    lastAtOrBelow? table height = some c ↔
      c ∈ table ∧ c.height ≤ height ∧ ∀ d ∈ table, d.height ≤ height → d.height ≤ c.height := by
  by_cases empty : table = []
  · simp [empty, lastAtOrBelow?]
  obtain ⟨k, inside, looked, first, later⟩ :=
    lastAtOrBelow?_position ascending (List.length_pos_iff.mpr empty) height
  have reach : ∀ i (before : i < table.length), table[i].height ≤ height → i ≤ k := by
    intro i before low
    exact Nat.not_lt.mp fun beyond => Int32.not_le.mpr (later i before beyond) low
  rw [looked, Option.filter_eq_some_iff, Option.some_inj, decide_eq_true_iff]
  constructor
  · rintro ⟨rfl, low⟩
    refine ⟨List.getElem_mem inside, low, ?_⟩
    intro d member below
    obtain ⟨j, after, rfl⟩ := List.getElem_of_mem member
    exact ascending.height_le (reach j after below) inside
  · rintro ⟨member, low, greatest⟩
    obtain ⟨i, before, rfl⟩ := List.getElem_of_mem member
    have order := reach i before low
    suffices same : i = k by
      subst same
      exact ⟨rfl, low⟩
    obtain rfl | below := first
    · exact Nat.le_zero.mp order
    · have least := greatest _ (List.getElem_mem inside) below
      refine Nat.le_antisymm order (Nat.not_lt.mp fun ahead => ?_)
      exact Int32.not_le.mpr (List.pairwise_iff_getElem.mp ascending i k before inside ahead) least

theorem lastAtOrBelow?_eq_none {first : Checkpoint} (ascending : Ascending table)
    (start : table.head? = some first) :
    lastAtOrBelow? table height = none ↔ height < first.height := by
  obtain ⟨rest, rfl⟩ := List.head?_eq_some_iff.mp start
  obtain ⟨k, inside, looked, found, _⟩ :=
    lastAtOrBelow?_position ascending (Nat.succ_pos rest.length) height
  rw [looked, Option.filter_eq_none_iff]
  constructor
  · intro missing
    have high : ¬ (first :: rest)[k].height ≤ height := by simpa using missing _ rfl
    obtain rfl := found.resolve_right high
    exact Int32.not_le.mp high
  · rintro below c ⟨⟩
    have least : first.height ≤ (first :: rest)[k].height :=
      ascending.height_le (Nat.zero_le k) inside
    have high := Int32.not_le.mpr (Int32.lt_of_lt_of_le below least)
    simpa using high

theorem hashAt?_eq_some (ascending : Ascending table) :
    hashAt? table height = some hash ↔ ⟨height, hash⟩ ∈ table := by
  simp only [hashAt?, Option.map_eq_some_iff, Option.filter_eq_some_iff,
    lastAtOrBelow?_eq_some ascending, decide_eq_true_iff]
  constructor
  · rintro ⟨c, ⟨⟨member, _⟩, rfl⟩, rfl⟩
    exact member
  · intro member
    exact ⟨_, ⟨⟨member, Int32.le_refl _, fun _ _ low => low⟩, rfl⟩, rfl⟩

theorem firstStall?_eq_none : firstStall? table = none ↔ Ascending table := by
  fun_induction firstStall? table with
  | case1 c d rest stalls => simp [Ascending, Int32.not_lt.mpr stalls]
  | case2 c d rest rises ih =>
    rw [ih]
    simp only [Ascending, List.pairwise_cons (a := c), iff_and_self]
    intro onward e later
    have next : c.height < d.height := Int32.not_le.mp rises
    obtain rfl | after := List.mem_cons.mp later
    · exact next
    · exact Int32.lt_trans next (List.rel_of_pairwise_cons onward after)
  | case3 table short =>
    match table, short with
    | [], _ => simp [Ascending]
    | [c], _ => simp [Ascending]
    | c :: d :: rest, short => exact absurd rfl (short c d rest)

theorem validate_eq_ok :
    validate genesisHash table = .ok () ↔
      table.head? = some ⟨0, genesisHash⟩ ∧ Ascending table := by
  match table with
  | [] => simp [validate]
  | ⟨first, hash⟩ :: rest =>
    rw [← firstStall?_eq_none, validate]
    by_cases start : first = 0
    · by_cases own : hash = genesisHash
      · cases firstStall? (⟨first, hash⟩ :: rest) <;> simp [start, own]
      · simp [start, own]
    · simp [start]

end ChainProfile.Checkpoint
