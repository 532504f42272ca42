import ChainProfile.Options.NodeOptions
import ChainProfile.Proofs.Text.Decimal
import ChainProfile.Proofs.Text.Joined

/-! The values of single options. Numbers between colons are read field by field, so there are as many
as there are fields. A deployment is read from the name in front of the first colon and from the two
or four numbers behind it. -/

namespace ChainProfile.NodeOptions

open Options
open Text (trim split cut?)
open Text.Decimal (int32? int64?)

variable {cs rest : List Char} {value : String}

section Numbers

variable {α : Type} {read : List Char → Option α} {numbers : List α}

theorem mapM_eq_some {β : Type} {f : β → Option α} {l : List β} :
    l.mapM f = some numbers ↔ List.Forall₂ (fun b a => f b = some a) l numbers := by
  induction l generalizing numbers with
  | nil => cases numbers <;> simp [eq_comm]
  | cons b rest ih =>
    simp only [List.mapM_cons, List.forall₂_cons_left_iff, ← ih]
    cases f b <;> cases rest.mapM f <;> simp [eq_comm]

theorem numbers?_eq_some :
    numbers? read cs = some numbers ↔
      List.Forall₂ (fun field n => read field = some n) ((split ':' cs).map trim) numbers := by
  rw [numbers?, mapM_eq_some, List.forall₂_map_left_iff]

theorem forall_of_forall₂ {β : Type} {R : β → α → Prop} {P : β → Prop} {l : List β}
    (each : List.Forall₂ R l numbers) (sound : ∀ b a, R b a → P b) : ∀ b ∈ l, P b :=
  ((List.forall₂_and_left _ _).mp (each.imp fun b a related => ⟨sound b a related, related⟩)).1

theorem length_numbers? (found : numbers? read cs = some numbers) :
    numbers.length = cs.count ':' + 1 := by
  have fields := (numbers?_eq_some.mp found).length_eq
  rw [List.length_map, Text.length_split] at fields
  exact fields.symm

end Numbers

def update? : List Int64 → Option DeploymentUpdate
  | [startTime, timeout] => some (.between startTime timeout)
  | [startTime, timeout, window, threshold] => some (.ofRaw startTime timeout window threshold)
  | _ => none

theorem update?_eq_none {numbers : List Int64} :
    update? numbers = none ↔ numbers.length ≠ 2 ∧ numbers.length ≠ 4 := by
  rcases numbers with _ | ⟨_, _ | ⟨_, _ | ⟨_, _ | ⟨_, _ | ⟨_, _⟩⟩⟩⟩⟩ <;> simp [update?]

theorem deployment_of_name {name : List Char} {id : DeploymentId}
    (cut : cut? ':' value.toList = some (name, rest))
    (known : DeploymentId.ofName? (String.ofList (trim name)) = some id) :
    deployment value =
      match (numbers? int64? rest).bind update? with
      | some update => .ok (id, update)
      | none => .error (.invalidValue vbKey
          (if rest.count ':' = 1 ∨ rest.count ':' = 3 then String.ofList rest else value)) := by
  simp only [deployment, cut, known, Text.length_split]
  cases read : numbers? int64? rest with
  | none => split <;> simp_all
  | some numbers =>
    have counted := length_numbers? read
    rw [Option.bind_some]
    cases fits : update? numbers with
    | none =>
      obtain ⟨short, long⟩ := update?_eq_none.mp fits
      rw [if_neg (by omega), if_neg (by omega)]
    | some update =>
      unfold update? at fits
      split at fits
      · cases fits
        rw [← counted]
        rfl
      · cases fits
        rw [← counted]
        rfl
      · cases fits

theorem ofName?_eq_some {name : String} {id : DeploymentId} :
    DeploymentId.ofName? name = some id ↔ name = id.name := by
  constructor
  · intro found
    rw [DeploymentId.ofName?] at found
    have same := List.find?_some found
    exact (eq_of_beq same).symm
  · rintro rfl
    exact DeploymentId.ofName?_name id

theorem deployment_eq_ok {id : DeploymentId} {update : DeploymentUpdate} :
    deployment value = .ok (id, update) ↔
      ∃ fields numbers, (split ':' value.toList).map trim = id.name.toList :: fields ∧
        List.Forall₂ (fun field n => int64? field = some n) fields numbers ∧
        update? numbers = some update := by
  obtain ⟨plain, uncut⟩ | ⟨name, rest, -, -, cut⟩ := Text.cut?_cases ':' value.toList
  · simp only [deployment, uncut, Text.split_of_notMem plain]
    refine iff_of_false nofun ?_
    rintro ⟨fields, numbers, alone, read, fits⟩
    obtain ⟨-, rfl⟩ := List.cons.inj alone
    cases read
    cases fits
  · rw [Text.split_of_cut? cut, List.map_cons]
    constructor
    · intro read
      cases known : DeploymentId.ofName? (String.ofList (trim name)) with
      | none => simp [deployment, cut, known] at read
      | some found =>
        rw [deployment_of_name cut known] at read
        cases given : (numbers? int64? rest).bind update? with
        | none => simp [given] at read
        | some taken =>
          rw [given] at read
          cases read
          obtain ⟨numbers, each, fits⟩ := Option.bind_eq_some_iff.mp given
          have own := congrArg String.toList (ofName?_eq_some.mp known)
          rw [String.toList_ofList] at own
          exact ⟨_, numbers, by rw [own], numbers?_eq_some.mp each, fits⟩
    · rintro ⟨fields, numbers, whole, read, fits⟩
      obtain ⟨own, rfl⟩ := List.cons.inj whole
      have known : DeploymentId.ofName? (String.ofList (trim name)) = some id := by
        rw [ofName?_eq_some, own, String.ofList_toList]
      rw [deployment_of_name cut known, numbers?_eq_some.mpr read, Option.bind_some, fits]

/-- A value that has a known name and as many numbers as a deployment takes, where one of the numbers
cannot be read. -/
structure Misread (value numbers : String) : Prop where
  named : ∃ (id : DeploymentId) (name : String), ':' ∉ name.toList ∧ Text.trimmed name = id.name ∧
    value = name ++ ":" ++ numbers
  counted : numbers.toList.count ':' = 1 ∨ numbers.toList.count ':' = 3
  illegible : numbers? int64? numbers.toList = none

theorem deployment_of_misread {numbers : String} (misread : Misread value numbers) :
    deployment value = .error (.invalidValue vbKey numbers) := by
  obtain ⟨id, name, plain, own, rfl⟩ := misread.named
  have cut : cut? ':' (name ++ ":" ++ numbers).toList = some (name.toList, numbers.toList) := by
    simpa using Text.cut?_append ':' numbers.toList plain
  rw [deployment_of_name cut (ofName?_eq_some.mpr own), misread.illegible, Option.bind_none,
    if_pos misread.counted, String.ofList_toList]

theorem deployment_eq_error {e : OptionError} (failed : deployment value = .error e) :
    ∃ quoted, e = .invalidValue vbKey quoted ∧ (quoted = value ∨ Misread value quoted) := by
  obtain ⟨-, uncut⟩ | ⟨name, rest, plain, whole, cut⟩ := Text.cut?_cases ':' value.toList
  · simp only [deployment, uncut, Except.error.injEq] at failed
    exact ⟨value, failed.symm, .inl rfl⟩
  · cases known : DeploymentId.ofName? (String.ofList (trim name)) with
    | none =>
      simp only [deployment, cut, known, Except.error.injEq] at failed
      exact ⟨value, failed.symm, .inl rfl⟩
    | some id =>
      rw [deployment_of_name cut known] at failed
      cases given : (numbers? int64? rest).bind update? with
      | some update => simp [given] at failed
      | none =>
        simp only [given, Except.error.injEq] at failed
        refine ⟨_, failed.symm, ?_⟩
        split
        case isFalse => exact .inl rfl
        case isTrue counted =>
          refine .inr ⟨⟨id, String.ofList name, by simpa using plain, ?_, ?_⟩, by simpa, ?_⟩
          · simpa [Text.trimmed] using ofName?_eq_some.mp known
          · rw [← String.toList_inj]
            simpa using whole
          · rw [String.toList_ofList]
            by_contra legible
            obtain ⟨numbers, found⟩ := Option.ne_none_iff_exists'.mp legible
            have fitting := length_numbers? found
            rw [found, Option.bind_some, update?_eq_none] at given
            omega

theorem budget?_eq_some {masternode budget superblock : Int32} :
    budget? value = some ⟨masternode, budget, superblock⟩ ↔
      numbers? int32? value.toList = some [masternode, budget, superblock] := by
  unfold budget?
  split <;> simp_all

theorem dip3?_eq_some {activation enforcement : Int32} :
    dip3? value = some ⟨activation, enforcement⟩ ↔
      numbers? int32? value.toList = some [activation, enforcement] := by
  unfold dip3?
  split <;> simp_all

theorem knob?_eq_some {n : Int32} :
    knob? value = some n ↔ numbers? int32? value.toList = some [n] := by
  by_cases plain : ':' ∈ value.toList
  · have inside : ':' ∈ trim value.toList := Text.mem_trim plain rfl
    refine iff_of_false ?_ ?_
    · intro read
      exact Text.Decimal.colon_notMem_of_integer? (Text.Decimal.int32?_eq_some.mp read) inside
    · intro found
      have counted := length_numbers? found
      have some := List.count_pos_iff.mpr plain
      simp at counted
      omega
  · rw [knob?, numbers?_eq_some, Text.split_of_notMem plain]
    simp

end ChainProfile.NodeOptions
