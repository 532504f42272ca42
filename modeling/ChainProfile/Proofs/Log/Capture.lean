import Mathlib.Data.List.Induction
import ChainProfile.Proofs.Log.Run

/-! What the ring holds. A record is captured if it passes the level in force while the ring records. The
ring holds the newest of the captured records, and loses the oldest of them only when another is
captured and they are more than the capacity in force. So a lowered capacity shows once the next
record is captured, and not before. -/

namespace ChainProfile.Log

open ChainProfile.Log.Logger (InForce fresh)
open ChainProfile.Log.Ring (lastOf length_lastOf)

def capturedBy (past : List Call) : Call → Option Record
  | .act now (.record level target message) =>
    if level.verbosity ≤ (levelIn past).verbosity ∧ recordingIn past then
      some ⟨now.stamp, level, target, tagIn past, message⟩
    else none
  | _ => none

/-- The records that calls give the ring, oldest first, after the calls before them. -/
def capturedFrom (past : List Call) : List Call → List Record
  | [] => []
  | call :: later => (capturedBy past call).toList ++ capturedFrom (past ++ [call]) later

def captured (calls : List Call) : List Record := capturedFrom [] calls

variable {past later calls : List Call} {call : Call} {record : Record} {l : Logger} {n : Nat}

theorem capturedFrom_append (past first second : List Call) :
    capturedFrom past (first ++ second) =
      capturedFrom past first ++ capturedFrom (past ++ first) second := by
  induction first generalizing past with
  | nil => rw [List.append_nil]; rfl
  | cons call first ih =>
    rw [List.cons_append, capturedFrom, capturedFrom, ih, List.append_assoc, List.append_assoc]
    rfl

theorem captured_concat (calls : List Call) (call : Call) :
    captured (calls ++ [call]) = captured calls ++ (capturedBy calls call).toList := by
  rw [captured, capturedFrom_append, capturedFrom, capturedFrom, List.append_nil]
  rfl

theorem length_newest (limit : Nat) (r : Ring) :
    (r.newest limit).length = min limit r.records.length :=
  length_lastOf limit r.records

theorem length_newest_le_records (limit : Nat) (r : Ring) :
    (r.newest limit).length ≤ r.records.length := by
  rw [length_newest]
  exact Nat.min_le_right _ _

theorem lastOf_suffix {α : Type} (n : Nat) (xs : List α) : lastOf n xs <:+ xs :=
  List.drop_suffix _ xs

theorem records_after (force : InForce past l) (call : Call) :
    (l.after call).ring.records =
      match capturedBy past call with
      | some record => lastOf (capacityIn past) (l.ring.records ++ [record])
      | none => l.ring.records := by
  obtain ⟨level, tag, recording, capacity⟩ := force
  rcases call with ⟨now, _ | _ | _⟩ | _ | capacity | _
  case act.record =>
    rw [Logger.after, Logger.perform, Logger.log_eq, capturedBy, ← level, ← tag, ← recording,
      ← capacity]
    simp only [Logger.enabled, decide_eq_true_eq]
    split <;> rfl
  case capture =>
    rw [Logger.after, Ring.enable]
    split <;> rfl
  all_goals rfl

theorem records_after_of_captured (force : InForce past l)
    (captures : capturedBy past call = some record) :
    (l.after call).ring.records = lastOf (capacityIn past) (l.ring.records ++ [record]) := by
  rw [records_after force, captures]

theorem records_after_of_silent (force : InForce past l) (silent : capturedBy past call = none) :
    (l.after call).ring.records = l.ring.records := by
  rw [records_after force, silent]

theorem length_records_after (force : InForce past l)
    (captures : capturedBy past call = some record) :
    (l.after call).ring.records.length = min (l.ring.records.length + 1) (capacityIn past) := by
  rw [records_after_of_captured force captures, length_lastOf, List.length_append, Nat.min_comm]
  rfl

theorem capacityIn_pos (on : recordingIn calls = true) : 0 < capacityIn calls := by
  induction calls using List.reverseRecOn with
  | nil => cases on
  | append_singleton calls call ih =>
    rw [recordingIn, latest_concat, Option.getD_or] at on
    rw [capacityIn, latest_concat, Option.getD_or]
    rcases call with ⟨now, action⟩ | _ | capacity | _
    case capture =>
      have some : capacity ≠ 0 := of_decide_eq_true on
      simp only [Call.capacity?, if_neg some, Option.getD_some]
      exact Nat.pos_of_ne_zero some
    case release => cases on
    all_goals exact ih on

theorem capacityIn_pos_of_captured (captures : capturedBy calls call = some record) :
    0 < capacityIn calls := by
  unfold capturedBy at captures
  split at captures
  · split at captures
    · rename_i passes
      exact capacityIn_pos passes.2
    · cases captures
  · cases captures

theorem getLast?_lastOf_concat {α : Type} {n : Nat} (some : 0 < n) (xs : List α) (x : α) :
    (lastOf n (xs ++ [x])).getLast? = .some x := by
  rw [lastOf, List.getLast?_drop, if_neg, List.getLast?_concat]
  rw [List.length_append, List.length_singleton]
  omega

theorem run_split (before : List Call) (call : Call) (later : List Call) :
    fresh.run (before ++ call :: later) = ((fresh.run before).after call).run later :=
  Logger.run_append before (call :: later) fresh

theorem run_concat (calls : List Call) (call : Call) :
    fresh.run (calls ++ [call]) = (fresh.run calls).after call :=
  run_split calls call []

theorem records_suffix (calls : List Call) : (fresh.run calls).ring.records <:+ captured calls := by
  induction calls using List.reverseRecOn with
  | nil => exact List.suffix_refl []
  | append_singleton calls call ih =>
    rw [run_concat, captured_concat, records_after (Logger.inForce_run_fresh calls)]
    cases capturedBy calls call with
    | none =>
      rw [Option.toList_none, List.append_nil]
      exact ih
    | some record =>
      obtain ⟨lost, whole⟩ := ih
      refine (lastOf_suffix _ _).trans ⟨lost, ?_⟩
      rw [← List.append_assoc, whole]
      rfl

/-- Nothing is lost but the oldest records. Those that the ring holds end the row of captured records. A
captured record joins them as the last, and of the oldest as many go as the capacity in force asks. A
call that captures none leaves them as they are, and what is shown are the last of them. -/
theorem records_newest_captured (calls : List Call) :
    (fresh.run calls).ring.records <:+ captured calls ∧
    (∀ call,
      match capturedBy calls call with
      | some record =>
        (fresh.run (calls ++ [call])).ring.records.getLast? = some record ∧
          (fresh.run (calls ++ [call])).ring.records.length =
            min ((fresh.run calls).ring.records.length + 1) (capacityIn calls)
      | none => (fresh.run (calls ++ [call])).ring.records = (fresh.run calls).ring.records) ∧
    ∀ limit, (fresh.run calls).ring.newest limit <:+ (fresh.run calls).ring.records ∧
      ((fresh.run calls).ring.newest limit).length =
        min limit (fresh.run calls).ring.records.length := by
  have force := Logger.inForce_run_fresh calls
  refine ⟨records_suffix calls, ?_, fun limit => ⟨lastOf_suffix _ _, length_newest _ _⟩⟩
  intro call
  rw [run_concat]
  split
  · rename_i record captures
    refine ⟨?_, length_records_after force captures⟩
    rw [records_after_of_captured force captures]
    exact getLast?_lastOf_concat (capacityIn_pos_of_captured captures) _ _
  · rename_i silent
    exact records_after_of_silent force silent

theorem records_run_of_silent (force : InForce past l) (silent : capturedFrom past later = []) :
    (l.run later).ring.records = l.ring.records := by
  induction later generalizing past l with
  | nil => rfl
  | cons call later ih =>
    obtain ⟨first, rest⟩ := List.append_eq_nil_iff.mp silent
    have here := records_after_of_silent force (Option.toList_eq_nil_iff.mp first)
    exact (ih (force.after call) rest).trans here

theorem length_records_run_le (force : InForce past l) (capacity : capacityIn past = n)
    (kept : ∀ call ∈ later, call.capacity? = none)
    (bounded : capturedFrom past later ≠ [] ∨ l.ring.records.length ≤ n) :
    (l.run later).ring.records.length ≤ n := by
  induction later generalizing past l with
  | nil => exact bounded.resolve_left (absurd rfl)
  | cons call later ih =>
    obtain ⟨here, onward⟩ := List.forall_mem_cons.mp kept
    have same : capacityIn (past ++ [call]) = n := by
      rw [capacityIn, latest_concat, here, Option.none_or, ← capacityIn, capacity]
    refine ih (force.after call) same onward ?_
    cases captures : capturedBy past call with
    | some record =>
      rw [length_records_after force captures, capacity]
      exact .inr (Nat.min_le_right _ _)
    | none =>
      rw [records_after_of_silent force captures]
      rwa [capturedFrom, captures, Option.toList_none, List.nil_append] at bounded

theorem capacityIn_capture (before : List Call) (some : n ≠ 0) :
    capacityIn (before ++ [.capture n]) = n := by
  rw [capacityIn, latest_concat, Call.capacity?, if_neg some]
  rfl

theorem newest_le_capacity_iff (before : List Call) (some : n ≠ 0)
    (last : ∀ call ∈ later, call.capacity? = none) :
    (∀ limit, ((fresh.run (before ++ .capture n :: later)).ring.newest limit).length ≤ n) ↔
      capturedFrom (before ++ [.capture n]) later ≠ [] ∨
        (fresh.run before).ring.records.length ≤ n := by
  have start := Logger.inForce_run_fresh before
  have force := start.after (.capture n)
  have same : ((fresh.run before).after (.capture n)).ring.records =
      (fresh.run before).ring.records := records_after_of_silent start rfl
  rw [run_split]
  constructor
  · intro bounded
    by_cases silent : capturedFrom (before ++ [.capture n]) later = []
    · have all := bounded (fresh.run before).ring.records.length
      rw [length_newest, records_run_of_silent force silent, same, Nat.min_self] at all
      exact .inr all
    · exact .inl silent
  · intro bounded limit
    rw [← same] at bounded
    exact Nat.le_trans (length_newest_le_records limit _)
      (length_records_run_le force (capacityIn_capture before some) last bounded)

theorem newest_le_capacityIn (before : List Call) (limit : Nat)
    (captures : capturedBy before call = some record)
    (silent : capturedFrom (before ++ [call]) later = []) :
    ((fresh.run (before ++ call :: later)).ring.newest limit).length ≤ capacityIn before := by
  have force := Logger.inForce_run_fresh before
  have held := length_records_after force captures
  rw [run_split]
  refine Nat.le_trans (length_newest_le_records limit _) ?_
  rw [records_run_of_silent (force.after call) silent, held]
  exact Nat.min_le_right _ _

/-- What is shown is bounded by the capacity that the latest captured record met. The capacity last given
bounds it exactly if a record has been captured since, or if the ring held no more before. -/
theorem length_newest_le :
    (∀ calls limit, captured calls = [] → (fresh.run calls).ring.newest limit = []) ∧
    (∀ before call later limit,
      (capturedBy before call).isSome → capturedFrom (before ++ [call]) later = [] →
        ((fresh.run (before ++ call :: later)).ring.newest limit).length ≤ capacityIn before) ∧
    ∀ before n later, n ≠ 0 → (∀ call ∈ later, call.capacity? = none) →
      ((∀ limit, ((fresh.run (before ++ .capture n :: later)).ring.newest limit).length ≤ n) ↔
        capturedFrom (before ++ [.capture n]) later ≠ [] ∨
          (fresh.run before).ring.records.length ≤ n) := by
  refine ⟨?_, ?_, fun before n later => newest_le_capacity_iff before⟩
  · intro calls limit silent
    rw [Ring.newest, records_run_of_silent Logger.inForce_nil silent]
    exact List.drop_nil
  · intro before call later limit captures silent
    obtain ⟨record, captures⟩ := Option.isSome_iff_exists.mp captures
    exact newest_le_capacityIn before limit captures silent

def note (message : String) : Call := .act .epoch (.record .info "node" message)

theorem length_newest_le_lowered :
    captured [note "none"] = [] ∧ (fresh.run [note "none"]).ring.newest 10 = [] ∧
      capacityIn [.capture 2, note "first"] = 2 ∧
      ((fresh.run ([.capture 2, note "first"] ++ note "second" :: [.capture 1])).ring.newest
        10).length ≤ capacityIn [.capture 2, note "first"] ∧
      ∀ limit, ((fresh.run ([.capture 2, note "first", note "second"] ++
        .capture 1 :: [note "third", .release])).ring.newest limit).length ≤ 1 := by
  have before : captured [note "none"] = [] := by decide
  have lowered : capturedFrom ([.capture 2, note "first", note "second"] ++ [.capture 1])
      [note "third", .release] ≠ [] := by decide
  refine ⟨before, length_newest_le.1 _ 10 before, by decide, ?_, ?_⟩
  · exact length_newest_le.2.1 _ _ _ 10 (by decide) (by decide)
  · exact (length_newest_le.2.2 _ 1 _ (by decide) (by decide)).mpr (.inl lowered)

/-- Lowering the capacity drops nothing, so until the next record more are shown. -/
theorem capacityIn_lt_length_newest :
    capacityIn [.capture 2, note "first", note "second", .capture 1] = 1 ∧
      ((fresh.run [.capture 2, note "first", note "second", .capture 1]).ring.newest
        10).length = 2 := by
  decide

end ChainProfile.Log
