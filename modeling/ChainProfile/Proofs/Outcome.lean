import ChainProfile.Log.Trace

/-! Outcomes of computations that may fail. A chain of them succeeds when every link does, and the
log that is kept on the way has no part in that. A chain fails with what the first failing link
reports; where the links stand in ascending order that is the least failing one. -/

namespace ChainProfile

theorem bind_eq_ok {ε α β : Type} {x : Except ε α} {next : α → Except ε β} {b : β} :
    (x >>= next) = .ok b ↔ ∃ a, x = .ok a ∧ next a = .ok b := by
  constructor
  · intro h
    cases x with
    | error e => cases h
    | ok a => exact ⟨a, rfl, h⟩
  · rintro ⟨a, rfl, h⟩
    exact h

theorem bind_eq_error {ε α β : Type} {x : Except ε α} {next : α → Except ε β} {e : ε} :
    (x >>= next) = .error e ↔ x = .error e ∨ ∃ a, x = .ok a ∧ next a = .error e := by
  cases x <;> simp [bind, Except.bind]

theorem mapError_eq_ok {ε δ α : Type} {f : ε → δ} {x : Except ε α} {a : α} :
    x.mapError f = .ok a ↔ x = .ok a := by
  constructor
  · intro h
    cases x with
    | error e => cases h
    | ok b =>
      cases h
      rfl
  · rintro rfl
    rfl

theorem map_eq_ok {ε α β : Type} {f : α → β} {x : Except ε α} {b : β} :
    x.map f = .ok b ↔ ∃ a, x = .ok a ∧ b = f a := by
  cases x <;> simp [Except.map, eq_comm]

theorem map_eq_error {ε α β : Type} {f : α → β} {x : Except ε α} {e : ε} :
    x.map f = .error e ↔ x = .error e := by
  cases x <;> simp [Except.map]

theorem exists_eq_error {ε α : Type} {x : Except ε α} (refuted : ∀ a, x ≠ .ok a) :
    ∃ e, x = .error e := by
  cases x with
  | error e => exact ⟨e, rfl⟩
  | ok a => exact absurd rfl (refuted a)

theorem exists_ok_of_any {ε α : Type} {x : Except ε α} {test : α → Bool}
    (passes : x.toOption.any test = true) : ∃ a, x = .ok a ∧ test a = true := by
  cases x with
  | error e => cases passes
  | ok a => exact ⟨a, rfl, passes⟩

theorem isOk_iff {ε α : Type} {x : Except ε α} : x.isOk = true ↔ ∃ a, x = .ok a := by
  cases x <;> simp [Except.isOk, Except.toBool]

theorem discard_eq_ok {ε α : Type} {x : Except ε α} :
    discard x = .ok () ↔ ∃ a, x = .ok a := by
  cases x with
  | error e => exact iff_of_false nofun nofun
  | ok a => exact iff_of_true rfl ⟨a, rfl⟩

theorem discard_eq_error {ε α : Type} {x : Except ε α} {e : ε} :
    discard x = .error e ↔ x = .error e := by
  cases x with
  | error first => constructor <;> intro h <;> cases h <;> rfl
  | ok a => exact iff_of_false nofun nofun

theorem find?_of_mapM_eq_error {ε α β : Type} {f : α → Except ε β} {e : ε} {l : List α}
    (failed : l.mapM f = .error e) :
    ∃ a, l.find? (fun a => !(f a).isOk) = some a ∧ f a = .error e := by
  induction l with
  | nil => cases failed
  | cons a rest ih =>
    simp only [List.mapM_cons, bind_eq_error] at failed
    obtain here | ⟨_, went, later | ⟨_, -, done⟩⟩ := failed
    · exact ⟨a, List.find?_cons_of_pos (by rw [here]; rfl), here⟩
    · rw [List.find?_cons_of_neg (by rw [went]; simp [Except.isOk, Except.toBool])]
      exact ih later
    · cases done

theorem exists_first_iff {α : Type} {key : α → Nat} {l : List α} {P Q : α → Prop}
    (ascending : l.Pairwise fun x y => key x < key y) :
    (∃ before x after, l = before ++ x :: after ∧ P x ∧ ∀ y ∈ before, Q y) ↔
      ∃ x ∈ l, P x ∧ ∀ y ∈ l, key y < key x → Q y := by
  constructor
  · rintro ⟨before, x, after, rfl, here, clean⟩
    refine ⟨x, List.mem_append_right _ List.mem_cons_self, here, ?_⟩
    intro y member below
    obtain early | late := List.mem_append.mp member
    · exact clean y early
    · have upper := (List.pairwise_append.mp ascending).2.1
      obtain rfl | beyond := List.mem_cons.mp late
      · exact absurd below (Nat.lt_irrefl _)
      · exact absurd below (Nat.lt_asymm (List.rel_of_pairwise_cons upper beyond))
  · rintro ⟨x, member, here, clean⟩
    obtain ⟨before, after, rfl⟩ := List.append_of_mem member
    refine ⟨before, x, after, rfl, here, ?_⟩
    intro y early
    have across := (List.pairwise_append.mp ascending).2.2
    exact clean y (List.mem_append_left _ early) (across y early x List.mem_cons_self)

section Checks

variable {ε α β : Type} {first : Except ε Unit} {next : Except ε β} {b : β} {e : ε}

theorem check_bind_eq_ok : (first >>= fun _ => next) = .ok b ↔ first = .ok () ∧ next = .ok b := by
  rw [bind_eq_ok]
  exact ⟨fun ⟨_, passed, after⟩ => ⟨passed, after⟩, fun ⟨passed, after⟩ => ⟨(), passed, after⟩⟩

theorem check_bind_eq_error :
    (first >>= fun _ => next) = .error e ↔ first = .error e ∨ first = .ok () ∧ next = .error e := by
  cases first <;> simp [bind, Except.bind]

variable {check : α → Except ε Unit} {l : List α}

theorem forM_eq_ok : l.forM check = .ok () ↔ ∀ x ∈ l, check x = .ok () := by
  induction l with
  | nil => exact iff_of_true rfl fun _ member => nomatch member
  | cons x rest ih => rw [List.forM, check_bind_eq_ok, List.forall_mem_cons, ih]

theorem forM_eq_error :
    l.forM check = .error e ↔
      ∃ before x after, l = before ++ x :: after ∧ check x = .error e ∧
        ∀ y ∈ before, check y = .ok () := by
  induction l with
  | nil =>
    refine iff_of_false nofun ?_
    rintro ⟨before, x, after, split, -⟩
    cases before <;> cases split
  | cons x rest ih =>
    rw [List.forM, check_bind_eq_error, ih]
    constructor
    · rintro (here | ⟨passed, before, y, after, rfl, there, early⟩)
      · exact ⟨[], x, rest, rfl, here, fun _ member => nomatch member⟩
      · exact ⟨x :: before, y, after, rfl, there, List.forall_mem_cons.mpr ⟨passed, early⟩⟩
    · rintro ⟨before, y, after, split, there, early⟩
      cases before with
      | nil =>
        cases split
        exact .inl there
      | cons first before =>
        cases split
        obtain ⟨passed, early⟩ := List.forall_mem_cons.mp early
        exact .inr ⟨passed, before, y, after, rfl, there, early⟩

end Checks

namespace Logged

variable {ε α β : Type}

@[simp] theorem value_run_pure (a : α) : (pure a : ExceptT ε Logged α).run.value = .ok a := rfl

@[simp] theorem value_run_mk_pure (x : Except ε α) :
    (ExceptT.mk (pure x : Logged (Except ε α))).run.value = x := rfl

@[simp] theorem value_run_lift (x : Logged α) :
    (liftM x : ExceptT ε Logged α).run.value = .ok x.value := rfl

theorem value_run_bind (x : ExceptT ε Logged α) (next : α → ExceptT ε Logged β) :
    (x >>= next).run.value = x.run.value >>= fun a => (next a).run.value := by
  rw [ExceptT.run_bind, value_bind]
  cases x.run.value <;> rfl

theorem run_bind_eq_ok {x : ExceptT ε Logged α} {next : α → ExceptT ε Logged β} {b : β} :
    (x >>= next).run.value = .ok b ↔
      ∃ a, x.run.value = .ok a ∧ (next a).run.value = .ok b := by
  rw [value_run_bind, bind_eq_ok]

end Logged

end ChainProfile
