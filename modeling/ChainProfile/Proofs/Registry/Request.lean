import ChainProfile.Registry

/-! What one request does to a registry. It is either refused, and then the registry is as it was,
or granted, and then `Grants` says what the registry has become. Everything else about runs is
derived from these two cases, as is the row of requests that stops at the first refusal. -/

namespace ChainProfile.Registry

namespace Step

variable {ε α β : Type}

theorem andThen_of_error {s : Step ε α} {f : α → Registry → Step ε β} {e : ε}
    (failed : s.result = .error e) :
    (s.andThen f).result = .error e ∧ (s.andThen f).registry = s.registry := by
  simp [andThen, failed]

theorem andThen_of_ok {s : Step ε α} {f : α → Registry → Step ε β} {a : α}
    (went : s.result = .ok a) :
    (s.andThen f).result = (f a s.registry).result ∧
      (s.andThen f).registry = (f a s.registry).registry := by
  simp [andThen, went]

theorem result_void (s : Step ε α) : s.void.result = s.result.map fun _ => () := rfl

end Step

variable {r : Registry} {n : Network} {p : Profile} {o : Override} {name : String}

theorem profile_eq_error {e : ProfileError} :
    r.profile n = .error e ↔ n = .devnet ∧ r.devnet = none ∧ e = .devnetNotSelected := by
  cases n with
  | devnet => cases h : r.devnet <;> simp [profile, h, eq_comm]
  | _ => simp [profile]

theorem profile_devnet : r.profile .devnet = .ok p ↔ r.devnet = some p := by
  cases h : r.devnet <;> simp [profile, h]

theorem profile_of_ne {s : Registry} (found : s.profile n = .ok p) (other : n ≠ .devnet)
    (main : s.mainnet = r.mainnet) (test : s.testnet = r.testnet)
    (regtest : s.regtest = r.regtest) : r.profile n = .ok p := by
  rw [← found]
  cases n with
  | devnet => exact absurd rfl other
  | _ => simp only [profile, main, test, regtest]

theorem profile_replace (o : Override) (q : Profile) (n : Network) :
    (r.replace o q).profile n = if n = o.network then .ok q else r.profile n := by
  cases o <;> cases n <;> rfl

theorem buildDevnet_of_error {e : ProfileError}
    (failed : (Profile.build .devnet r.hasher name).run.value = .error e) :
    (r.buildDevnet name).result = .error e ∧ (r.buildDevnet name).registry = r := by
  unfold buildDevnet
  simp only [failed, and_self]

theorem buildDevnet_of_ok (built : (Profile.build .devnet r.hasher name).run.value = .ok p) :
    (r.buildDevnet name).result = .ok () ∧
      (r.buildDevnet name).registry = { r with devnet := some p } := by
  unfold buildDevnet
  simp only [built, and_self]

theorem setDevnetName_of_running (running : r.phase = .running) :
    (r.setDevnetName name).result = .error (.notInSetup .devnetRename) ∧
      (r.setDevnetName name).registry = r := by
  simp [setDevnetName, running, Step.refused]

theorem setDevnetName_of_same (setup : r.phase ≠ .running)
    (same : r.devnetName = Text.trimmed name) :
    (r.setDevnetName name).result = .ok () ∧ (r.setDevnetName name).registry = r := by
  simp [setDevnetName, setup, same, Step.done]

theorem setDevnetName_of_inactive (setup : r.phase ≠ .running)
    (new : r.devnetName ≠ Text.trimmed name) (inactive : r.active ≠ some .devnet) :
    (r.setDevnetName name).result = .ok () ∧
      (r.setDevnetName name).registry =
        { r with devnet := none, devnetName := Text.trimmed name } := by
  simp [setDevnetName, setup, new, inactive, Step.done]

theorem setDevnetName_of_active (setup : r.phase ≠ .running)
    (new : r.devnetName ≠ Text.trimmed name) (active : r.active = some .devnet) :
    r.setDevnetName name = (r.buildDevnet (Text.trimmed name)).andThen fun _ s =>
      .done { s with devnetName := Text.trimmed name } () := by
  simp [setDevnetName, setup, new, active]

theorem setDevnetName_of_error {e : ProfileError} (setup : r.phase ≠ .running)
    (new : r.devnetName ≠ Text.trimmed name) (active : r.active = some .devnet)
    (failed : (Profile.build .devnet r.hasher (Text.trimmed name)).run.value = .error e) :
    (r.setDevnetName name).result = .error e ∧ (r.setDevnetName name).registry = r := by
  have stopped := buildDevnet_of_error failed
  rw [setDevnetName_of_active setup new active]
  simp only [Step.andThen, stopped, and_self]

theorem setDevnetName_of_ok (setup : r.phase ≠ .running)
    (new : r.devnetName ≠ Text.trimmed name) (active : r.active = some .devnet)
    (built : (Profile.build .devnet r.hasher (Text.trimmed name)).run.value = .ok p) :
    (r.setDevnetName name).result = .ok () ∧
      (r.setDevnetName name).registry =
        { r with devnet := some p, devnetName := Text.trimmed name } := by
  have grown := buildDevnet_of_ok built
  rw [setDevnetName_of_active setup new active]
  simp only [Step.andThen, grown, Step.done, and_self]

theorem select_of_running (running : r.phase = .running) (other : r.active ≠ some n) :
    (r.select n).result = .error (.notInSetup .networkSelection) ∧ (r.select n).registry = r := by
  simp [select, running, other, Step.refused]

theorem activate_spec :
    (r.activate n p).result = .ok p ∧ (r.activate n p).registry = { r with active := some n } := by
  by_cases same : r.active = some n
  · rw [activate, if_pos same, ← same]
    exact ⟨rfl, rfl⟩
  · rw [activate, if_neg same]
    exact ⟨rfl, rfl⟩

theorem select_of_free (free : r.phase = .running → r.active = some n) :
    r.select n = (r.ensureBuilt n).andThen fun _ s =>
      match s.profile n with
      | .error e => .refused s e
      | .ok p => s.activate n p := by
  have passes : ¬ (r.phase = .running ∧ r.active ≠ some n) := fun h => h.2 (free h.1)
  exact if_neg passes

theorem ensureBuilt_of_profile (found : r.profile n = .ok p) : r.ensureBuilt n = .done r () := by
  rw [ensureBuilt, if_neg]
  rintro ⟨rfl, missing⟩
  rw [profile_devnet.mp found] at missing
  cases missing

theorem ensureBuilt_of_missing (missing : r.devnet = none) :
    r.ensureBuilt .devnet = r.buildDevnet r.devnetName := by
  simp [ensureBuilt, missing]

theorem select_of_profile (free : r.phase = .running → r.active = some n)
    (found : r.profile n = .ok p) :
    (r.select n).result = .ok p ∧ (r.select n).registry = { r with active := some n } := by
  have ended := activate_spec (r := r) (n := n) (p := p)
  rw [select_of_free free, ensureBuilt_of_profile found]
  simp only [Step.andThen, Step.done, found, ended, and_self]

theorem select_devnet_of_error {e : ProfileError}
    (free : r.phase = .running → r.active = some .devnet) (missing : r.devnet = none)
    (failed : (Profile.build .devnet r.hasher r.devnetName).run.value = .error e) :
    (r.select .devnet).result = .error e ∧ (r.select .devnet).registry = r := by
  have stopped := buildDevnet_of_error failed
  rw [select_of_free free, ensureBuilt_of_missing missing]
  simp only [Step.andThen, stopped, and_self]

theorem select_devnet_of_ok (free : r.phase = .running → r.active = some .devnet)
    (missing : r.devnet = none)
    (built : (Profile.build .devnet r.hasher r.devnetName).run.value = .ok p) :
    (r.select .devnet).result = .ok p ∧
      (r.select .devnet).registry = { r with devnet := some p, active := some .devnet } := by
  have grown := buildDevnet_of_ok built
  have ended := activate_spec (r := { r with devnet := some p }) (n := .devnet) (p := p)
  rw [select_of_free free, ensureBuilt_of_missing missing]
  simp only [Step.andThen, grown, profile, ended, and_self]

theorem freeze_of_error {e : ProfileError} (none : r.activeProfile = .error e) :
    r.freeze.result = .error e ∧ r.freeze.registry = r := by
  simp only [freeze, none, Step.refused, and_self]

theorem freeze_of_ok (found : r.activeProfile = .ok p) :
    r.freeze.result = .ok p ∧ r.freeze.registry = { r with phase := .running } := by
  by_cases running : r.phase = .running
  · have kept : { r with phase := .running } = r := by rw [← running]
    simp only [freeze, found, if_pos running, Step.done, kept, and_self]
  · simp only [freeze, found, if_neg running, and_self]

theorem override_of_running (running : r.phase = .running) :
    (r.override o).result = .error (.notInSetup o.operation) ∧ (r.override o).registry = r := by
  simp [override, running, Step.refused]

theorem override_of_missing {e : ProfileError} (setup : r.phase ≠ .running)
    (missing : r.profile o.network = .error e) :
    (r.override o).result = .error e ∧ (r.override o).registry = r := by
  simp only [override, if_neg setup, missing, Step.refused, and_self]

theorem override_of_error {e : ProfileError} (setup : r.phase ≠ .running)
    (found : r.profile o.network = .ok p) (failed : o.apply p = .error e) :
    (r.override o).result = .error e ∧ (r.override o).registry = r := by
  simp only [override, if_neg setup, found, Override.value_run, failed, and_self]

theorem override_of_ok {q : Profile} (setup : r.phase ≠ .running)
    (found : r.profile o.network = .ok p) (taken : o.apply p = .ok q) :
    (r.override o).result = .ok () ∧ (r.override o).registry = r.replace o q := by
  simp only [override, if_neg setup, found, Override.value_run, taken, and_self]

def Request.Selects (q : Request) (n : Network) : Prop :=
  match q with
  | .select m => m = n
  | .selectToken token => Network.ofToken? token = some n
  | _ => False

/-- What a registry becomes by a request that is granted. -/
inductive Grants (r : Registry) : Request → Registry → Prop
  | keepName {name : String} (setup : r.phase ≠ .running)
      (same : r.devnetName = Text.trimmed name) : Grants r (.setDevnetName name) r
  | dropDevnet {name : String} (setup : r.phase ≠ .running)
      (new : r.devnetName ≠ Text.trimmed name) (inactive : r.active ≠ some .devnet) :
      Grants r (.setDevnetName name) { r with devnet := none, devnetName := Text.trimmed name }
  | rebuildDevnet {name : String} {p : Profile} (setup : r.phase ≠ .running)
      (new : r.devnetName ≠ Text.trimmed name) (active : r.active = some .devnet)
      (built : (Profile.build .devnet r.hasher (Text.trimmed name)).run.value = .ok p) :
      Grants r (.setDevnetName name) { r with devnet := some p, devnetName := Text.trimmed name }
  | select {q : Request} {n : Network} {p : Profile} (asked : q.Selects n)
      (free : r.phase = .running → r.active = some n) (found : r.profile n = .ok p) :
      Grants r q { r with active := some n }
  | buildAndSelect {q : Request} {p : Profile} (asked : q.Selects .devnet)
      (free : r.phase = .running → r.active = some .devnet) (missing : r.devnet = none)
      (built : (Profile.build .devnet r.hasher r.devnetName).run.value = .ok p) :
      Grants r q { r with devnet := some p, active := some .devnet }
  | freeze {p : Profile} (found : r.activeProfile = .ok p) :
      Grants r .freeze { r with phase := .running }
  | override {o : Override} {p q : Profile} (setup : r.phase ≠ .running)
      (found : r.profile o.network = .ok p) (taken : o.apply p = .ok q) :
      Grants r (.override o) (r.replace o q)

namespace Grants

variable {q : Request} {r' : Registry}

theorem fixed (grants : r.Grants q r') :
    r'.hasher = r.hasher ∧ r'.mainnet = r.mainnet ∧ r'.testnet = r.testnet := by
  cases grants with
  | override setup found taken =>
    rename_i o _ _
    cases o <;> exact ⟨rfl, rfl, rfl⟩
  | _ => exact ⟨rfl, rfl, rfl⟩

theorem profile (grants : r.Grants q r') (found : r'.profile n = .ok p) :
    r.profile n = .ok p ∨
      (n = .devnet ∧ ∃ name, (Profile.build .devnet r.hasher name).run.value = .ok p) ∨
      ∃ (o : Override) (old : Profile),
        n = o.network ∧ r.profile n = .ok old ∧ o.apply old = .ok p := by
  cases grants with
  | keepName setup same => exact .inl found
  | dropDevnet setup new inactive =>
    by_cases dev : n = .devnet
    · subst dev
      cases found
    · exact .inl (profile_of_ne found dev rfl rfl rfl)
  | rebuildDevnet setup new active built =>
    by_cases dev : n = .devnet
    · subst dev
      cases profile_devnet.mp found
      exact .inr (.inl ⟨rfl, _, built⟩)
    · exact .inl (profile_of_ne found dev rfl rfl rfl)
  | select asked free there =>
    cases n <;> exact .inl found
  | buildAndSelect asked free missing built =>
    by_cases dev : n = .devnet
    · subst dev
      cases profile_devnet.mp found
      exact .inr (.inl ⟨rfl, _, built⟩)
    · exact .inl (profile_of_ne found dev rfl rfl rfl)
  | freeze there =>
    cases n <;> exact .inl found
  | override setup there taken =>
    rename_i o old new
    rw [profile_replace] at found
    by_cases own : n = o.network
    · rw [if_pos own] at found
      cases found
      rw [← own] at there
      exact .inr (.inr ⟨o, old, own, there, taken⟩)
    · rw [if_neg own] at found
      exact .inl found

theorem setup_of_rename {name : String} (grants : r.Grants (.setDevnetName name) r') :
    r'.phase ≠ .running := by
  cases grants with
  | keepName setup same => exact setup
  | dropDevnet setup new inactive => exact setup
  | rebuildDevnet setup new active built => exact setup
  | select selects free found => cases selects
  | buildAndSelect selects free missing built => cases selects

end Grants

/-- Refused without a trace, or granted. -/
def Step.Settles {α : Type} (s : Step ProfileError α) (r : Registry) (q : Request) : Prop :=
  (∃ e, s.result = .error e ∧ s.registry = r) ∨ ((∃ a, s.result = .ok a) ∧ r.Grants q s.registry)

namespace Step.Settles

variable {α : Type} {s : Step ProfileError α} {q : Request}

theorem refused {e : ProfileError} (ended : s.result = .error e ∧ s.registry = r) :
    s.Settles r q := .inl ⟨e, ended⟩

theorem granted {a : α} {r' : Registry} (ended : s.result = .ok a ∧ s.registry = r')
    (grants : r.Grants q r') : s.Settles r q := by
  refine .inr ⟨⟨a, ended.1⟩, ?_⟩
  rw [ended.2]
  exact grants

theorem void (settles : s.Settles r q) : s.void.Settles r q := by
  obtain ⟨e, failed, kept⟩ | ⟨⟨a, went⟩, grants⟩ := settles
  · refine refused (e := e) ⟨?_, kept⟩
    rw [result_void, failed]
    rfl
  · refine granted (a := ()) ⟨?_, rfl⟩ grants
    rw [result_void, went]
    rfl

end Step.Settles

theorem setDevnetName_settles : (r.setDevnetName name).Settles r (.setDevnetName name) := by
  by_cases running : r.phase = .running
  · exact .refused (setDevnetName_of_running running)
  by_cases same : r.devnetName = Text.trimmed name
  · exact .granted (setDevnetName_of_same running same) (.keepName running same)
  by_cases active : r.active = some .devnet
  · cases built : (Profile.build .devnet r.hasher (Text.trimmed name)).run.value with
    | error e => exact .refused (setDevnetName_of_error running same active built)
    | ok p =>
      exact .granted (setDevnetName_of_ok running same active built)
        (.rebuildDevnet running same active built)
  · exact .granted (setDevnetName_of_inactive running same active)
      (.dropDevnet running same active)

theorem select_settles {q : Request} (asked : q.Selects n) : (r.select n).Settles r q := by
  by_cases free : r.phase = .running → r.active = some n
  · cases found : r.profile n with
    | ok p => exact .granted (select_of_profile free found) (.select asked free found)
    | error e =>
      obtain ⟨rfl, missing, _⟩ := profile_eq_error.mp found
      cases built : (Profile.build .devnet r.hasher r.devnetName).run.value with
      | error cause => exact .refused (select_devnet_of_error free missing built)
      | ok p =>
        exact .granted (select_devnet_of_ok free missing built)
          (.buildAndSelect asked free missing built)
  · obtain ⟨running, other⟩ := Classical.not_imp.mp free
    exact .refused (select_of_running running other)

theorem selectToken_of_unknown {token : String} (unknown : Network.ofToken? token = none) :
    (r.selectToken token).result = .error (.unknownNetwork token) ∧
      (r.selectToken token).registry = r := by
  simp only [selectToken, networkOf, unknown, Step.refused, and_self]

theorem selectToken_of_known {token : String} (known : Network.ofToken? token = some n) :
    r.selectToken token = r.select n := by
  simp only [selectToken, networkOf, known]

theorem selectToken_settles {token : String} :
    (r.selectToken token).Settles r (.selectToken token) := by
  cases known : Network.ofToken? token with
  | none => exact .refused (selectToken_of_unknown known)
  | some m =>
    rw [selectToken_of_known known]
    exact select_settles known

theorem perform_of_selects {q : Request} (asked : q.Selects n) :
    r.perform q = (r.select n).void := by
  cases q with
  | select m =>
    cases asked
    rfl
  | selectToken token => rw [perform, selectToken_of_known asked]
  | _ => cases asked

theorem freeze_settles : r.freeze.Settles r .freeze := by
  cases found : r.activeProfile with
  | error e => exact .refused (freeze_of_error found)
  | ok p => exact .granted (freeze_of_ok found) (.freeze found)

theorem override_settles : (r.override o).Settles r (.override o) := by
  by_cases running : r.phase = .running
  · exact .refused (override_of_running running)
  cases found : r.profile o.network with
  | error e => exact .refused (override_of_missing running found)
  | ok p =>
    cases taken : o.apply p with
    | error e => exact .refused (override_of_error running found taken)
    | ok q =>
      exact .granted (override_of_ok running found taken) (.override running found taken)

theorem perform_settles (q : Request) : (r.perform q).Settles r q := by
  cases q with
  | setDevnetName name => exact setDevnetName_settles
  | select n => exact (select_settles (q := .select n) rfl).void
  | selectToken token => exact selectToken_settles.void
  | freeze => exact freeze_settles.void
  | override o => exact override_settles

theorem perform_of_error {q : Request} {e : ProfileError}
    (failed : (r.perform q).result = .error e) : (r.perform q).registry = r := by
  obtain ⟨_, _, kept⟩ | ⟨⟨_, went⟩, _⟩ := perform_settles (r := r) q
  · exact kept
  · rw [failed] at went
    cases went

theorem grants_of_perform {q : Request} (went : (r.perform q).result = .ok ()) :
    r.Grants q (r.perform q).registry := by
  obtain ⟨_, failed, _⟩ | ⟨_, grants⟩ := perform_settles (r := r) q
  · rw [went] at failed
    cases failed
  · exact grants

theorem Grants.perform {q : Request} {r' : Registry} (grants : r.Grants q r') :
    (r.perform q).registry = r' := by
  cases grants with
  | keepName setup same => exact (setDevnetName_of_same setup same).2
  | dropDevnet setup new inactive => exact (setDevnetName_of_inactive setup new inactive).2
  | rebuildDevnet setup new active built => exact (setDevnetName_of_ok setup new active built).2
  | select asked free found =>
    rw [perform_of_selects asked]
    exact (select_of_profile free found).2
  | buildAndSelect asked free missing built =>
    rw [perform_of_selects asked]
    exact (select_devnet_of_ok free missing built).2
  | freeze found => exact (freeze_of_ok found).2
  | override setup found taken => exact (override_of_ok setup found taken).2

theorem perform_select_of_setup {n : Network} (setup : r.phase ≠ .running) (fixed : n ≠ .devnet) :
    (r.perform (.select n)).result = .ok () := by
  cases found : r.profile n with
  | error e => exact absurd (profile_eq_error.mp found).1 fixed
  | ok p =>
    have selected := select_of_profile (fun running => absurd running setup) found
    rw [perform, Step.result_void, selected.1]
    rfl

theorem performAll_cons_of_ok {r : Registry} {q : Request} (qs : List Request)
    (went : (r.perform q).result = .ok ()) :
    (r.performAll (q :: qs)).result = ((r.perform q).registry.performAll qs).result ∧
      (r.performAll (q :: qs)).registry = ((r.perform q).registry.performAll qs).registry := by
  rw [performAll]
  exact Step.andThen_of_ok went

theorem performAll_cons_of_error {r : Registry} {q : Request} {e : ProfileError}
    (qs : List Request) (failed : (r.perform q).result = .error e) :
    (r.performAll (q :: qs)).result = .error e ∧ (r.performAll (q :: qs)).registry = r := by
  have stopped := Step.andThen_of_error (f := fun (_ : Unit) s => s.performAll qs) failed
  rw [performAll, stopped.1, stopped.2]
  exact ⟨rfl, perform_of_error failed⟩

theorem performAll_cons_of_granted {r : Registry} {q : Request} {qs : List Request}
    (went : (r.performAll (q :: qs)).result = .ok ()) :
    (r.perform q).result = .ok () ∧ ((r.perform q).registry.performAll qs).result = .ok () ∧
      (r.performAll (q :: qs)).registry = ((r.perform q).registry.performAll qs).registry := by
  cases here : (r.perform q).result with
  | error e =>
    rw [(performAll_cons_of_error qs here).1] at went
    cases went
  | ok _ =>
    have onward := performAll_cons_of_ok qs here
    exact ⟨rfl, onward.1.symm.trans went, onward.2⟩

theorem performAll_append_of_granted {r : Registry} {first second : List Request}
    (went : (r.performAll (first ++ second)).result = .ok ()) :
    (r.performAll first).result = .ok () ∧
      ((r.performAll first).registry.performAll second).result = .ok () ∧
      (r.performAll (first ++ second)).registry =
        ((r.performAll first).registry.performAll second).registry := by
  induction first generalizing r with
  | nil => exact ⟨rfl, went, rfl⟩
  | cons q rest ih =>
    rw [List.cons_append] at went ⊢
    obtain ⟨here, onward, whole⟩ := performAll_cons_of_granted went
    have before := performAll_cons_of_ok rest here
    rw [whole, before.1, before.2]
    exact ih onward

theorem performAll_of_error {qs : List Request} {e : ProfileError} {r : Registry}
    (failed : (r.performAll qs).result = .error e) :
    ∃ done q rest, qs = done ++ q :: rest ∧ (r.performAll done).result = .ok () ∧
      ((r.performAll done).registry.perform q).result = .error e ∧
      (r.performAll qs).registry = (r.performAll done).registry := by
  induction qs generalizing r with
  | nil => cases failed
  | cons q qs ih =>
    cases went : (r.perform q).result with
    | error cause =>
      have stopped := performAll_cons_of_error qs went
      rw [stopped.1] at failed
      cases failed
      exact ⟨[], q, qs, rfl, rfl, went, stopped.2⟩
    | ok _ =>
      have onward := performAll_cons_of_ok qs went
      rw [onward.1] at failed
      obtain ⟨done, p, rest, rfl, passed, refused, same⟩ := ih failed
      have before := performAll_cons_of_ok done went
      refine ⟨q :: done, p, rest, rfl, ?_, ?_, ?_⟩
      · rw [before.1, passed]
      · rw [before.2, refused]
      · rw [onward.2, before.2, same]

end ChainProfile.Registry
