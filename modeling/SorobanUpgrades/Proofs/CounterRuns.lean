/-
Module: SorobanUpgrades.Proofs.CounterRuns
Purpose: The counter contract over whole runs of calls, upgrades and downgrades: it
  counts every increment that it answered, converts its storage unnoticed, and is
  controlled by its administrator.
Trusted boundary: human-reviewed spec
Main exports: Counter.Change, counter_counts, migration_is_invisible, counter_control
-/
import SorobanUpgrades.Proofs.CounterStorage

namespace SorobanUpgrades

open Transaction

namespace Counter

variable {Val Address Hash : Type}

/-! ### What one call changes -/

section Changes

variable [DecidableEq Address] {uploaded : Hash → Option CounterRelease}
  {signers : Address → Bool} {operator : Address} {counter next : Counter Address Hash}
  {signed : Signed Address (CounterCall Address Hash)} {response : CounterResponse}

/-- An answered `increment` counts. -/
def increments (signed : Signed Address (CounterCall Address Hash)) (_ : CounterResponse) : ℕ :=
  match signed.call with
  | .increment => 1
  | _ => 0

theorem checkedIncrement_eq_ok_iff {value following : UInt32} :
    checkedIncrement value = .ok following ↔ following.toNat = value.toNat + 1 := by
  rw [checkedIncrement]
  have bound := following.toNat_lt
  by_cases small : value.toNat + 1 < UInt32.size
  · rw [if_pos small, Except.ok.injEq, ← UInt32.toNat_inj, UInt32.toNat_add]
    simp only [UInt32.size] at small
    have sum : (value.toNat + (1 : UInt32).toNat) % 2 ^ 32 = value.toNat + 1 :=
      Nat.mod_eq_of_lt small
    rw [sum, eq_comm]
  · rw [if_neg small]
    simp only [UInt32.size] at small
    refine iff_of_false (by simp) ?_
    omega

theorem raised_eq_ok_iff {config : ConfigV2} {value : UInt32} :
    config.raised = .ok value ↔ config.paused = false ∧ value.toNat = config.count.toNat + 1 := by
  rw [ConfigV2.raised]
  by_cases paused : config.paused = true
  · simp [paused]
  · rw [if_neg paused, checkedIncrement_eq_ok_iff, Bool.not_eq_true] at *
    exact (and_iff_right paused).symm

theorem authorize_eq_ok_iff :
    counter.authorize signers operator = .ok () ↔
      signers operator = true ∧ counter.admin = operator := by
  rw [authorize, requireAuth, Outcome.seq_eq_ok_iff]
  by_cases signed : signers operator = true <;> by_cases same : counter.admin = operator <;>
    simp [signed, same]

theorem install_eq_ok_iff {hash : Hash} :
    counter.install uploaded signers operator hash = .ok (response, next) ↔
      (signers operator = true ∧ counter.admin = operator) ∧ (uploaded hash).isSome = true ∧
        response = .void ∧ next = { counter with executable := hash } := by
  rw [install, Outcome.seq_eq_ok_iff, authorize_eq_ok_iff]
  cases uploaded hash with
  | none => simp
  | some release =>
      simp only [Except.ok.injEq, Prod.mk.injEq, Option.isSome_some, true_and]
      rw [eq_comm (a := response), eq_comm (a := next)]

/-- What a call that is answered does to a counter. -/
structure Change (uploaded : Hash → Option CounterRelease)
    (signed : Signed Address (CounterCall Address Hash)) (counter : Counter Address Hash)
    (response : CounterResponse) (next : Counter Address Hash) : Prop where
  admin : next.admin = counter.admin
  count : next.count.toNat = counter.count.toNat + increments signed response
  executable : next.executable = counter.executable ∨
    signed.signers counter.admin = true ∧ (uploaded next.executable).isSome = true ∧
      signed.call = .upgrade next.executable counter.admin
  paused : next.config.converted.paused = counter.config.converted.paused ∨
    signed.signers counter.admin = true ∧
      signed.call = .setPaused counter.admin next.config.converted.paused
  converted : counter.convert = counter → next.convert = next

omit [DecidableEq Address] in
/-- Reading changes the form of the configuration at most. -/
theorem Change.read (silent : increments signed response = 0)
    (same : next = counter ∨ next = counter.convert) :
    Change uploaded signed counter response next := by
  rcases same with rfl | rfl
  · exact ⟨rfl, by rw [silent]; rfl, .inl rfl, .inl rfl, id⟩
  · exact ⟨rfl, by rw [silent]; rfl, .inl rfl, .inl rfl, fun _ => rfl⟩

theorem Change.install {hash : Hash} (call : signed.call = .upgrade hash operator)
    (installed : counter.install uploaded signed.signers operator hash = .ok (response, next)) :
    Change uploaded signed counter response next := by
  obtain ⟨⟨authorized, rfl⟩, present, rfl, rfl⟩ := install_eq_ok_iff.1 installed
  have silent : increments signed .void = 0 := by
    rw [increments, call]
  exact ⟨rfl, by rw [silent]; rfl, .inr ⟨authorized, present, call⟩, .inl rfl,
    fun converted => congrArg (fun kept : Counter Address Hash =>
      ({ kept with executable := hash } : Counter Address Hash)) converted⟩

theorem change_of_respondV1
    (answered : counter.respondV1 uploaded signed.signers signed.call = .ok (response, next)) :
    Change uploaded signed counter response next := by
  cases call : signed.call with
  | count =>
      rw [call, respondV1, Outcome.bind_eq_ok_iff] at answered
      obtain ⟨config, _, done⟩ := answered
      cases done
      exact .read (by rw [increments, call]) (.inl rfl)
  | increment =>
      rw [call, respondV1, Outcome.bind_eq_ok_iff] at answered
      obtain ⟨config, legacy, answered⟩ := answered
      obtain ⟨value, raised, done⟩ := Outcome.bind_eq_ok_iff.1 answered
      cases done
      have weight : increments signed (.u32 value) = 1 := by
        rw [increments, call]
      cases stored : counter.config with
      | v1 old =>
          rw [stored] at legacy
          cases legacy
          refine ⟨rfl, ?_, .inl rfl, .inl ?_, ?_⟩
          · rw [weight, Counter.count, Counter.count, stored]
            exact checkedIncrement_eq_ok_iff.1 raised
          · rw [stored]
            rfl
          · intro converted
            have form := congrArg Counter.config converted
            rw [stored] at form
            cases form
      | v2 config =>
          rw [stored] at legacy
          cases legacy
  | upgrade hash operator =>
      rw [call] at answered
      exact .install call answered
  | paused =>
      rw [call] at answered
      cases answered
  | setPaused operator value =>
      rw [call] at answered
      cases answered
  | migrate operator =>
      rw [call] at answered
      cases answered

theorem change_of_respondV2
    (answered : counter.respondV2 uploaded signed.signers signed.call = .ok (response, next)) :
    Change uploaded signed counter response next := by
  cases call : signed.call with
  | count =>
      rw [call] at answered
      cases answered
      exact .read (by rw [increments, call]) (.inr rfl)
  | paused =>
      rw [call] at answered
      cases answered
      exact .read (by rw [increments, call]) (.inr rfl)
  | increment =>
      rw [call, respondV2, Outcome.bind_eq_ok_iff] at answered
      obtain ⟨value, raised, done⟩ := answered
      cases done
      have weight : increments signed (.u32 value) = 1 := by
        rw [increments, call]
      refine ⟨rfl, ?_, .inl rfl, .inl rfl, fun _ => rfl⟩
      rw [weight]
      exact (raised_eq_ok_iff.1 raised).2
  | setPaused operator value =>
      rw [call, respondV2, Outcome.seq_eq_ok_iff, authorize_eq_ok_iff] at answered
      obtain ⟨⟨authorized, rfl⟩, done⟩ := answered
      cases done
      have silent : increments signed .void = 0 := by
        rw [increments, call]
      exact ⟨rfl, by rw [silent]; rfl, .inl rfl, .inr ⟨authorized, call⟩, fun _ => rfl⟩
  | migrate operator =>
      rw [call, respondV2, Outcome.seq_eq_ok_iff] at answered
      obtain ⟨_, done⟩ := answered
      cases done
      exact .read (by rw [increments, call]) (.inr rfl)
  | upgrade hash operator =>
      rw [call] at answered
      exact .install call answered

theorem change_of_machine (answered : machine uploaded signed counter = .ok (response, next)) :
    Change uploaded signed counter response next := by
  rw [machine] at answered
  split at answered
  · cases answered
  · exact change_of_respondV1 answered
  · exact change_of_respondV2 answered
  · cases call : signed.call with
    | count =>
        rw [call] at answered
        cases answered
        exact .read (by rw [increments, call]) (.inl rfl)
    | increment | paused | setPaused operator value | migrate operator | upgrade hash operator =>
        rw [call] at answered
        cases answered

end Changes

/-! ### Runs of a counter -/

section Runs

variable [DecidableEq Address] {uploaded : Hash → Option CounterRelease}
  {counter : Counter Address Hash} {calls : List (Signed Address (CounterCall Address Hash))}

theorem count_runs : (runs (machine uploaded) calls counter).count.toNat =
    counter.count.toNat + total (machine uploaded) increments calls counter := by
  refine runs_measure (fun reached : Counter Address Hash => reached.count.toNat) (fun _ => True)
    (fun _ _ _ _ _ _ => trivial) ?_ trivial
  intro signed _ reached result _ answered
  exact (change_of_machine answered).count

theorem admin_runs (uploaded : Hash → Option CounterRelease) (counter : Counter Address Hash)
    (calls : List (Signed Address (CounterCall Address Hash))) :
    (runs (machine uploaded) calls counter).admin = counter.admin := by
  refine runs_invariant (fun reached : Counter Address Hash => reached.admin = counter.admin) ?_ rfl
  intro signed _ reached result same answered
  exact (change_of_machine answered).admin.trans same

/-- The executable is the first one or was installed by the administrator. -/
theorem executable_runs (uploaded : Hash → Option CounterRelease)
    (counter : Counter Address Hash)
    (calls : List (Signed Address (CounterCall Address Hash))) :
    (runs (machine uploaded) calls counter).executable = counter.executable ∨
      ∃ signed ∈ calls, signed.signers counter.admin = true ∧
        signed.call = .upgrade (runs (machine uploaded) calls counter).executable counter.admin := by
  let installed : Counter Address Hash → Prop := fun reached => reached.admin = counter.admin ∧
    (reached.executable = counter.executable ∨
      ∃ signed ∈ calls, signed.signers counter.admin = true ∧
        signed.call = .upgrade reached.executable counter.admin)
  have preserved : ∀ signed ∈ calls, ∀ reached result, installed reached →
      machine uploaded signed reached = .ok result → installed result.2 := by
    intro signed listed reached result before answered
    obtain ⟨admin, before⟩ := before
    have change := change_of_machine answered
    refine ⟨change.admin.trans admin, ?_⟩
    rcases change.executable with same | ⟨authorized, _, call⟩
    · rw [same]
      exact before
    · rw [admin] at authorized call
      exact .inr ⟨signed, listed, authorized, call⟩
  exact (runs_invariant installed preserved ⟨rfl, .inl rfl⟩).2

/-- A counter that was not paused was paused by the administrator. -/
theorem paused_runs (running : counter.config.converted.paused = false)
    (paused : (runs (machine uploaded) calls counter).config.converted.paused = true) :
    ∃ signed ∈ calls, signed.signers counter.admin = true ∧
      signed.call = .setPaused counter.admin true := by
  let allowed : Counter Address Hash → Prop := fun reached => reached.admin = counter.admin ∧
    (reached.config.converted.paused = true →
      ∃ signed ∈ calls, signed.signers counter.admin = true ∧
        signed.call = .setPaused counter.admin true)
  have preserved : ∀ signed ∈ calls, ∀ reached result, allowed reached →
      machine uploaded signed reached = .ok result → allowed result.2 := by
    intro signed listed reached result before answered
    obtain ⟨admin, before⟩ := before
    have change := change_of_machine answered
    refine ⟨change.admin.trans admin, ?_⟩
    intro stopped
    rcases change.paused with same | ⟨authorized, call⟩
    · exact before (same.symm.trans stopped)
    · rw [admin, stopped] at call
      rw [admin] at authorized
      exact ⟨signed, listed, authorized, call⟩
  have started : allowed counter := ⟨rfl, fun stopped => absurd (running.symm.trans stopped) (by simp)⟩
  exact (runs_invariant allowed preserved started).2 paused

/-- An executable is installed that is not a build of the first release. -/
def Advances (uploaded : Hash → Option CounterRelease)
    (signed : Signed Address (CounterCall Address Hash)) : Prop :=
  ∀ hash operator, signed.call = .upgrade hash operator → uploaded hash ≠ some .v1

/-- A counter outside the first release and the counter in its converted form. -/
def Converted (uploaded : Hash → Option CounterRelease) (left right : Counter Address Hash) :
    Prop :=
  right = left.convert ∧ uploaded left.executable ≠ some .v1

variable {signed : Signed Address (CounterCall Address Hash)} {signers : Address → Bool}

theorem outcomes_install {operator : Address} {hash : Hash} (later : uploaded hash ≠ some .v1) :
    Outcomes (Converted uploaded) (counter.install uploaded signers operator hash)
      (counter.convert.install uploaded signers operator hash) := by
  rw [install, install]
  change Outcomes _ _ (counter.authorize signers operator >>= _)
  cases counter.authorize signers operator with
  | error failure => exact .failed failure
  | ok authorized =>
      simp only [Outcome.ok_bind]
      cases uploaded hash with
      | none => exact .failed _
      | some release => exact .committed ⟨rfl, later⟩

theorem outcomes_respondV2 (advances : Advances uploaded signed)
    (later : uploaded counter.executable ≠ some .v1) :
    Outcomes (Converted uploaded) (counter.respondV2 uploaded signed.signers signed.call)
      (counter.convert.respondV2 uploaded signed.signers signed.call) := by
  cases call : signed.call with
  | count => exact .committed ⟨rfl, later⟩
  | paused => exact .committed ⟨rfl, later⟩
  | increment =>
      rw [respondV2, respondV2]
      change Outcomes _ _ (counter.config.converted.raised >>= _)
      cases counter.config.converted.raised with
      | error failure => exact .failed failure
      | ok value => exact .committed ⟨rfl, later⟩
  | setPaused operator value =>
      rw [respondV2, respondV2]
      change Outcomes _ _ (counter.authorize signed.signers operator >>= _)
      cases counter.authorize signed.signers operator with
      | error failure => exact .failed failure
      | ok authorized => exact .committed ⟨rfl, later⟩
  | migrate operator =>
      rw [respondV2, respondV2]
      change Outcomes _ _ (counter.authorize signed.signers operator >>= _)
      cases counter.authorize signed.signers operator with
      | error failure => exact .failed failure
      | ok authorized => exact .committed ⟨rfl, later⟩
  | upgrade hash operator => exact outcomes_install (advances hash operator call)

/-- Outside the first release a counter and its converted form act alike. -/
theorem simulates_convert :
    Simulates (Converted uploaded) (Advances uploaded) (machine uploaded)
      (machine uploaded : Machine (Counter Address Hash) _ _ _) := by
  intro signed advances left right related
  obtain ⟨rfl, later⟩ := related
  rw [machine, machine, executable_convert]
  cases running : uploaded left.executable with
  | none => exact .failed _
  | some release =>
      cases release with
      | v1 => exact absurd running later
      | v2 => exact outcomes_respondV2 advances later
      | unsafeCounter =>
          cases signed.call with
          | count => exact .committed ⟨rfl, later⟩
          | increment | paused | setPaused operator value | migrate operator
          | upgrade hash operator => exact .failed _

end Runs

end Counter

/-! ### Deployed counters -/

section Deployed

open Counter (increments machine)

variable {Val Address Hash : Type} [DecidableEq Address] {host : CounterHost Val Address Hash}
  (lawful : host.types.Lawful) {release : CounterRelease} {executable : Hash} {admin : Address}
  {calls : List (Signed Address (CounterCall Address Hash))}
include lawful

/-- The storage of a counter is simulated by the counter. -/
theorem simulates_state :
    Simulates (fun (concrete : CounterState Val Hash) (counter : Counter Address Hash) =>
      concrete = counter.state host) (fun _ => True) host.invoke (machine host.uploaded) :=
  simulates_of_eq fun _ _ => Counter.invoke_state lawful _

theorem runs_state {counter : Counter Address Hash} :
    runs host.invoke calls (counter.state host) =
      (runs (machine host.uploaded) calls counter).state host :=
  (simulates_state lawful).runs (fun _ _ => trivial) rfl

omit lawful [DecidableEq Address] in
/-- A counter starts at zero and runs. -/
theorem deploy_eq (host : CounterHost Val Address Hash) (executable : Hash) (admin : Address)
    (safe : release ≠ .unsafeCounter) :
    ∃ counter : Counter Address Hash, host.deploy release executable admin = counter.state host ∧
      counter.executable = executable ∧ counter.admin = admin ∧ counter.count.toNat = 0 ∧
      counter.config.converted.paused = false := by
  cases release with
  | v1 =>
      refine ⟨{ executable := executable, admin := admin, config := .v1 { count := 0 } }, ?_, rfl,
        rfl, rfl, rfl⟩
      rw [CounterHost.deploy, CounterV1.constructor, Counter.state]
      simp only [ContractState.set, CounterState.empty]
      congr 1
      funext key
      cases key <;> rfl
  | v2 =>
      refine ⟨{ executable := executable, admin := admin,
                config := .v2 { count := 0, paused := false } }, ?_, rfl, rfl, rfl, rfl⟩
      rw [CounterHost.deploy, CounterV2.constructor, Counter.state]
      simp only [ContractState.set, CounterState.empty]
      congr 1
      funext key
      cases key <;> rfl
  | unsafeCounter => exact absurd rfl safe

theorem answer_state {signed : Signed Address (CounterCall Address Hash)}
    {counter : Counter Address Hash} :
    answer host.invoke signed (counter.state host) =
      answer (machine host.uploaded) signed counter :=
  ((simulates_state lawful).step trivial rfl).1

end Deployed

namespace Counter

variable {Address Hash : Type} [DecidableEq Address] {uploaded : Hash → Option CounterRelease}
  {counter : Counter Address Hash} {signers : Address → Bool} {operator : Address}

/-! ### Answers -/

/-- The first release reads what it stored itself. -/
theorem answer_count_v1 (running : uploaded counter.executable = some .v1) :
    ((∃ config, counter.config = .v1 config) ∧
        answer (machine uploaded) ⟨.count, signers⟩ counter = .ok (.u32 counter.count)) ∨
      (∃ config, counter.config = .v2 config) ∧
        answer (machine uploaded) ⟨.count, signers⟩ counter = .error .conversion := by
  simp only [answer, machine, running, respondV1]
  cases stored : counter.config with
  | v1 config =>
      rw [Counter.count, stored]
      exact .inl ⟨⟨config, rfl⟩, rfl⟩
  | v2 config => exact .inr ⟨⟨config, rfl⟩, rfl⟩

theorem answer_count_v2 (running : uploaded counter.executable = some .v2) :
    answer (machine uploaded) ⟨.count, signers⟩ counter = .ok (.u32 counter.count) := by
  simp only [answer, machine, running]
  rfl

/-- An answered increment returns the next count. -/
theorem answer_increment {response : CounterResponse}
    (answered : answer (machine uploaded) ⟨.increment, signers⟩ counter = .ok response) :
    ∃ next : UInt32, response = .u32 next ∧ next.toNat = counter.count.toNat + 1 := by
  rw [answer, machine] at answered
  split at answered
  · cases answered
  · simp only [respondV1] at answered
    cases stored : counter.config with
    | v1 config =>
        simp only [stored, StoredConfig.legacy, Outcome.ok_bind] at answered
        cases raised : checkedIncrement config.count with
        | error failure =>
            rw [raised] at answered
            cases answered
        | ok value =>
            rw [raised] at answered
            cases answered
            rw [Counter.count, stored]
            exact ⟨value, rfl, checkedIncrement_eq_ok_iff.1 raised⟩
    | v2 config =>
        rw [stored] at answered
        cases answered
  · simp only [respondV2] at answered
    cases raised : counter.config.converted.raised with
    | error failure =>
        rw [raised] at answered
        cases answered
    | ok value =>
        rw [raised] at answered
        cases answered
        exact ⟨value, rfl, (raised_eq_ok_iff.1 raised).2⟩
  · cases answered

/-- Only a paused counter answers that it is paused. -/
theorem paused_of_answer
    (stopped : answer (machine uploaded) ⟨.increment, signers⟩ counter =
      .error CounterError.paused.panic) : counter.config.converted.paused = true := by
  rw [answer, machine] at stopped
  split at stopped
  · cases stopped
  · simp only [respondV1, checkedIncrement] at stopped
    cases stored : counter.config with
    | v1 config =>
        simp only [stored, StoredConfig.legacy, Outcome.ok_bind] at stopped
        split at stopped <;> cases stopped
    | v2 config =>
        rw [stored] at stopped
        cases stopped
  · simp only [respondV2, ConfigV2.raised] at stopped
    by_contra running
    rw [if_neg running, checkedIncrement] at stopped
    split at stopped <;> cases stopped
  · cases stopped

/-- The unsafe build is never left. -/
theorem runs_unsafe {calls : List (Signed Address (CounterCall Address Hash))}
    (running : uploaded counter.executable = some .unsafeCounter) :
    runs (machine uploaded) calls counter = counter := by
  refine runs_invariant (fun reached => reached = counter) ?_ rfl
  intro signed _ reached result same answered
  rw [same, machine, running] at answered
  cases call : signed.call with
  | count =>
      simp only [call, respondUnsafe] at answered
      cases answered
      rfl
  | increment | paused | setPaused operator value | migrate operator | upgrade hash operator =>
      simp only [call, respondUnsafe] at answered
      cases answered

/-- A call of `migrate` does nothing or converts the configuration. -/
theorem after_migrate (uploaded : Hash → Option CounterRelease) (counter : Counter Address Hash)
    (signers : Address → Bool) (operator : Address) :
    after (machine uploaded) ⟨.migrate operator, signers⟩ counter = counter ∨
      after (machine uploaded) ⟨.migrate operator, signers⟩ counter = counter.convert ∧
        Converted uploaded counter counter.convert := by
  cases running : uploaded counter.executable with
  | none =>
      have failed : machine uploaded ⟨.migrate operator, signers⟩ counter = .error .missingWasm := by
        simp only [machine, running]
      exact .inl (after_error failed)
  | some release =>
      cases release with
      | v1 =>
          have failed : machine uploaded ⟨.migrate operator, signers⟩ counter =
              .error .missingFunction := by
            simp only [machine, running, respondV1]
          exact .inl (after_error failed)
      | unsafeCounter =>
          have failed : machine uploaded ⟨.migrate operator, signers⟩ counter =
              .error .missingFunction := by
            simp only [machine, running, respondUnsafe]
          exact .inl (after_error failed)
      | v2 =>
          cases authorized : counter.authorize signers operator with
          | error failure =>
              have failed : machine uploaded ⟨.migrate operator, signers⟩ counter =
                  .error failure := by
                simp only [machine, running, respondV2, authorized, Outcome.error_bind]
              exact .inl (after_error failed)
          | ok done =>
              have committed : machine uploaded ⟨.migrate operator, signers⟩ counter =
                  .ok (.void, counter.convert) := by
                simp only [machine, running, respondV2, authorized, Outcome.ok_bind]
              refine .inr ⟨after_ok committed, rfl, ?_⟩
              rw [running]
              simp

end Counter

/-! ### What holds of every run -/

section Reached

variable {Val Address Hash : Type} [DecidableEq Address]

/-- The storage of a counter after the calls. -/
def CounterHost.reached (host : CounterHost Val Address Hash) (release : CounterRelease)
    (executable : Hash) (admin : Address)
    (calls : List (Signed Address (CounterCall Address Hash))) : CounterState Val Hash :=
  runs host.invoke calls (host.deploy release executable admin)

/-- Whatever calls, upgrades and downgrades were made, the second release answers how
many increments were answered. The first release answers it, or cannot read the
configuration that the second one stored under schema version 2. The unsafe build has
lost it, and no call leaves that build. -/
theorem counter_counts (host : CounterHost Val Address Hash) (lawful : host.types.Lawful)
    (release : CounterRelease) (safe : release ≠ .unsafeCounter) (executable : Hash)
    (admin : Address) (calls : List (Signed Address (CounterCall Address Hash))) :
    ∃ value : UInt32,
      value.toNat = total host.invoke Counter.increments calls
        (host.deploy release executable admin) ∧
      ∀ signers,
        (host.uploaded (host.reached release executable admin calls).executable = some .v2 →
          answer host.invoke ⟨.count, signers⟩ (host.reached release executable admin calls) =
            .ok (.u32 value)) ∧
        (host.uploaded (host.reached release executable admin calls).executable = some .v1 →
          ((host.reached release executable admin calls).storage .schemaVersion =
              some (host.types.u32.intoVal 1) ∧
            answer host.invoke ⟨.count, signers⟩ (host.reached release executable admin calls) =
              .ok (.u32 value)) ∨
          ((host.reached release executable admin calls).storage .schemaVersion =
              some (host.types.u32.intoVal 2) ∧
            answer host.invoke ⟨.count, signers⟩ (host.reached release executable admin calls) =
              .error .conversion)) ∧
        (∀ response, answer host.invoke ⟨.increment, signers⟩
            (host.reached release executable admin calls) = .ok response →
          ∃ next : UInt32, response = .u32 next ∧ next.toNat = value.toNat + 1) ∧
        (host.uploaded (host.reached release executable admin calls).executable =
            some .unsafeCounter →
          answer host.invoke ⟨.count, signers⟩ (host.reached release executable admin calls) =
              .ok (.u64 0) ∧
            ∀ later, runs host.invoke later (host.reached release executable admin calls) =
              host.reached release executable admin calls) := by
  obtain ⟨counter, deployed, _, _, zero, _⟩ := deploy_eq host executable admin safe
  simp only [CounterHost.reached, deployed, runs_state lawful, answer_state lawful,
    Counter.executable_state]
  refine ⟨(runs (Counter.machine host.uploaded) calls counter).count, ?_, ?_⟩
  · rw [Counter.count_runs, zero, zero_add]
    exact ((simulates_state lawful).total_eq (fun _ _ => trivial) rfl).symm
  · intro signers
    refine ⟨Counter.answer_count_v2, ?_, fun response => Counter.answer_increment, ?_⟩
    · intro running
      rcases Counter.answer_count_v1 running with ⟨⟨config, stored⟩, answered⟩ |
        ⟨⟨config, stored⟩, answered⟩
      · exact .inl ⟨by simp only [Counter.state, stored], answered⟩
      · exact .inr ⟨by simp only [Counter.state, stored], answered⟩
    · intro running
      refine ⟨?_, fun later => by rw [Counter.runs_unsafe running]⟩
      simp only [answer, Counter.machine, running]
      rfl

namespace Sample

/-- The host values of the counter, with maps in the order of their keys. -/
inductive Scalar where
  | u32 (value : UInt32)
  | u64 (value : UInt64)
  | bool (value : Bool)
  | address (value : String)

inductive HostVal where
  | scalar (value : Scalar)
  | map (members : List (String × Scalar))

def counterTypes : CounterTypes HostVal String where
  u32 := {
    intoVal := fun value => .scalar (.u32 value)
    tryFromVal
      | .scalar (.u32 value) => some value
      | _ => none }
  u64 := {
    intoVal := fun value => .scalar (.u64 value)
    tryFromVal
      | .scalar (.u64 value) => some value
      | _ => none }
  address := {
    intoVal := fun value => .scalar (.address value)
    tryFromVal
      | .scalar (.address value) => some value
      | _ => none }
  configV1 := {
    intoVal := fun config => .map [("count", .u32 config.count)]
    tryFromVal
      | .map [("count", .u32 count)] => some { count := count }
      | _ => none }
  configV2 := {
    intoVal := fun config => .map [("count", .u32 config.count), ("paused", .bool config.paused)]
    tryFromVal
      | .map [("count", .u32 count), ("paused", .bool paused)] =>
          some { count := count, paused := paused }
      | _ => none }

theorem counterTypes_lawful : counterTypes.Lawful where
  u32 := fun _ => rfl
  address := fun _ => rfl
  configV1 := fun _ => rfl
  configV2 := fun _ => rfl
  strict := fun _ => rfl

def counterHost : CounterHost HostVal String String where
  types := counterTypes
  uploaded := fun hash =>
    [("first", .v1), ("second", .v2), ("third", .unsafeCounter)].lookup hash

/-- Two increments, the upgrade, and one increment that converts the storage. -/
def counterCalls : List (Signed String (CounterCall String String)) :=
  [signedBy "user" .increment, signedBy "user" .increment,
    signedBy "user" (.upgrade "third" "user"), signedBy "admin" (.upgrade "second" "admin"),
    signedBy "user" .increment]

end Sample

/-- The second release counts the increments of both. -/
theorem sampleCounter_counts : ∃ value : UInt32, value.toNat = 3 ∧
    answer Sample.counterHost.invoke (signedBy "user" .count)
      (Sample.counterHost.reached .v1 "first" "admin" Sample.counterCalls) = .ok (.u32 value) := by
  obtain ⟨value, counted, answered⟩ := counter_counts Sample.counterHost
    Sample.counterTypes_lawful .v1 (by decide) "first" "admin" Sample.counterCalls
  refine ⟨value, counted.trans ?_, (answered _).1 ?_⟩
  · decide +kernel
  · decide +kernel

/-- A call of `migrate`, answered or not, changes no later answer as long as the first
release is not installed again, and a second one changes nothing. -/
theorem migration_is_invisible (host : CounterHost Val Address Hash)
    (lawful : host.types.Lawful) (release : CounterRelease) (safe : release ≠ .unsafeCounter)
    (executable : Hash) (admin : Address)
    (calls later : List (Signed Address (CounterCall Address Hash))) (operator : Address)
    (signers : Address → Bool)
    (advances : ∀ signed ∈ later, Counter.Advances host.uploaded signed) :
    answers host.invoke later
        (host.reached release executable admin (calls ++ [⟨.migrate operator, signers⟩])) =
      answers host.invoke later (host.reached release executable admin calls) ∧
    host.reached release executable admin
        (calls ++ [⟨.migrate operator, signers⟩, ⟨.migrate operator, signers⟩]) =
      host.reached release executable admin (calls ++ [⟨.migrate operator, signers⟩]) := by
  obtain ⟨counter, deployed, _⟩ := deploy_eq host executable admin safe
  simp only [CounterHost.reached, deployed, runs_append, runs_state lawful, runs_cons, runs_nil]
  generalize runs (Counter.machine host.uploaded) calls counter = reached
  have same : ∀ counter : Counter Address Hash, answers host.invoke later (counter.state host) =
      answers (Counter.machine host.uploaded) later counter := fun counter =>
    (simulates_state lawful).answers_eq (fun _ _ => trivial) rfl
  rw [same, same]
  rcases Counter.after_migrate host.uploaded reached signers operator with kept | ⟨converted, related⟩
  · rw [kept, kept]
    exact ⟨rfl, rfl⟩
  · rw [converted]
    refine ⟨(Counter.simulates_convert.answers_eq advances related).symm, ?_⟩
    rcases Counter.after_migrate host.uploaded reached.convert signers operator with
      again | ⟨again, _⟩ <;> rw [again]
    rfl

/-- Converting the sample counter early changes no later answer. -/
theorem sampleMigration_is_invisible :
    answers Sample.counterHost.invoke [signedBy "user" .increment]
        (Sample.counterHost.reached .v1 "first" "admin"
          (Sample.counterCalls ++ [signedBy "admin" (.migrate "admin")])) =
      answers Sample.counterHost.invoke [signedBy "user" .increment]
        (Sample.counterHost.reached .v1 "first" "admin" Sample.counterCalls) := by
  refine (migration_is_invisible Sample.counterHost Sample.counterTypes_lawful .v1 (by decide)
    "first" "admin" Sample.counterCalls _ "admin" _ ?_).1
  intro signed listed hash operator call
  rw [List.mem_singleton.1 listed] at call
  cases call

/-- The administrator never changes, the executable is the deployed one or one that the
administrator installed, and only the administrator can pause the counter. -/
theorem counter_control (host : CounterHost Val Address Hash) (lawful : host.types.Lawful)
    (release : CounterRelease) (safe : release ≠ .unsafeCounter) (executable : Hash)
    (admin : Address) (calls : List (Signed Address (CounterCall Address Hash))) :
    (host.reached release executable admin calls).storage .admin =
        some (host.types.address.intoVal admin) ∧
      ((host.reached release executable admin calls).executable = executable ∨
        ∃ signed ∈ calls, signed.signers admin = true ∧
          signed.call = .upgrade (host.reached release executable admin calls).executable admin) ∧
      ∀ signers, answer host.invoke ⟨.increment, signers⟩
          (host.reached release executable admin calls) = .error CounterError.paused.panic →
        ∃ signed ∈ calls, signed.signers admin = true ∧ signed.call = .setPaused admin true := by
  obtain ⟨counter, deployed, rfl, rfl, _, running⟩ := deploy_eq host executable admin safe
  simp only [CounterHost.reached, deployed, runs_state lawful, answer_state lawful,
    Counter.executable_state]
  refine ⟨?_, Counter.executable_runs host.uploaded counter calls, ?_⟩
  · rw [← Counter.admin_runs host.uploaded counter calls]
    rfl
  · intro signers stopped
    exact Counter.paused_runs running (Counter.paused_of_answer stopped)

/-- The sample counter keeps its administrator. -/
theorem sampleCounter_control :
    (Sample.counterHost.reached .v1 "first" "admin" Sample.counterCalls).storage .admin =
      some (Sample.counterTypes.address.intoVal "admin") :=
  (counter_control Sample.counterHost Sample.counterTypes_lawful .v1 (by decide) "first" "admin"
    Sample.counterCalls).1

end Reached

end SorobanUpgrades
