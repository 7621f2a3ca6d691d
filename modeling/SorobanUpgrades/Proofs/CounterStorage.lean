/-
Module: SorobanUpgrades.Proofs.CounterStorage
Purpose: What the storage of the counter contract means: a counter that answers calls
  without any storage, and that every build of the contract acts like.
Trusted boundary: human-reviewed spec
Main exports: CounterTypes.Lawful, Counter, Counter.machine, Counter.state,
  Counter.invoke_state
-/
import SorobanUpgrades.Core.Counter
import SorobanUpgrades.Library.Outcome

namespace SorobanUpgrades

open Transaction

/-- What the host documents about its conversions: a value is read back as its type,
and a map is read as a struct only if it has exactly its fields. -/
structure CounterTypes.Lawful {Val Address : Type} (types : CounterTypes Val Address) : Prop where
  u32 : types.u32.RoundTrips
  address : types.address.RoundTrips
  configV1 : types.configV1.RoundTrips
  configV2 : types.configV2.RoundTrips
  strict : ∀ config, types.configV1.tryFromVal (types.configV2.intoVal config) = none

/-! ### Counters -/

/-- A configuration as one of the releases stored it. -/
inductive StoredConfig where
  | v1 (config : ConfigV1)
  | v2 (config : ConfigV2)

namespace StoredConfig

/-- The configuration as the second release reads it. -/
def converted : StoredConfig → ConfigV2
  | .v1 config => { count := config.count, paused := false }
  | .v2 config => config

/-- The configuration as the first release reads it. -/
def legacy : StoredConfig → Except Trap ConfigV1
  | .v1 config => .ok config
  | .v2 _ => .error .conversion

@[simp] theorem converted_v2 (config : ConfigV2) : (v2 config).converted = config := rfl

end StoredConfig

/-- The next count, unless the counter is paused. -/
def ConfigV2.raised (config : ConfigV2) : Except Trap UInt32 :=
  if config.paused = true then .error CounterError.paused.panic else checkedIncrement config.count

/-- What the storage of a counter means. -/
structure Counter (Address Hash : Type) where
  executable : Hash
  admin : Address
  config : StoredConfig

namespace Counter

variable {Val Address Hash : Type}

/-- The number that the second release answers. -/
def count (counter : Counter Address Hash) : UInt32 := counter.config.converted.count

/-- The counter with its configuration in the form of the second release. -/
def convert (counter : Counter Address Hash) : Counter Address Hash :=
  { counter with config := .v2 counter.config.converted }

@[simp] theorem config_convert (counter : Counter Address Hash) :
    counter.convert.config = .v2 counter.config.converted := rfl

@[simp] theorem executable_convert (counter : Counter Address Hash) :
    counter.convert.executable = counter.executable := rfl

@[simp] theorem count_convert (counter : Counter Address Hash) :
    counter.convert.count = counter.count := rfl

/-- The storage of a counter. -/
def state (host : CounterHost Val Address Hash) (counter : Counter Address Hash) :
    CounterState Val Hash where
  executable := counter.executable
  storage
    | .admin => some (host.types.address.intoVal counter.admin)
    | .config =>
        match counter.config with
        | .v1 config => some (host.types.configV1.intoVal config)
        | .v2 config => some (host.types.configV2.intoVal config)
    | .schemaVersion =>
        match counter.config with
        | .v1 _ => some (host.types.u32.intoVal 1)
        | .v2 _ => some (host.types.u32.intoVal 2)
    | .count => none

/-! ### What a counter does -/

section Machine

variable [DecidableEq Address]

/-- The administrator must sign as the operator. -/
def authorize (signers : Address → Bool) (operator : Address) (counter : Counter Address Hash) :
    Except Trap Unit := do
  requireAuth signers operator
  if counter.admin ≠ operator then .error CounterError.unauthorized.panic else .ok ()

/-- The administrator installs an uploaded build. -/
def install (uploaded : Hash → Option CounterRelease) (signers : Address → Bool)
    (operator : Address) (hash : Hash) (counter : Counter Address Hash) :
    Except Trap (CounterResponse × Counter Address Hash) := do
  counter.authorize signers operator
  match uploaded hash with
  | none => .error .missingWasm
  | some _ => .ok (.void, { counter with executable := hash })

/-- How the first release answers a call. -/
def respondV1 (uploaded : Hash → Option CounterRelease) (signers : Address → Bool)
    (counter : Counter Address Hash) :
    CounterCall Address Hash → Except Trap (CounterResponse × Counter Address Hash)
  | .count => do
      let config ← counter.config.legacy
      .ok (.u32 config.count, counter)
  | .increment => do
      let config ← counter.config.legacy
      let count ← checkedIncrement config.count
      .ok (.u32 count, { counter with config := .v1 { count := count } })
  | .upgrade hash operator => counter.install uploaded signers operator hash
  | .paused | .setPaused _ _ | .migrate _ => .error .missingFunction

/-- How the second release answers a call. -/
def respondV2 (uploaded : Hash → Option CounterRelease) (signers : Address → Bool)
    (counter : Counter Address Hash) :
    CounterCall Address Hash → Except Trap (CounterResponse × Counter Address Hash)
  | .count => .ok (.u32 counter.count, counter.convert)
  | .increment => do
      let count ← counter.config.converted.raised
      .ok (.u32 count, { counter with
        config := .v2 { counter.config.converted with count := count } })
  | .paused => .ok (.bool counter.config.converted.paused, counter.convert)
  | .setPaused operator paused => do
      counter.authorize signers operator
      .ok (.void, { counter with config := .v2 { counter.config.converted with paused := paused } })
  | .migrate operator => do
      counter.authorize signers operator
      .ok (.void, counter.convert)
  | .upgrade hash operator => counter.install uploaded signers operator hash

/-- How the unsafe build answers a call. -/
def respondUnsafe (counter : Counter Address Hash) :
    CounterCall Address Hash → Except Trap (CounterResponse × Counter Address Hash)
  | .count => .ok (.u64 0, counter)
  | _ => .error .missingFunction

/-- The counter as a machine of its own. -/
def machine (uploaded : Hash → Option CounterRelease) : Machine (Counter Address Hash)
    (Signed Address (CounterCall Address Hash)) CounterResponse Trap := fun signed counter =>
  match uploaded counter.executable with
  | none => .error .missingWasm
  | some .v1 => counter.respondV1 uploaded signed.signers signed.call
  | some .v2 => counter.respondV2 uploaded signed.signers signed.call
  | some .unsafeCounter => counter.respondUnsafe signed.call

end Machine

/-! ### The storage of a counter -/

section Storage

variable {host : CounterHost Val Address Hash} {counter : Counter Address Hash}

@[simp] theorem executable_state : (counter.state host).executable = counter.executable := rfl

theorem state_set_v1 {old config : ConfigV1} (stored : counter.config = .v1 old) :
    (counter.state host).set host.types.configV1 .config config =
      ({ counter with config := .v1 config } : Counter Address Hash).state host := by
  rw [ContractState.set, state, state, stored]
  congr 1
  funext key
  cases key <;> rfl

theorem state_set_v2 {old config : ConfigV2} (stored : counter.config = .v2 old) :
    (counter.state host).set host.types.configV2 .config config =
      ({ counter with config := .v2 config } : Counter Address Hash).state host := by
  rw [ContractState.set, state, state, stored]
  congr 1
  funext key
  cases key <;> rfl

/-- The two writes of the conversion. -/
theorem state_set_converted {config : ConfigV2} :
    ((counter.state host).set host.types.configV2 .config config).set host.types.u32
      .schemaVersion 2 =
        ({ counter with config := .v2 config } : Counter Address Hash).state host := by
  rw [ContractState.set, ContractState.set, state, state]
  congr 1
  funext key
  cases key <;> rfl

variable (lawful : host.types.Lawful)
include lawful

theorem getUnwrap_admin :
    (counter.state host).getUnwrap host.types.address .admin = .ok counter.admin :=
  ContractState.getUnwrap_eq_of_decoded rfl (lawful.address _)

theorem getUnwrap_configV1 :
    (counter.state host).getUnwrap host.types.configV1 .config = counter.config.legacy := by
  cases stored : counter.config with
  | v1 config =>
      refine ContractState.getUnwrap_eq_of_decoded ?_ (lawful.configV1 config)
      simp only [state, stored]
  | v2 config =>
      refine ContractState.getUnwrap_eq_of_foreign ?_ (lawful.strict config)
      simp only [state, stored]

/-- Loading converts what the first release stored, once. -/
theorem loadV2_state :
    CounterV2.loadV2 host (counter.state host) =
      .ok (counter.config.converted, counter.convert.state host) := by
  cases stored : counter.config with
  | v1 config =>
      have version : (counter.state host).get host.types.u32 .schemaVersion = .ok (some 1) := by
        refine ContractState.get_eq_of_decoded ?_ (lawful.u32 _)
        simp only [state, stored]
      have old : (counter.state host).getUnwrap host.types.configV1 .config =
          counter.config.legacy := getUnwrap_configV1 lawful
      rw [stored] at old
      rw [CounterV2.loadV2, version]
      simp only [Outcome.ok_bind, old, StoredConfig.legacy, Option.getD_some, state_set_converted,
        convert, stored, StoredConfig.converted]
      rfl
  | v2 config =>
      have version : (counter.state host).get host.types.u32 .schemaVersion = .ok (some 2) := by
        refine ContractState.get_eq_of_decoded ?_ (lawful.u32 _)
        simp only [state, stored]
      have current : (counter.state host).getUnwrap host.types.configV2 .config = .ok config := by
        refine ContractState.getUnwrap_eq_of_decoded ?_ (lawful.configV2 config)
        simp only [state, stored]
      rw [CounterV2.loadV2, version]
      simp only [Outcome.ok_bind, current, convert, stored, StoredConfig.converted]
      rw [← stored]
      rfl

/-! ### Every build acts on the storage as on the counter -/

variable [DecidableEq Address] {signers : Address → Bool} {operator : Address} {hash : Hash}

theorem requireAdmin_state :
    CounterV2.requireAdmin host signers (counter.state host) operator =
      counter.authorize signers operator := by
  rw [CounterV2.requireAdmin, authorize, getUnwrap_admin lawful]
  rfl

omit lawful in
/-- Both releases install an executable in the same way. -/
theorem install_state :
    (counter.install host.uploaded signers operator hash).map
        (fun result => (result.1, result.2.state host)) =
      (do
        counter.authorize signers operator
        let next ← updateCurrentContractWasm host.uploaded hash (counter.state host)
        .ok (.void, next)) := by
  rw [install, updateCurrentContractWasm]
  cases counter.authorize signers operator with
  | error failure => rfl
  | ok authorized =>
      cases host.uploaded hash with
      | none => rfl
      | some release => rfl

theorem dispatchV1_state (call : CounterCall Address Hash) :
    CounterV1.dispatch host signers (counter.state host) call =
      (counter.respondV1 host.uploaded signers call).map
        fun result => (result.1, result.2.state host) := by
  cases call with
  | count =>
      simp only [CounterV1.dispatch, CounterV1.count, respondV1, getUnwrap_configV1 lawful]
      cases counter.config.legacy <;> rfl
  | increment =>
      simp only [CounterV1.dispatch, CounterV1.increment, respondV1, getUnwrap_configV1 lawful]
      cases stored : counter.config with
      | v1 config =>
          simp only [StoredConfig.legacy, Outcome.ok_bind]
          cases checkedIncrement config.count with
          | error failure => rfl
          | ok count => simp only [Outcome.ok_bind, state_set_v1 stored, Except.map]
      | v2 config => rfl
  | upgrade hash operator =>
      simp only [respondV1, install_state, CounterV1.dispatch, CounterV1.upgrade, authorize,
        getUnwrap_admin lawful, Outcome.ok_bind]
      cases requireAuth signers operator with
      | error failure => rfl
      | ok authorized =>
          by_cases other : counter.admin ≠ operator
          · simp only [Outcome.ok_bind, if_pos other]
            rfl
          · simp only [Outcome.ok_bind, if_neg other]
  | paused | setPaused operator value | migrate operator => rfl

theorem dispatchV2_state (call : CounterCall Address Hash) :
    CounterV2.dispatch host signers (counter.state host) call =
      (counter.respondV2 host.uploaded signers call).map
        fun result => (result.1, result.2.state host) := by
  cases call with
  | count =>
      simp only [CounterV2.dispatch, CounterV2.count, respondV2, loadV2_state lawful,
        Outcome.ok_bind, Except.map, count]
  | increment =>
      simp only [CounterV2.dispatch, CounterV2.increment, respondV2, loadV2_state lawful,
        Outcome.ok_bind]
      rw [ConfigV2.raised]
      by_cases paused : counter.config.converted.paused = true
      · simp only [if_pos paused]
        rfl
      · simp only [if_neg paused]
        cases checkedIncrement counter.config.converted.count with
        | error failure => rfl
        | ok value =>
            simp only [Outcome.ok_bind, Except.map, state_set_v2 (config_convert counter)]
            rfl
  | paused =>
      simp only [CounterV2.dispatch, CounterV2.paused, respondV2, loadV2_state lawful,
        Outcome.ok_bind, Except.map]
  | setPaused operator value =>
      simp only [CounterV2.dispatch, CounterV2.setPaused, respondV2, loadV2_state lawful,
        requireAdmin_state lawful]
      cases counter.authorize signers operator with
      | error failure => rfl
      | ok authorized =>
          simp only [Outcome.ok_bind, Except.map, state_set_v2 (config_convert counter)]
          rfl
  | migrate operator =>
      simp only [CounterV2.dispatch, CounterV2.migrate, respondV2, loadV2_state lawful,
        requireAdmin_state lawful]
      cases counter.authorize signers operator <;> rfl
  | upgrade hash operator =>
      simp only [respondV2, install_state, CounterV2.dispatch, CounterV2.upgrade,
        requireAdmin_state lawful]
      cases counter.authorize signers operator <;> rfl

omit lawful [DecidableEq Address] in
theorem dispatchUnsafe_state (call : CounterCall Address Hash) :
    UnsafeCounter.dispatch host (counter.state host) call =
      (counter.respondUnsafe call).map fun result => (result.1, result.2.state host) := by
  cases call <;> rfl

theorem invoke_state (signed : Signed Address (CounterCall Address Hash)) :
    host.invoke signed (counter.state host) =
      (machine host.uploaded signed counter).map fun result => (result.1, result.2.state host) := by
  rw [CounterHost.invoke, machine, executable_state]
  cases host.uploaded counter.executable with
  | none => rfl
  | some release =>
      cases release with
      | v1 => exact dispatchV1_state lawful signed.call
      | v2 => exact dispatchV2_state lawful signed.call
      | unsafeCounter => exact dispatchUnsafe_state signed.call

end Storage

end Counter

end SorobanUpgrades
