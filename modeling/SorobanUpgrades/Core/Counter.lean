/-
Module: SorobanUpgrades.Core.Counter
Purpose: The example counter contract in its three builds: the first release, the
  second release, which converts the stored configuration on first use, and a build
  that is not a safe successor of either.
Trusted boundary: human-reviewed spec
Main exports: CounterTypes, CounterV1, CounterV2, UnsafeCounter, CounterHost.invoke,
  CounterHost.deploy
-/
import SorobanUpgrades.Core.Host

namespace SorobanUpgrades

open Transaction (Machine)

/-! ### Types -/

/-- `DataKey`. The first three keys are those of the two releases.
[SRC counter-v1/src/lib.rs:12-16, counter-unsafe/src/lib.rs:10-13] -/
inductive CounterKey where
  | admin
  | config
  | schemaVersion
  | count
deriving DecidableEq, Repr

/-- The configuration of the first release. [SRC counter-v1/src/lib.rs:20-22] -/
structure ConfigV1 where
  count : UInt32
deriving DecidableEq, Repr

/-- The configuration of the second release. [SRC counter-v2/src/lib.rs:27-30] -/
structure ConfigV2 where
  count : UInt32
  paused : Bool
deriving DecidableEq, Repr

/-- `ContractError`. [SRC counter-v2/src/lib.rs:35-38] -/
inductive CounterError where
  | unauthorized
  | paused
deriving DecidableEq, Repr

/-- The numbers of the errors. [SRC counter-v2/src/lib.rs:35-38] -/
def CounterError.code : CounterError → UInt32
  | .unauthorized => 1
  | .paused => 2

/-- `panic_with_error!`. -/
def CounterError.panic (error : CounterError) : Trap := .contractError error.code

/-- How the types of the contract are stored. -/
structure CounterTypes (Val Address : Type) where
  u32 : ValCodec Val UInt32
  u64 : ValCodec Val UInt64
  address : ValCodec Val Address
  configV1 : ValCodec Val ConfigV1
  configV2 : ValCodec Val ConfigV2

/-- The storage of a counter. -/
abbrev CounterState (Val Hash : Type) := ContractState CounterKey Val Hash

/-- The builds of the contract. -/
inductive CounterRelease where
  | v1
  | v2
  | unsafeCounter
deriving DecidableEq, Repr

/-- The functions of the builds. A build may lack some. -/
inductive CounterCall (Address Hash : Type) where
  | count
  | increment
  | paused
  | setPaused (operator : Address) (paused : Bool)
  | migrate (operator : Address)
  | upgrade (newWasmHash : Hash) (operator : Address)

/-- The results of the functions. -/
inductive CounterResponse where
  | void
  | u32 (value : UInt32)
  | u64 (value : UInt64)
  | bool (value : Bool)
deriving DecidableEq, Repr

/-- The codecs, and which build an uploaded module is. -/
structure CounterHost (Val Address Hash : Type) where
  types : CounterTypes Val Address
  uploaded : Hash → Option CounterRelease

section Builds

variable {Val Address Hash : Type} [DecidableEq Address]
  (host : CounterHost Val Address Hash) (signers : Address → Bool)
  (state : CounterState Val Hash)

/-- A contract that stored nothing yet. -/
def CounterState.empty (executable : Hash) : CounterState Val Hash where
  executable := executable
  storage := fun _ => none

/-! ### The first release -/

namespace CounterV1

/-- `__constructor`. [SRC counter-v1/src/lib.rs:37-45] -/
def constructor (admin : Address) : CounterState Val Hash :=
  ((state.set host.types.address .admin admin).set host.types.configV1 .config
    { count := 0 }).set host.types.u32 .schemaVersion 1

/-- `count`. [SRC counter-v1/src/lib.rs:47-50] -/
def count : Except Trap UInt32 := do
  let config ← state.getUnwrap host.types.configV1 .config
  .ok config.count

/-- `increment`. [SRC counter-v1/src/lib.rs:52-57] -/
def increment : Except Trap (UInt32 × CounterState Val Hash) := do
  let config ← state.getUnwrap host.types.configV1 .config
  let count ← checkedIncrement config.count
  .ok (count, state.set host.types.configV1 .config { count := count })

/-- `upgrade`: the admin signs and is the operator. [SRC counter-v1/src/lib.rs:59-66] -/
def upgrade (newWasmHash : Hash) (operator : Address) : Except Trap (CounterState Val Hash) := do
  requireAuth signers operator
  let admin ← state.getUnwrap host.types.address .admin
  if admin ≠ operator then
    .error CounterError.unauthorized.panic
  else
    updateCurrentContractWasm host.uploaded newWasmHash state

/-- The calls of the first release. [SRC counter-v1/src/lib.rs:36-67] -/
def dispatch : CounterCall Address Hash → Except Trap (CounterResponse × CounterState Val Hash)
  | .count => do
      let value ← count host state
      .ok (.u32 value, state)
  | .increment => do
      let result ← increment host state
      .ok (.u32 result.1, result.2)
  | .upgrade newWasmHash operator => do
      let next ← upgrade host signers state newWasmHash operator
      .ok (.void, next)
  | .paused | .setPaused _ _ | .migrate _ => .error .missingFunction

end CounterV1

/-! ### The second release -/

namespace CounterV2

/-- `__constructor`. [SRC counter-v2/src/lib.rs:47-59] -/
def constructor (admin : Address) : CounterState Val Hash :=
  ((state.set host.types.address .admin admin).set host.types.configV2 .config
    { count := 0, paused := false }).set host.types.u32 .schemaVersion 2

/-- `require_admin`. [SRC counter-v2/src/lib.rs:99-105] -/
def requireAdmin (operator : Address) : Except Trap Unit := do
  requireAuth signers operator
  let admin ← state.getUnwrap host.types.address .admin
  if admin ≠ operator then .error CounterError.unauthorized.panic else .ok ()

/-- `load_v2`: read the configuration, converting one of the first release.
[SRC counter-v2/src/lib.rs:107-127] -/
def loadV2 : Except Trap (ConfigV2 × CounterState Val Hash) := do
  let schemaVersion ← state.get host.types.u32 .schemaVersion
  if schemaVersion.getD 0 < 2 then do
    let old ← state.getUnwrap host.types.configV1 .config
    let new : ConfigV2 := { count := old.count, paused := false }
    .ok (new, (state.set host.types.configV2 .config new).set host.types.u32 .schemaVersion 2)
  else do
    let config ← state.getUnwrap host.types.configV2 .config
    .ok (config, state)

/-- `count`. It converts as well. [SRC counter-v2/src/lib.rs:61-63] -/
def count : Except Trap (UInt32 × CounterState Val Hash) := do
  let loaded ← loadV2 host state
  .ok (loaded.1.count, loaded.2)

/-- `increment`, unless the counter is paused. [SRC counter-v2/src/lib.rs:65-73] -/
def increment : Except Trap (UInt32 × CounterState Val Hash) := do
  let loaded ← loadV2 host state
  if loaded.1.paused = true then
    .error CounterError.paused.panic
  else do
    let count ← checkedIncrement loaded.1.count
    .ok (count, loaded.2.set host.types.configV2 .config { loaded.1 with count := count })

/-- `paused`. [SRC counter-v2/src/lib.rs:75-77] -/
def paused : Except Trap (Bool × CounterState Val Hash) := do
  let loaded ← loadV2 host state
  .ok (loaded.1.paused, loaded.2)

/-- `set_paused`. [SRC counter-v2/src/lib.rs:79-84] -/
def setPaused (operator : Address) (paused : Bool) : Except Trap (CounterState Val Hash) := do
  requireAdmin host signers state operator
  let loaded ← loadV2 host state
  .ok (loaded.2.set host.types.configV2 .config { loaded.1 with paused := paused })

/-- `migrate`: the eager form of the conversion. [SRC counter-v2/src/lib.rs:88-91] -/
def migrate (operator : Address) : Except Trap (CounterState Val Hash) := do
  requireAdmin host signers state operator
  let loaded ← loadV2 host state
  .ok loaded.2

/-- `upgrade`. [SRC counter-v2/src/lib.rs:93-96] -/
def upgrade (newWasmHash : Hash) (operator : Address) : Except Trap (CounterState Val Hash) := do
  requireAdmin host signers state operator
  updateCurrentContractWasm host.uploaded newWasmHash state

/-- The calls of the second release. [SRC counter-v2/src/lib.rs:44-97] -/
def dispatch : CounterCall Address Hash → Except Trap (CounterResponse × CounterState Val Hash)
  | .count => do
      let result ← count host state
      .ok (.u32 result.1, result.2)
  | .increment => do
      let result ← increment host state
      .ok (.u32 result.1, result.2)
  | .paused => do
      let result ← paused host state
      .ok (.bool result.1, result.2)
  | .setPaused operator value => do
      let next ← setPaused host signers state operator value
      .ok (.void, next)
  | .migrate operator => do
      let next ← migrate host signers state operator
      .ok (.void, next)
  | .upgrade newWasmHash operator => do
      let next ← upgrade host signers state newWasmHash operator
      .ok (.void, next)

end CounterV2

/-! ### The unsafe build -/

namespace UnsafeCounter

/-- `__constructor`. [SRC counter-unsafe/src/lib.rs:21-24] -/
def constructor (admin : Address) : CounterState Val Hash :=
  (state.set host.types.address .admin admin).set host.types.u64 .count 0

/-- `count`, of another type and under another key. [SRC counter-unsafe/src/lib.rs:27-29] -/
def count : Except Trap UInt64 := do
  let stored ← state.get host.types.u64 .count
  .ok (stored.getD 0)

/-- The unsafe build has no other function. [SRC counter-unsafe/src/lib.rs:19-30] -/
def dispatch : CounterCall Address Hash → Except Trap (CounterResponse × CounterState Val Hash)
  | .count => do
      let value ← count host state
      .ok (.u64 value, state)
  | _ => .error .missingFunction

end UnsafeCounter

/-! ### Invocations -/

/-- The executable that is installed answers a call. -/
def CounterHost.invoke : Machine (CounterState Val Hash)
    (Signed Address (CounterCall Address Hash)) CounterResponse Trap := fun signed state =>
  match host.uploaded state.executable with
  | none => .error .missingWasm
  | some .v1 => CounterV1.dispatch host signed.signers state signed.call
  | some .v2 => CounterV2.dispatch host signed.signers state signed.call
  | some .unsafeCounter => UnsafeCounter.dispatch host state signed.call

/-- The constructor runs once, when the contract is deployed. -/
def CounterHost.deploy (release : CounterRelease) (executable : Hash) (admin : Address) :
    CounterState Val Hash :=
  match release with
  | .v1 => CounterV1.constructor host (.empty executable) admin
  | .v2 => CounterV2.constructor host (.empty executable) admin
  | .unsafeCounter => UnsafeCounter.constructor host (.empty executable) admin

end Builds

end SorobanUpgrades
