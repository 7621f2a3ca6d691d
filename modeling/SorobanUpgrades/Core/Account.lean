/-
Module: SorobanUpgrades.Core.Account
Purpose: The example account contract in its three builds: the first release, the
  second release, whose account has one more optional field, and a build whose account
  is another type.
Trusted boundary: human-reviewed spec
Main exports: I128, AccountTypes, Cap86V1, Cap86V2, Cap86Unsafe, AccountHost.invoke,
  AccountHost.deploy
-/
import SorobanUpgrades.Core.Host

namespace SorobanUpgrades

open Transaction (Machine)

/-! ### 128-bit integers -/

/-- `i128`. -/
structure I128 where
  value : Int
  lower : -2 ^ 127 ≤ value
  upper : value < 2 ^ 127
deriving DecidableEq

namespace I128

/-- The integer zero. -/
def zero : I128 := ⟨0, by decide, by decide⟩

/-- `left + right` with overflow checks. [SRC cap86-v1/src/lib.rs:52] -/
def checkedAdd (left right : I128) : Except Trap I128 :=
  if bounds : -2 ^ 127 ≤ left.value + right.value ∧ left.value + right.value < 2 ^ 127 then
    .ok ⟨left.value + right.value, bounds.1, bounds.2⟩
  else
    .error .overflow

theorem checkedAdd_eq_ok {left right sum : I128} (added : left.checkedAdd right = .ok sum) :
    sum.value = left.value + right.value := by
  rw [checkedAdd] at added
  split at added
  · cases added
    rfl
  · cases added

/-- `value as i128` of a `u64`. [SRC cap86-unsafe/src/lib.rs:51] -/
def ofUInt64 (value : UInt64) : I128 where
  value := value.toNat
  lower := by omega
  upper := by
    have bound := value.toNat_lt
    omega

/-- `value.max(0) as u64`: the low 64 bits. [SRC cap86-unsafe/src/lib.rs:60] -/
def maxZeroAsUInt64 (value : I128) : UInt64 := UInt64.ofNat value.value.toNat

end I128

/-- `left.saturating_add(right)` on `u64`. [SRC cap86-unsafe/src/lib.rs:60] -/
def saturatingAdd (left right : UInt64) : UInt64 :=
  if left.toNat + right.toNat < UInt64.size then left + right else UInt64.ofNat (UInt64.size - 1)

/-! ### Types -/

/-- `DataKey`. [SRC cap86-v1/src/lib.rs:12-14] -/
inductive AccountKey where
  | account
deriving DecidableEq, Repr

/-- The account of the first release. [SRC cap86-v1/src/lib.rs:18-21] -/
structure AccountV1 (Address : Type) where
  owner : Address
  balance : I128

/-- The account of the second release, with one more optional field.
[SRC cap86-v2/src/lib.rs:20-24] -/
structure AccountV2 (Address : Type) where
  owner : Address
  balance : I128
  status : Option UInt32

/-- The account of the unsafe build. [SRC cap86-unsafe/src/lib.rs:20-24] -/
structure UnsafeAccount (Address : Type) where
  owner : Address
  amount : UInt64
  status : UInt32

/-- How the types of the contract are stored. -/
structure AccountTypes (Val Address : Type) where
  accountV1 : ValCodec Val (AccountV1 Address)
  accountV2 : ValCodec Val (AccountV2 Address)
  unsafeAccount : ValCodec Val (UnsafeAccount Address)

/-- The storage of an account. -/
abbrev AccountState (Val Hash : Type) := ContractState AccountKey Val Hash

/-- The builds of the contract. -/
inductive AccountRelease where
  | v1
  | v2
  | unsafeAccount
deriving DecidableEq, Repr

/-- The functions of the builds. -/
inductive AccountCall (Address Hash : Type) where
  | balance
  | account
  | deposit (amount : I128)
  | upgrade (newWasmHash : Hash) (operator : Address)

/-- The results of the functions. -/
inductive AccountResponse (Address : Type) where
  | void
  | i128 (value : I128)
  | accountV1 (value : AccountV1 Address)
  | accountV2 (value : AccountV2 Address)
  | unsafeAccount (value : UnsafeAccount Address)

/-- The codecs, and which build an uploaded module is. -/
structure AccountHost (Val Address Hash : Type) where
  types : AccountTypes Val Address
  uploaded : Hash → Option AccountRelease

/-- `ContractError::Unauthorized`. [SRC cap86-v1/src/lib.rs:26-28] -/
def accountUnauthorized : Trap := .contractError 1

section Builds

variable {Val Address Hash : Type} [DecidableEq Address]
  (host : AccountHost Val Address Hash) (signers : Address → Bool)
  (state : AccountState Val Hash)

/-- A contract that stored nothing yet. -/
def AccountState.empty (executable : Hash) : AccountState Val Hash where
  executable := executable
  storage := fun _ => none

/-- The `upgrade` of all three builds, for an account type with an owner.
[SRC cap86-v1/src/lib.rs:57-64] -/
def upgradeAccount {α : Type} (codec : ValCodec Val α) (owner : α → Address)
    (newWasmHash : Hash) (operator : Address) : Except Trap (AccountState Val Hash) := do
  requireAuth signers operator
  let account ← state.getUnwrap codec .account
  if owner account ≠ operator then
    .error accountUnauthorized
  else
    updateCurrentContractWasm host.uploaded newWasmHash state

/-! ### The first release -/

namespace Cap86V1

/-- `__constructor`. [SRC cap86-v1/src/lib.rs:35-39] -/
def constructor (owner : Address) : AccountState Val Hash :=
  state.set host.types.accountV1 .account { owner := owner, balance := .zero }

/-- `account`. [SRC cap86-v1/src/lib.rs:46-48] -/
def account : Except Trap (AccountV1 Address) :=
  state.getUnwrap host.types.accountV1 .account

/-- `balance`. [SRC cap86-v1/src/lib.rs:41-44] -/
def balance : Except Trap I128 := do
  let account ← account host state
  .ok account.balance

/-- `deposit`. [SRC cap86-v1/src/lib.rs:50-55] -/
def deposit (amount : I128) : Except Trap (I128 × AccountState Val Hash) := do
  let account ← account host state
  let balance ← account.balance.checkedAdd amount
  .ok (balance, state.set host.types.accountV1 .account { account with balance := balance })

/-- `upgrade`. [SRC cap86-v1/src/lib.rs:57-64] -/
def upgrade (newWasmHash : Hash) (operator : Address) : Except Trap (AccountState Val Hash) :=
  upgradeAccount host signers state host.types.accountV1 (·.owner) newWasmHash operator

/-- The calls of the first release. [SRC cap86-v1/src/lib.rs:34-65] -/
def dispatch :
    AccountCall Address Hash → Except Trap (AccountResponse Address × AccountState Val Hash)
  | .balance => do
      let value ← balance host state
      .ok (.i128 value, state)
  | .account => do
      let value ← account host state
      .ok (.accountV1 value, state)
  | .deposit amount => do
      let result ← deposit host state amount
      .ok (.i128 result.1, result.2)
  | .upgrade newWasmHash operator => do
      let next ← upgrade host signers state newWasmHash operator
      .ok (.void, next)

end Cap86V1

/-! ### The second release -/

namespace Cap86V2

/-- `__constructor`. [SRC cap86-v2/src/lib.rs:37-47] -/
def constructor (owner : Address) : AccountState Val Hash :=
  state.set host.types.accountV2 .account
    { owner := owner, balance := .zero, status := none }

/-- `account`. [SRC cap86-v2/src/lib.rs:54-56] -/
def account : Except Trap (AccountV2 Address) :=
  state.getUnwrap host.types.accountV2 .account

/-- `balance`. [SRC cap86-v2/src/lib.rs:49-52] -/
def balance : Except Trap I128 := do
  let account ← account host state
  .ok account.balance

/-- `deposit`. [SRC cap86-v2/src/lib.rs:58-63] -/
def deposit (amount : I128) : Except Trap (I128 × AccountState Val Hash) := do
  let account ← account host state
  let balance ← account.balance.checkedAdd amount
  .ok (balance, state.set host.types.accountV2 .account { account with balance := balance })

/-- `upgrade`. [SRC cap86-v2/src/lib.rs:65-72] -/
def upgrade (newWasmHash : Hash) (operator : Address) : Except Trap (AccountState Val Hash) :=
  upgradeAccount host signers state host.types.accountV2 (·.owner) newWasmHash operator

/-- The calls of the second release. [SRC cap86-v2/src/lib.rs:36-73] -/
def dispatch :
    AccountCall Address Hash → Except Trap (AccountResponse Address × AccountState Val Hash)
  | .balance => do
      let value ← balance host state
      .ok (.i128 value, state)
  | .account => do
      let value ← account host state
      .ok (.accountV2 value, state)
  | .deposit amount => do
      let result ← deposit host state amount
      .ok (.i128 result.1, result.2)
  | .upgrade newWasmHash operator => do
      let next ← upgrade host signers state newWasmHash operator
      .ok (.void, next)

end Cap86V2

/-! ### The unsafe build -/

namespace Cap86Unsafe

/-- `__constructor`. [SRC cap86-unsafe/src/lib.rs:37-47] -/
def constructor (owner : Address) : AccountState Val Hash :=
  state.set host.types.unsafeAccount .account
    { owner := owner, amount := 0, status := 0 }

/-- `account`. [SRC cap86-unsafe/src/lib.rs:54-56] -/
def account : Except Trap (UnsafeAccount Address) :=
  state.getUnwrap host.types.unsafeAccount .account

/-- `balance`, converted from another type. [SRC cap86-unsafe/src/lib.rs:49-52] -/
def balance : Except Trap I128 := do
  let account ← account host state
  .ok (.ofUInt64 account.amount)

/-- `deposit`. Negative amounts count as nothing, and the sum saturates.
[SRC cap86-unsafe/src/lib.rs:58-63] -/
def deposit (amount : I128) : Except Trap (I128 × AccountState Val Hash) := do
  let account ← account host state
  let total := saturatingAdd account.amount amount.maxZeroAsUInt64
  .ok (.ofUInt64 total, state.set host.types.unsafeAccount .account { account with amount := total })

/-- `upgrade`. [SRC cap86-unsafe/src/lib.rs:65-72] -/
def upgrade (newWasmHash : Hash) (operator : Address) : Except Trap (AccountState Val Hash) :=
  upgradeAccount host signers state host.types.unsafeAccount (·.owner) newWasmHash operator

/-- The calls of the unsafe build. [SRC cap86-unsafe/src/lib.rs:36-73] -/
def dispatch :
    AccountCall Address Hash → Except Trap (AccountResponse Address × AccountState Val Hash)
  | .balance => do
      let value ← balance host state
      .ok (.i128 value, state)
  | .account => do
      let value ← account host state
      .ok (.unsafeAccount value, state)
  | .deposit amount => do
      let result ← deposit host state amount
      .ok (.i128 result.1, result.2)
  | .upgrade newWasmHash operator => do
      let next ← upgrade host signers state newWasmHash operator
      .ok (.void, next)

end Cap86Unsafe

/-! ### Invocations -/

/-- The executable that is installed answers a call. -/
def AccountHost.invoke : Machine (AccountState Val Hash)
    (Signed Address (AccountCall Address Hash)) (AccountResponse Address) Trap :=
  fun signed state =>
    match host.uploaded state.executable with
    | none => .error .missingWasm
    | some .v1 => Cap86V1.dispatch host signed.signers state signed.call
    | some .v2 => Cap86V2.dispatch host signed.signers state signed.call
    | some .unsafeAccount => Cap86Unsafe.dispatch host signed.signers state signed.call

/-- The constructor runs once, when the contract is deployed. -/
def AccountHost.deploy (release : AccountRelease) (executable : Hash) (owner : Address) :
    AccountState Val Hash :=
  match release with
  | .v1 => Cap86V1.constructor host (.empty executable) owner
  | .v2 => Cap86V2.constructor host (.empty executable) owner
  | .unsafeAccount => Cap86Unsafe.constructor host (.empty executable) owner

end Builds

end SorobanUpgrades
