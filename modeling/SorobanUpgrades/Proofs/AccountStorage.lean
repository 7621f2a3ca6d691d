/-
Module: SorobanUpgrades.Proofs.AccountStorage
Purpose: What the storage of the account contract means when structs are decoded densely
  and when they are decoded sparsely.
Trusted boundary: human-reviewed spec
Main exports: Decoding, AccountTypes.Lawful, StoredAccount, StoredAccount.machine,
  StoredAccount.invoke_state
-/
import SorobanUpgrades.Core.Account
import SorobanUpgrades.Library.Outcome

namespace SorobanUpgrades

open Transaction

/-! ### Decoding -/

/-- The release that an account was stored by. -/
inductive AccountForm where
  | v1
  | v2
deriving DecidableEq, Repr

/-- The build that stores this form. -/
def AccountForm.release : AccountForm → AccountRelease
  | .v1 => .v1
  | .v2 => .v2

/-- Whether the fields of a stored map must be exactly those of the struct, or
optional fields may be missing. A sparse writer leaves out what is `None`. -/
inductive Decoding where
  | dense
  | sparse
deriving DecidableEq, Repr

/-- Whether a release reads an account that a release stored without a status. -/
def Decoding.reads : Decoding → AccountForm → AccountForm → Bool
  | .dense, reader, stored => decide (reader = stored)
  | .sparse, _, _ => true

/-- An account without a status, as a release stores it. -/
def AccountTypes.stored {Val Address : Type} (types : AccountTypes Val Address)
    (form : AccountForm) (owner : Address) (balance : I128) : Val :=
  match form with
  | .v1 => types.accountV1.intoVal { owner := owner, balance := balance }
  | .v2 => types.accountV2.intoVal { owner := owner, balance := balance, status := none }

/-- What the host documents about the two kinds of decoding. The account of the unsafe
build has another required field. -/
structure AccountTypes.Lawful {Val Address : Type} (types : AccountTypes Val Address)
    (decoding : Decoding) : Prop where
  accountV1 : ∀ form owner balance, types.accountV1.tryFromVal (types.stored form owner balance) =
    if decoding.reads .v1 form = true then some { owner := owner, balance := balance } else none
  accountV2 : ∀ form owner balance, types.accountV2.tryFromVal (types.stored form owner balance) =
    if decoding.reads .v2 form = true then
      some { owner := owner, balance := balance, status := none }
    else none
  unsafeAccount : ∀ form owner balance,
    types.unsafeAccount.tryFromVal (types.stored form owner balance) = none

/-! ### Stored accounts -/

/-- What the storage of the contract means. -/
structure StoredAccount (Address Hash : Type) where
  executable : Hash
  owner : Address
  balance : I128
  form : AccountForm

namespace StoredAccount

variable {Val Address Hash : Type}

/-- The storage of an account. -/
def state (host : AccountHost Val Address Hash) (account : StoredAccount Address Hash) :
    AccountState Val Hash where
  executable := account.executable
  storage := fun _ => some (host.types.stored account.form account.owner account.balance)

/-- What `account` returns. -/
def response (account : StoredAccount Address Hash) : AccountForm → AccountResponse Address
  | .v1 => .accountV1 { owner := account.owner, balance := account.balance }
  | .v2 => .accountV2 { owner := account.owner, balance := account.balance, status := none }

/-- A release that cannot read the account. -/
def reject {α : Type} (signers : Address → Bool) : AccountCall Address Hash → Except Trap α
  | .upgrade _ operator => do
      requireAuth signers operator
      .error .conversion
  | _ => .error .conversion

theorem map_reject {α β : Type} {signers : Address → Bool} {call : AccountCall Address Hash}
    {next : α → β} :
    (reject signers call : Except Trap α).map next = reject signers call := by
  cases call with
  | balance | account | deposit amount => rfl
  | upgrade hash operator =>
      rw [reject, reject]
      cases requireAuth signers operator <;> rfl

/-- Nothing is committed. -/
theorem reject_ne_ok {α : Type} {signers : Address → Bool} {call : AccountCall Address Hash}
    {result : α} : reject signers call ≠ .ok result := by
  intro committed
  cases call with
  | balance | account | deposit amount => cases committed
  | upgrade hash operator =>
      obtain ⟨_, _, done⟩ := Outcome.bind_eq_ok_iff.1 committed
      cases done

section Machine

variable [DecidableEq Address]

/-- The owner installs an uploaded build. -/
def install (uploaded : Hash → Option AccountRelease) (signers : Address → Bool)
    (operator : Address) (hash : Hash) (account : StoredAccount Address Hash) :
    Except Trap (AccountResponse Address × StoredAccount Address Hash) := do
  requireAuth signers operator
  if account.owner ≠ operator then
    .error accountUnauthorized
  else
    match uploaded hash with
    | none => .error .missingWasm
    | some _ => .ok (.void, { account with executable := hash })

/-- A release that reads the account. -/
def respond (uploaded : Hash → Option AccountRelease) (signers : Address → Bool)
    (form : AccountForm) (account : StoredAccount Address Hash) :
    AccountCall Address Hash → Except Trap (AccountResponse Address × StoredAccount Address Hash)
  | .balance => .ok (.i128 account.balance, account)
  | .account => .ok (account.response form, account)
  | .deposit amount => do
      let balance ← account.balance.checkedAdd amount
      .ok (.i128 balance, { account with balance := balance, form := form })
  | .upgrade hash operator => account.install uploaded signers operator hash

/-- A release answers a call if it reads the account. -/
def read (decoding : Decoding) (uploaded : Hash → Option AccountRelease)
    (signed : Signed Address (AccountCall Address Hash)) (form : AccountForm)
    (account : StoredAccount Address Hash) :
    Except Trap (AccountResponse Address × StoredAccount Address Hash) :=
  if decoding.reads form account.form = true then
    account.respond uploaded signed.signers form signed.call
  else
    reject signed.signers signed.call

/-- The account as a machine of its own. -/
def machine (decoding : Decoding) (uploaded : Hash → Option AccountRelease) :
    Machine (StoredAccount Address Hash) (Signed Address (AccountCall Address Hash))
      (AccountResponse Address) Trap := fun signed account =>
  match uploaded account.executable with
  | none => .error .missingWasm
  | some .v1 => account.read decoding uploaded signed .v1
  | some .v2 => account.read decoding uploaded signed .v2
  | some .unsafeAccount => reject signed.signers signed.call

end Machine

/-! ### The storage of an account -/

section Storage

variable {host : AccountHost Val Address Hash} {account : StoredAccount Address Hash}
  {decoding : Decoding} {signers : Address → Bool}

@[simp] theorem executable_state : (account.state host).executable = account.executable := rfl

theorem state_set_v1 {balance : I128} :
    (account.state host).set host.types.accountV1 .account
        { owner := account.owner, balance := balance } =
      ({ account with balance := balance, form := .v1 } : StoredAccount Address Hash).state host := by
  rw [ContractState.set, state, state]
  congr 1

theorem state_set_v2 {balance : I128} :
    (account.state host).set host.types.accountV2 .account
        { owner := account.owner, balance := balance, status := none } =
      ({ account with balance := balance, form := .v2 } : StoredAccount Address Hash).state host := by
  rw [ContractState.set, state, state]
  congr 1

variable (lawful : host.types.Lawful decoding)
include lawful

theorem getUnwrap_v1 : (account.state host).getUnwrap host.types.accountV1 .account =
    if decoding.reads .v1 account.form = true then
      .ok { owner := account.owner, balance := account.balance }
    else .error .conversion := by
  have decodes := lawful.accountV1 account.form account.owner account.balance
  by_cases reads : decoding.reads .v1 account.form = true
  · rw [if_pos reads] at decodes ⊢
    exact ContractState.getUnwrap_eq_of_decoded rfl decodes
  · rw [if_neg reads] at decodes ⊢
    exact ContractState.getUnwrap_eq_of_foreign rfl decodes

theorem getUnwrap_v2 : (account.state host).getUnwrap host.types.accountV2 .account =
    if decoding.reads .v2 account.form = true then
      .ok { owner := account.owner, balance := account.balance, status := none }
    else .error .conversion := by
  have decodes := lawful.accountV2 account.form account.owner account.balance
  by_cases reads : decoding.reads .v2 account.form = true
  · rw [if_pos reads] at decodes ⊢
    exact ContractState.getUnwrap_eq_of_decoded rfl decodes
  · rw [if_neg reads] at decodes ⊢
    exact ContractState.getUnwrap_eq_of_foreign rfl decodes

theorem getUnwrap_unsafe : (account.state host).getUnwrap host.types.unsafeAccount .account =
    .error .conversion :=
  ContractState.getUnwrap_eq_of_foreign rfl (lawful.unsafeAccount _ _ _)

variable [DecidableEq Address]

omit lawful in
/-- A decoded account is upgraded by its owner. -/
theorem upgradeAccount_state {α : Type} {codec : ValCodec Val α} {owner : α → Address}
    {value : α} {hash : Hash} {operator : Address} (owns : owner value = account.owner)
    (decoded : (account.state host).getUnwrap codec .account = .ok value) :
    (do
      let next ← upgradeAccount host signers (account.state host) codec owner hash operator
      .ok (.void, next)) =
      (account.install host.uploaded signers operator hash).map
        fun result => (result.1, result.2.state host) := by
  rw [upgradeAccount, install, decoded]
  cases requireAuth signers operator with
  | error failure => rfl
  | ok signed =>
      simp only [Outcome.ok_bind, owns]
      by_cases other : account.owner ≠ operator
      · rw [if_pos other, if_pos other]
        rfl
      · rw [if_neg other, if_neg other, updateCurrentContractWasm]
        cases host.uploaded hash <;> rfl

omit lawful in
/-- An account that is not decoded cannot be upgraded either. -/
theorem upgradeAccount_undecoded {α : Type} {codec : ValCodec Val α} {owner : α → Address}
    {hash : Hash} {operator : Address}
    (undecoded : (account.state host).getUnwrap codec .account = .error .conversion) :
    (do
      let next ← upgradeAccount host signers (account.state host) codec owner hash operator
      .ok (.void, next)) =
      (reject signers (.upgrade hash operator) :
        Except Trap (AccountResponse Address × AccountState Val Hash)) := by
  rw [upgradeAccount, undecoded, reject]
  cases requireAuth signers operator <;> rfl

theorem dispatchV1_state (signed : Signed Address (AccountCall Address Hash)) :
    Cap86V1.dispatch host signed.signers (account.state host) signed.call =
      (account.read decoding host.uploaded signed .v1).map
        fun result => (result.1, result.2.state host) := by
  have decoded : (account.state host).getUnwrap host.types.accountV1 .account = _ :=
    getUnwrap_v1 lawful
  rw [read]
  by_cases reads : decoding.reads .v1 account.form = true
  · rw [if_pos reads] at decoded ⊢
    cases signed.call with
    | balance =>
        simp only [Cap86V1.dispatch, Cap86V1.balance, Cap86V1.account, decoded, Outcome.ok_bind,
          respond, Except.map]
    | account =>
        simp only [Cap86V1.dispatch, Cap86V1.account, decoded, Outcome.ok_bind, respond, Except.map,
          response]
    | deposit amount =>
        simp only [Cap86V1.dispatch, Cap86V1.deposit, Cap86V1.account, decoded, Outcome.ok_bind,
          respond]
        cases account.balance.checkedAdd amount with
        | error failure => rfl
        | ok balance => simp only [Outcome.ok_bind, state_set_v1, Except.map]
    | upgrade hash operator => exact upgradeAccount_state rfl decoded
  · rw [if_neg reads] at decoded ⊢
    rw [map_reject]
    cases signed.call with
    | balance | account | deposit amount =>
        simp only [Cap86V1.dispatch, Cap86V1.balance, Cap86V1.deposit, Cap86V1.account, decoded,
          Outcome.error_bind, reject]
    | upgrade hash operator => exact upgradeAccount_undecoded decoded

theorem dispatchV2_state (signed : Signed Address (AccountCall Address Hash)) :
    Cap86V2.dispatch host signed.signers (account.state host) signed.call =
      (account.read decoding host.uploaded signed .v2).map
        fun result => (result.1, result.2.state host) := by
  have decoded : (account.state host).getUnwrap host.types.accountV2 .account = _ :=
    getUnwrap_v2 lawful
  rw [read]
  by_cases reads : decoding.reads .v2 account.form = true
  · rw [if_pos reads] at decoded ⊢
    cases signed.call with
    | balance =>
        simp only [Cap86V2.dispatch, Cap86V2.balance, Cap86V2.account, decoded, Outcome.ok_bind,
          respond, Except.map]
    | account =>
        simp only [Cap86V2.dispatch, Cap86V2.account, decoded, Outcome.ok_bind, respond, Except.map,
          response]
    | deposit amount =>
        simp only [Cap86V2.dispatch, Cap86V2.deposit, Cap86V2.account, decoded, Outcome.ok_bind,
          respond]
        cases account.balance.checkedAdd amount with
        | error failure => rfl
        | ok balance => simp only [Outcome.ok_bind, state_set_v2, Except.map]
    | upgrade hash operator => exact upgradeAccount_state rfl decoded
  · rw [if_neg reads] at decoded ⊢
    rw [map_reject]
    cases signed.call with
    | balance | account | deposit amount =>
        simp only [Cap86V2.dispatch, Cap86V2.balance, Cap86V2.deposit, Cap86V2.account, decoded,
          Outcome.error_bind, reject]
    | upgrade hash operator => exact upgradeAccount_undecoded decoded

theorem dispatchUnsafe_state (signed : Signed Address (AccountCall Address Hash)) :
    Cap86Unsafe.dispatch host signed.signers (account.state host) signed.call =
      reject signed.signers signed.call := by
  have undecoded : (account.state host).getUnwrap host.types.unsafeAccount .account = _ :=
    getUnwrap_unsafe lawful
  cases signed.call with
  | balance | account | deposit amount =>
      simp only [Cap86Unsafe.dispatch, Cap86Unsafe.balance, Cap86Unsafe.deposit,
        Cap86Unsafe.account, undecoded, Outcome.error_bind, reject]
  | upgrade hash operator => exact upgradeAccount_undecoded undecoded

theorem invoke_state (signed : Signed Address (AccountCall Address Hash)) :
    host.invoke signed (account.state host) =
      (machine decoding host.uploaded signed account).map
        fun result => (result.1, result.2.state host) := by
  rw [AccountHost.invoke, machine, executable_state]
  cases host.uploaded account.executable with
  | none => rfl
  | some release =>
      cases release with
      | v1 => exact dispatchV1_state lawful signed
      | v2 => exact dispatchV2_state lawful signed
      | unsafeAccount => exact (dispatchUnsafe_state lawful signed).trans map_reject.symm

end Storage

end StoredAccount

end SorobanUpgrades
