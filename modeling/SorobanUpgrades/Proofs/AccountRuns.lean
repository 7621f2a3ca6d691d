/-
Module: SorobanUpgrades.Proofs.AccountRuns
Purpose: The account contract over whole runs: a release with one more optional field
  ends the contract under dense decoding and keeps its balance under sparse decoding.
Trusted boundary: human-reviewed spec
Main exports: StoredAccount.Change, AccountHost.Ended, dense_replacement_is_final,
  sparse_replacement_keeps_balance
-/
import SorobanUpgrades.Proofs.AccountStorage

namespace SorobanUpgrades

open Transaction

namespace StoredAccount

variable {Val Address Hash : Type}

/-! ### What one call changes -/

section Changes

variable [DecidableEq Address] {decoding : Decoding} {uploaded : Hash → Option AccountRelease}
  {account next : StoredAccount Address Hash}
  {signed : Signed Address (AccountCall Address Hash)} {result : AccountResponse Address}

/-- An answered `deposit` adds its amount. -/
def deposits (signed : Signed Address (AccountCall Address Hash)) (_ : AccountResponse Address) :
    ℤ :=
  match signed.call with
  | .deposit amount => amount.value
  | _ => 0

/-- What a call that is answered does to an account. -/
structure Change (decoding : Decoding) (signed : Signed Address (AccountCall Address Hash))
    (account : StoredAccount Address Hash) (result : AccountResponse Address)
    (next : StoredAccount Address Hash) : Prop where
  balance : next.balance.value = account.balance.value + deposits signed result
  form : next.form = account.form ∨ decoding.reads next.form account.form = true

theorem change_of_respond {form : AccountForm}
    (reads : decoding.reads form account.form = true)
    (answered : account.respond uploaded signed.signers form signed.call = .ok (result, next)) :
    Change decoding signed account result next := by
  cases call : signed.call with
  | balance | account =>
      rw [call] at answered
      cases answered
      exact ⟨by simp only [deposits, call, add_zero], .inl rfl⟩
  | deposit amount =>
      rw [call, respond, Outcome.bind_eq_ok_iff] at answered
      obtain ⟨balance, added, done⟩ := answered
      cases done
      refine ⟨?_, .inr reads⟩
      simp only [deposits, call]
      exact I128.checkedAdd_eq_ok added
  | upgrade hash operator =>
      rw [call, respond, install, Outcome.seq_eq_ok_iff] at answered
      obtain ⟨_, answered⟩ := answered
      split at answered
      · cases answered
      · split at answered
        · cases answered
        · cases answered
          exact ⟨by simp only [deposits, call, add_zero], .inl rfl⟩

theorem change_of_machine
    (answered : machine decoding uploaded signed account = .ok (result, next)) :
    Change decoding signed account result next := by
  have read : ∀ form, account.read decoding uploaded signed form = .ok (result, next) →
      Change decoding signed account result next := by
    intro form answered
    rw [StoredAccount.read] at answered
    split at answered
    case isTrue reads => exact change_of_respond reads answered
    case isFalse => exact absurd answered reject_ne_ok
  rw [machine] at answered
  split at answered
  · cases answered
  · exact read .v1 answered
  · exact read .v2 answered
  · exact absurd answered reject_ne_ok

end Changes

/-! ### Runs of an account -/

section Runs

variable [DecidableEq Address] {decoding : Decoding} {uploaded : Hash → Option AccountRelease}
  {account : StoredAccount Address Hash}
  {calls : List (Signed Address (AccountCall Address Hash))}

theorem balance_runs : (runs (machine decoding uploaded) calls account).balance.value =
    account.balance.value + total (machine decoding uploaded) deposits calls account := by
  refine runs_measure (fun reached : StoredAccount Address Hash => reached.balance.value)
    (fun _ => True) (fun _ _ _ _ _ _ => trivial) ?_ trivial
  intro signed _ reached result _ answered
  exact (change_of_machine answered).balance

/-- Under dense decoding an account keeps the type it was stored as. -/
theorem form_runs_dense : (runs (machine .dense uploaded) calls account).form = account.form := by
  refine runs_invariant (fun reached : StoredAccount Address Hash =>
    reached.form = account.form) ?_ rfl
  intro signed _ reached result same answered
  rcases (change_of_machine answered).form with kept | reads
  · exact kept.trans same
  · exact (of_decide_eq_true reads).trans same

theorem answer_balance {form : AccountForm} {signers : Address → Bool}
    (running : uploaded account.executable = some form.release)
    (reads : decoding.reads form account.form = true) :
    answer (machine decoding uploaded) ⟨.balance, signers⟩ account =
      .ok (.i128 account.balance) := by
  cases form <;> simp only [AccountForm.release] at running <;>
    simp only [answer, machine, running, read, if_pos reads, respond, Except.map]

/-- Without a release that reads the account nothing is committed. -/
theorem machine_ne_ok (unread : ∀ form : AccountForm,
      uploaded account.executable = some form.release → decoding.reads form account.form = false)
    (signed : Signed Address (AccountCall Address Hash))
    (result : AccountResponse Address × StoredAccount Address Hash) :
    machine decoding uploaded signed account ≠ .ok result := by
  have unreadable : ∀ form : AccountForm, uploaded account.executable = some form.release →
      account.read decoding uploaded signed form ≠ .ok result := by
    intro form running
    rw [read, if_neg (by simp [unread form running])]
    exact reject_ne_ok
  rw [machine]
  cases running : uploaded account.executable with
  | none => simp
  | some release =>
      cases release with
      | v1 => exact unreadable .v1 running
      | v2 => exact unreadable .v2 running
      | unsafeAccount => exact reject_ne_ok

end Runs

end StoredAccount

/-! ### Deployed accounts -/

section Deployed

variable {Val Address Hash : Type} [DecidableEq Address]

/-- The storage of an account after the calls. -/
def AccountHost.reached (host : AccountHost Val Address Hash) (release : AccountRelease)
    (executable : Hash) (owner : Address)
    (calls : List (Signed Address (AccountCall Address Hash))) : AccountState Val Hash :=
  runs host.invoke calls (host.deploy release executable owner)

/-- No later call is answered, and nothing changes any more. -/
def AccountHost.Ended (host : AccountHost Val Address Hash) (state : AccountState Val Hash) :
    Prop :=
  ∀ later : List (Signed Address (AccountCall Address Hash)), runs host.invoke later state = state ∧
    ∀ given ∈ answers host.invoke later state, ∃ trap, given = .error trap

variable {host : AccountHost Val Address Hash} {decoding : Decoding}
  {account : StoredAccount Address Hash}

theorem simulates_account (lawful : host.types.Lawful decoding) :
    Simulates (fun (concrete : AccountState Val Hash) (account : StoredAccount Address Hash) =>
      concrete = account.state host) (fun _ => True) host.invoke
      (StoredAccount.machine decoding host.uploaded) :=
  simulates_of_eq fun _ _ => StoredAccount.invoke_state lawful _

theorem ended_of_unread (lawful : host.types.Lawful decoding)
    (unread : ∀ form : AccountForm, host.uploaded account.executable = some form.release →
      decoding.reads form account.form = false) :
    host.Ended (account.state host) := by
  intro later
  have stuck : ∀ signed ∈ later, ∀ result,
      StoredAccount.machine decoding host.uploaded signed account ≠ .ok result :=
    fun signed _ result => StoredAccount.machine_ne_ok unread signed result
  have simulates := simulates_account lawful
  constructor
  · rw [simulates.runs (fun _ _ => trivial) rfl, runs_frozen stuck]
  · rw [simulates.answers_eq (fun _ _ => trivial) rfl]
    exact answers_frozen stuck

omit [DecidableEq Address] in
/-- An account starts without a balance, stored by its release. -/
theorem deploy_account (host : AccountHost Val Address Hash) (form : AccountForm)
    (executable : Hash) (owner : Address) :
    ∃ account : StoredAccount Address Hash,
      host.deploy form.release executable owner = account.state host ∧
        account.balance.value = 0 ∧ account.form = form := by
  refine ⟨{ executable := executable, owner := owner, balance := .zero, form := form }, ?_, rfl,
    rfl⟩
  cases form with
  | v1 =>
      simp only [AccountForm.release, AccountHost.deploy, Cap86V1.constructor, ContractState.set,
        AccountState.empty, StoredAccount.state]
      congr 1
  | v2 =>
      simp only [AccountForm.release, AccountHost.deploy, Cap86V2.constructor, ContractState.set,
        AccountState.empty, StoredAccount.state]
      congr 1

/-- What was stored after a run: the sum of the answered deposits. -/
theorem reached_account (host : AccountHost Val Address Hash)
    (lawful : host.types.Lawful decoding) (form : AccountForm) (executable : Hash)
    (owner : Address) (calls : List (Signed Address (AccountCall Address Hash))) :
    ∃ account : StoredAccount Address Hash,
      host.reached form.release executable owner calls = account.state host ∧
      account.balance.value = total host.invoke StoredAccount.deposits calls
        (host.deploy form.release executable owner) ∧
      (decoding = .dense → account.form = form) := by
  obtain ⟨account, deployed, zero, rfl⟩ := deploy_account host form executable owner
  have simulates := simulates_account lawful
  refine ⟨runs (StoredAccount.machine decoding host.uploaded) calls account, ?_, ?_, ?_⟩
  · rw [AccountHost.reached, deployed]
    exact simulates.runs (fun _ _ => trivial) rfl
  · rw [StoredAccount.balance_runs, zero, zero_add, deployed]
    exact (simulates.total_eq (fun _ _ => trivial) rfl).symm
  · intro dense
    rw [dense]
    exact StoredAccount.form_runs_dense

namespace Sample

/-- The fields of a stored account, in the order of their names. -/
inductive AccountField where
  | void
  | address (value : String)
  | i128 (value : I128)
  | u32 (value : UInt32)
  | u64 (value : UInt64)

abbrev AccountVal := List (String × AccountField)

def accountV1 : ValCodec AccountVal (AccountV1 String) where
  intoVal := fun account => [("balance", .i128 account.balance), ("owner", .address account.owner)]
  tryFromVal
    | [("balance", .i128 balance), ("owner", .address owner)] =>
        some { owner := owner, balance := balance }
    | _ => none

def unsafeAccount : ValCodec AccountVal (UnsafeAccount String) where
  intoVal := fun account => [("amount", .u64 account.amount), ("owner", .address account.owner),
    ("status", .u32 account.status)]
  tryFromVal
    | [("amount", .u64 amount), ("owner", .address owner), ("status", .u32 status)] =>
        some { owner := owner, amount := amount, status := status }
    | _ => none

def denseV2 : ValCodec AccountVal (AccountV2 String) where
  intoVal := fun account => [("balance", .i128 account.balance), ("owner", .address account.owner),
    ("status", account.status.elim .void .u32)]
  tryFromVal
    | [("balance", .i128 balance), ("owner", .address owner), ("status", .void)] =>
        some { owner := owner, balance := balance, status := none }
    | [("balance", .i128 balance), ("owner", .address owner), ("status", .u32 status)] =>
        some { owner := owner, balance := balance, status := some status }
    | _ => none

def sparseV2 : ValCodec AccountVal (AccountV2 String) where
  intoVal := fun account =>
    [("balance", .i128 account.balance), ("owner", .address account.owner)] ++
      (account.status.map fun status => ("status", .u32 status)).toList
  tryFromVal
    | [("balance", .i128 balance), ("owner", .address owner)] =>
        some { owner := owner, balance := balance, status := none }
    | [("balance", .i128 balance), ("owner", .address owner), ("status", .u32 status)] =>
        some { owner := owner, balance := balance, status := some status }
    | _ => none

def accountTypes (decoding : Decoding) : AccountTypes AccountVal String where
  accountV1 := accountV1
  accountV2 :=
    match decoding with
    | .dense => denseV2
    | .sparse => sparseV2
  unsafeAccount := unsafeAccount

theorem accountTypes_lawful (decoding : Decoding) : (accountTypes decoding).Lawful decoding := by
  constructor
  · intro form owner balance
    cases decoding <;> cases form <;> rfl
  · intro form owner balance
    cases decoding <;> cases form <;> rfl
  · intro form owner balance
    cases decoding <;> cases form <;> rfl

def accountHost (decoding : Decoding) : AccountHost AccountVal String String where
  types := accountTypes decoding
  uploaded := fun hash =>
    [("first", .v1), ("second", .v2), ("third", .unsafeAccount)].lookup hash

def five : I128 := ⟨5, by decide, by decide⟩

/-- A deposit, the upgrade, a deposit, the way back and another deposit. -/
def accountCalls : List (Signed String (AccountCall String String)) :=
  [signedBy "user" (.deposit five), signedBy "owner" (.upgrade "second" "owner"),
    signedBy "user" (.deposit five), signedBy "owner" (.upgrade "first" "owner"),
    signedBy "user" (.deposit five)]

end Sample

/-- Under dense decoding the release that the contract was deployed with answers the sum
of the answered deposits. Once anything else is installed no call is answered any more,
so that nothing can be installed in its place. -/
theorem dense_replacement_is_final (host : AccountHost Val Address Hash)
    (lawful : host.types.Lawful .dense) (form : AccountForm) (executable : Hash)
    (owner : Address) (calls : List (Signed Address (AccountCall Address Hash))) :
    ∃ balance : I128,
      balance.value = total host.invoke StoredAccount.deposits calls
        (host.deploy form.release executable owner) ∧
      (host.uploaded (host.reached form.release executable owner calls).executable =
          some form.release →
        ∀ signers, answer host.invoke ⟨.balance, signers⟩
          (host.reached form.release executable owner calls) = .ok (.i128 balance)) ∧
      (host.uploaded (host.reached form.release executable owner calls).executable ≠
          some form.release →
        host.Ended (host.reached form.release executable owner calls)) := by
  obtain ⟨account, same, counted, kept⟩ := reached_account host lawful form executable owner calls
  rw [same, StoredAccount.executable_state]
  refine ⟨account.balance, counted, ?_, ?_⟩
  · intro running signers
    rw [((simulates_account lawful).step trivial rfl).1]
    exact StoredAccount.answer_balance running (decide_eq_true (kept rfl).symm)
  · intro replaced
    refine ended_of_unread lawful ?_
    intro other running
    refine decide_eq_false ?_
    intro reader
    rw [reader, kept rfl] at running
    exact replaced running

/-- The upgrade ends the sample account, and the way back is refused. -/
theorem sampleDense_replacement_is_final :
    (Sample.accountHost .dense).Ended
      ((Sample.accountHost .dense).reached .v1 "first" "owner" Sample.accountCalls) := by
  have replaced : (Sample.accountHost .dense).uploaded
      ((Sample.accountHost .dense).reached .v1 "first" "owner" Sample.accountCalls).executable ≠
        some .v1 := by
    decide +kernel
  obtain ⟨_, _, _, ended⟩ := dense_replacement_is_final (Sample.accountHost .dense)
    (Sample.accountTypes_lawful .dense) .v1 "first" "owner" Sample.accountCalls
  exact ended replaced

/-- Under sparse decoding both releases answer the sum of the deposits that were
answered by either, over all upgrades and downgrades. Only the unsafe build ends the
contract. -/
theorem sparse_replacement_keeps_balance (host : AccountHost Val Address Hash)
    (lawful : host.types.Lawful .sparse) (form : AccountForm) (executable : Hash)
    (owner : Address) (calls : List (Signed Address (AccountCall Address Hash))) :
    ∃ balance : I128,
      balance.value = total host.invoke StoredAccount.deposits calls
        (host.deploy form.release executable owner) ∧
      (∀ running : AccountForm,
        host.uploaded (host.reached form.release executable owner calls).executable =
            some running.release →
          ∀ signers, answer host.invoke ⟨.balance, signers⟩
            (host.reached form.release executable owner calls) = .ok (.i128 balance)) ∧
      (host.uploaded (host.reached form.release executable owner calls).executable =
          some .unsafeAccount →
        host.Ended (host.reached form.release executable owner calls)) := by
  obtain ⟨account, same, counted, _⟩ := reached_account host lawful form executable owner calls
  rw [same, StoredAccount.executable_state]
  refine ⟨account.balance, counted, ?_, ?_⟩
  · intro reader running signers
    rw [((simulates_account lawful).step trivial rfl).1]
    exact StoredAccount.answer_balance running rfl
  · intro replaced
    refine ended_of_unread lawful ?_
    intro other running
    rw [replaced] at running
    cases other <;> cases running

/-- The sample account keeps its deposits on the way there and back. -/
theorem sampleSparse_replacement_keeps_balance :
    ∃ balance : I128, balance.value = 15 ∧
      answer (Sample.accountHost .sparse).invoke (signedBy "user" .balance)
        ((Sample.accountHost .sparse).reached .v1 "first" "owner" Sample.accountCalls) =
          .ok (.i128 balance) := by
  obtain ⟨balance, counted, answered, _⟩ := sparse_replacement_keeps_balance
    (Sample.accountHost .sparse) (Sample.accountTypes_lawful .sparse) .v1 "first" "owner"
    Sample.accountCalls
  refine ⟨balance, counted.trans ?_, answered .v1 ?_ _⟩
  · decide +kernel
  · decide +kernel

end Deployed

end SorobanUpgrades
