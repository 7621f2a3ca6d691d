/-
Module: SorobanUpgrades.Core.Host
Purpose: What the example contracts use of the contract host: typed storage,
  authorization and the replacement of the executable. The conversion of types to
  host values is a parameter.
Trusted boundary: human-reviewed spec
Main exports: Trap, ValCodec, ContractState, Signed, signedBy, requireAuth,
  updateCurrentContractWasm
-/
import SorobanUpgrades.Library.Transaction

namespace SorobanUpgrades

/-- Why the host rolls an invocation back. -/
inductive Trap where
  /-- `panic_with_error!` with the code of a contract error. -/
  | contractError (code : UInt32)
  /-- `require_auth` of an address that did not sign. -/
  | authorization
  /-- `unwrap` of an entry that is absent. -/
  | absent
  /-- A stored value of another type. -/
  | conversion
  /-- Checked arithmetic. -/
  | overflow
  | missingFunction
  | missingWasm
deriving DecidableEq, Repr

/-! ### Host values -/

/-- The conversions `IntoVal` and `TryFromVal` of a type. -/
structure ValCodec (Val α : Type) where
  intoVal : α → Val
  tryFromVal : Val → Option α

/-- What is written is read back. -/
def ValCodec.RoundTrips {Val α : Type} (codec : ValCodec Val α) : Prop :=
  ∀ value, codec.tryFromVal (codec.intoVal value) = some value

/-! ### Contract state -/

/-- The executable of a contract and the entries that it stored. -/
structure ContractState (Key Val Hash : Type) where
  executable : Hash
  storage : Key → Option Val

namespace ContractState

variable {Key Val Hash α : Type} (state : ContractState Key Val Hash)

/-- `storage().get(key)`. -/
def get (codec : ValCodec Val α) (key : Key) : Except Trap (Option α) :=
  match state.storage key with
  | none => .ok none
  | some value =>
      match codec.tryFromVal value with
      | none => .error .conversion
      | some value => .ok (some value)

/-- `storage().get(key).unwrap()`. -/
def getUnwrap (codec : ValCodec Val α) (key : Key) : Except Trap α := do
  match ← state.get codec key with
  | none => .error .absent
  | some value => .ok value

/-- `storage().set(key, value)`. -/
def set [DecidableEq Key] (codec : ValCodec Val α) (key : Key) (value : α) :
    ContractState Key Val Hash :=
  { state with storage := Function.update state.storage key (some (codec.intoVal value)) }

variable {state} {codec : ValCodec Val α} {key : Key}

theorem get_eq_of_decoded {value : Val} {decoded : α} (stored : state.storage key = some value)
    (decodes : codec.tryFromVal value = some decoded) :
    state.get codec key = .ok (some decoded) := by
  rw [get, stored]
  simp only [decodes]

theorem getUnwrap_eq_of_decoded {value : Val} {decoded : α}
    (stored : state.storage key = some value) (decodes : codec.tryFromVal value = some decoded) :
    state.getUnwrap codec key = .ok decoded := by
  rw [getUnwrap, get_eq_of_decoded stored decodes]
  rfl

/-- A value of another type is not read. -/
theorem getUnwrap_eq_of_foreign {value : Val} (stored : state.storage key = some value)
    (foreign : codec.tryFromVal value = none) :
    state.getUnwrap codec key = .error .conversion := by
  rw [getUnwrap, get, stored]
  simp only [foreign]
  rfl

end ContractState

/-! ### Invocations -/

/-- A call with the addresses that signed it. -/
structure Signed (Address Call : Type) where
  call : Call
  signers : Address → Bool

/-- A call that one address signed. -/
def signedBy {Address Call : Type} [DecidableEq Address] (signer : Address) (call : Call) :
    Signed Address Call where
  call := call
  signers := fun address => decide (address = signer)

/-- `operator.require_auth()`. -/
def requireAuth {Address : Type} (signers : Address → Bool) (operator : Address) :
    Except Trap Unit :=
  if signers operator = true then .ok () else .error .authorization

/-- `env.deployer().update_current_contract_wasm(hash)`: the new executable must have
been uploaded, and answers the next invocation. -/
def updateCurrentContractWasm {Key Val Hash Release : Type} (uploaded : Hash → Option Release)
    (hash : Hash) (state : ContractState Key Val Hash) :
    Except Trap (ContractState Key Val Hash) :=
  match uploaded hash with
  | none => .error .missingWasm
  | some _ => .ok { state with executable := hash }

/-- `value + 1` on `u32` with overflow checks. -/
def checkedIncrement (value : UInt32) : Except Trap UInt32 :=
  if value.toNat + 1 < UInt32.size then .ok (value + 1) else .error .overflow

end SorobanUpgrades
