/-
Module: SorobanUpgrades.Proofs.CheckVerdicts
Purpose: What it means that a check of the network evidence, the host interface,
  the entrypoint, the versions or the interfaces raises no error.
Trusted boundary: none
Main exports: unblocked_pushedFindings_iff, unblocked_checkUpgradeEntrypoint_iff,
  unblocked_checkVersions_iff, unblocked_compareInterfaces_iff
-/
import SorobanUpgrades.Core.Validate

namespace SorobanUpgrades

variable {primitives : Primitives} {source target : Artifact} {policy : Policy}
  {context : ValidationContext}

/-- The verdict is the conjunction of the verdicts of the checks. -/
theorem unblocked_pushedFindings_iff {sourceSchema targetSchema : Option StorageSchema}
    {schemaHistory : Option SchemaHistory} :
    Unblocked (pushedFindings primitives source target sourceSchema targetSchema policy context
      schemaHistory) ↔
    Unblocked (checkPolicy policy) ∧ Unblocked (checkProtocolContext context) ∧
      Unblocked (checkEnvironmentCompatibility target context) ∧
      Unblocked (checkCap0086 target context) ∧
      Unblocked (checkUpgradeEntrypoint source target policy) ∧
      Unblocked (checkConstructor target policy) ∧
      Unblocked (checkVersions primitives source target policy) ∧
      Unblocked (compareInterfaces source target policy context) ∧
      Unblocked (checkHistoryEvidence primitives source target policy schemaHistory) ∧
      Unblocked (checkStorageEvidence primitives source target policy sourceSchema
        targetSchema) ∧
      Unblocked (checkImpactLimit (tracePublicImpacts source target).2) := by
  simp only [pushedFindings, unblocked_append, and_assoc]

/-! ### Network evidence and host interface -/

theorem unblocked_checkPolicy_iff : Unblocked (checkPolicy policy) ↔ policy.formatVersion = 1 := by
  rw [checkPolicy, unblocked_append, unblocked_error_iff, not_not, and_iff_left]
  split <;> simp

/-- The context carries a protocol exactly when it says where the protocol comes
from, and a live read carries the whole network identity. -/
def EvidencedProtocol (context : ValidationContext) : Prop :=
  match context.protocolSource with
  | .unpinned => context.targetProtocolVersion = none
  | .offlineAssertion => context.targetProtocolVersion.isSome = true
  | .stellarCliNetworkInfo =>
      context.targetProtocolVersion.isSome = true ∧ context.networkName.isSome = true ∧
        context.networkId.isSome = true ∧ context.networkPassphrase.isSome = true ∧
        context.rpcVersion.isSome = true ∧ context.observedAtUnixSeconds.isSome = true

theorem unblocked_checkProtocolContext_iff :
    Unblocked (checkProtocolContext context) ↔ EvidencedProtocol context := by
  unfold checkProtocolContext EvidencedProtocol
  cases context.protocolSource with
  | unpinned => cases context.targetProtocolVersion <;> simp
  | offlineAssertion => cases context.targetProtocolVersion <;> simp
  | stellarCliNetworkInfo =>
      dsimp only
      split
      · rename_i complete
        simp only [Bool.and_eq_true] at complete
        simp [complete]
      · rename_i incomplete
        simp only [Bool.and_eq_true, and_assoc] at incomplete
        simp [incomplete]

theorem unblocked_checkEnvironmentCompatibility_iff :
    Unblocked (checkEnvironmentCompatibility target context) ↔
      target.envPreRelease = 0 ∧ ∀ protocol, context.targetProtocolVersion = some protocol →
        target.envProtocolVersion ≤ protocol := by
  simp only [checkEnvironmentCompatibility, unblocked_append, unblocked_error_iff, not_not,
    Bool.not_eq_true]
  cases context.targetProtocolVersion with
  | none => simp
  | some protocol => simp

theorem unblocked_checkSparseProtocol_iff {protocol : UInt32} :
    Unblocked (checkSparseProtocol target protocol) ↔
      (target.usesCap0086SparseRead = true ∨ target.usesCap0086SparseWrite = true →
        cap0086Protocol ≤ protocol) := by
  simp only [checkSparseProtocol, unblocked_ite, Bool.and_eq_true, Bool.or_eq_true,
    decide_eq_true_eq, unblocked_cons, isError_error, isError_info, isError_warning,
    unblocked_nil, and_true, implies_true, Bool.true_eq_false, imp_false, not_and, UInt32.not_lt]

/-- Sparse imports need protocol 28 and an export that reaches them. -/
def SparseSupported (target : Artifact) (context : ValidationContext) : Prop :=
  (∀ protocol, context.targetProtocolVersion = some protocol →
    target.usesCap0086SparseRead = true ∨ target.usesCap0086SparseWrite = true →
      cap0086Protocol ≤ protocol) ∧
  (target.usesCap0086SparseRead = true →
    target.exportsReaching cap0086SparseReadImport ≠ []) ∧
  (target.usesCap0086SparseWrite = true →
    target.exportsReaching cap0086SparseWriteImport ≠ [])

theorem unblocked_checkCap0086_iff :
    Unblocked (checkCap0086 target context) ↔ SparseSupported target context := by
  have pinned : Unblocked (context.targetProtocolVersion.elim [] (checkSparseProtocol target)) ↔
      ∀ protocol, context.targetProtocolVersion = some protocol →
        target.usesCap0086SparseRead = true ∨ target.usesCap0086SparseWrite = true →
          cap0086Protocol ≤ protocol := by
    cases context.targetProtocolVersion with
    | none => simp
    | some protocol => simp [unblocked_checkSparseProtocol_iff]
  simp only [checkCap0086, SparseSupported, unblocked_append, pinned, unblocked_warning, unblocked_error_iff,
    and_true, Bool.and_eq_true, List.isEmpty_iff, not_and, ne_eq, and_assoc]

/-! ### Entrypoint and versions -/

/-- The artifact declares `upgrade`, and its `upgrade` export reaches the update. -/
def Artifact.Upgradable (artifact : Artifact) : Prop :=
  artifact.hasFunction "upgrade" = true ∧ ∃ evidence,
    artifact.exportCallEvidence["upgrade"]? = some evidence ∧
      updateCurrentContractWasmImport ∈ evidence.hostImports

theorem upgradable_iff {artifact : Artifact} :
    artifact.Upgradable ↔
      artifact.hasFunction "upgrade" = true ∧ artifact.reachesUpdate = true := by
  simp only [Artifact.Upgradable, Artifact.reachesUpdate, Option.any_eq_true,
    Std.ExtTreeSet.mem_iff_contains]

theorem unblocked_checkUpgradeEntrypoint_iff (required : policy.requireUpgradeFunction = true) :
    Unblocked (checkUpgradeEntrypoint source target policy) ↔
      source.Upgradable ∧ target.Upgradable := by
  have capability : ∀ (artifact : Artifact) (side code : String),
      artifact.hasFunction "upgrade" = true →
      (Unblocked (checkUpgradeHostCapability artifact side code) ↔
        artifact.reachesUpdate = true) := by
    intro artifact side code declared
    simp [checkUpgradeHostCapability, declared, unblocked_error_iff]
  have declaredSource : Unblocked (checkUpgradeHostCapability source "source" "UPG003") →
      source.hasFunction "upgrade" = true := by
    intro clear
    by_contra absent
    rw [Bool.not_eq_true] at absent
    simp [checkUpgradeHostCapability, absent] at clear
  simp only [checkUpgradeEntrypoint, required, Bool.true_and, if_true, unblocked_append,
    unblocked_error_iff, Bool.not_eq_true', Bool.not_eq_false, upgradable_iff]
  constructor
  · rintro ⟨targetDeclared, sourceClear, targetClear⟩
    have sourceDeclared := declaredSource sourceClear
    exact ⟨⟨sourceDeclared, (capability _ _ _ sourceDeclared).1 sourceClear⟩, targetDeclared,
      (capability _ _ _ targetDeclared).1 targetClear⟩
  · rintro ⟨⟨sourceDeclared, sourceReaches⟩, targetDeclared, targetReaches⟩
    exact ⟨targetDeclared, (capability _ _ _ sourceDeclared).2 sourceReaches,
      (capability _ _ _ targetDeclared).2 targetReaches⟩

/-- Both versions are present and readable, and the target has the greater one. -/
def VersionIncreases (primitives : Primitives) (source target : Artifact) : Prop :=
  ∃ sourceText targetText sourceVersion targetVersion,
    source.version = some sourceText ∧ target.version = some targetText ∧
      primitives.parseVersion sourceText = some sourceVersion ∧
      primitives.parseVersion targetText = some targetVersion ∧ sourceVersion < targetVersion

theorem unblocked_checkVersions_iff (required : policy.requireSemverIncrease = true) :
    Unblocked (checkVersions primitives source target policy) ↔
      VersionIncreases primitives source target := by
  simp only [checkVersions, required, Bool.not_true, Bool.false_eq_true, if_false,
    VersionIncreases]
  cases source.version with
  | none => simp
  | some sourceText =>
      cases target.version with
      | none => simp
      | some targetText =>
          dsimp only
          cases sourceRead : primitives.parseVersion sourceText with
          | none => simp [sourceRead]
          | some sourceVersion =>
              cases targetRead : primitives.parseVersion targetText with
              | none => simp [targetRead]
              | some targetVersion => simp [sourceRead, targetRead, unblocked_ite]

/-! ### Interfaces -/

/-- Every entry of the source keeps its definition in the target. -/
def Retained (source target : StringMap InterfaceEntry) : Prop :=
  ∀ (name : String) (old : InterfaceEntry), source[name]? = some old →
    ∃ new : InterfaceEntry, target[name]? = some new ∧ old.canonical = new.canonical

theorem unblocked_compareFunction_iff (removed : policy.denyRemovedFunctions = true)
    (changed : policy.denyChangedFunctions = true) {name : String} {old : InterfaceEntry} :
    Unblocked (compareFunction policy target name old) ↔
      ∃ new, target.functions[name]? = some new ∧ old.canonical = new.canonical := by
  unfold compareFunction
  cases target.functions[name]? with
  | none => simp [removed]
  | some new => simp [changed, unblocked_ite]

theorem unblocked_compareEvent_iff (removed : policy.denyRemovedEvents = true)
    (changed : policy.denyChangedEvents = true) {name : String} {old : InterfaceEntry} :
    Unblocked (compareEvent policy target name old) ↔
      ∃ new, target.events[name]? = some new ∧ old.canonical = new.canonical := by
  unfold compareEvent
  cases target.events[name]? with
  | none => simp [removed]
  | some new => simp [changed, unblocked_ite]

theorem unblocked_compareUserType_iff (changed : policy.denyChangedUserTypes = true)
    {name : String} {old : InterfaceEntry} :
    Unblocked (compareUserType policy context target name old) ↔
      ∃ new, target.userTypes[name]? = some new ∧ old.canonical = new.canonical := by
  unfold compareUserType
  cases target.userTypes[name]? with
  | none => simp [changed]
  | some new => simp [changed, unblocked_ite, isError_compareChangedType]

/-- A policy that denies every interface change lets only retained interfaces pass. -/
theorem unblocked_compareInterfaces_iff (removedFunctions : policy.denyRemovedFunctions = true)
    (changedFunctions : policy.denyChangedFunctions = true)
    (removedEvents : policy.denyRemovedEvents = true)
    (changedEvents : policy.denyChangedEvents = true)
    (changedTypes : policy.denyChangedUserTypes = true) :
    Unblocked (compareInterfaces source target policy context) ↔
      Retained source.functions target.functions ∧ Retained source.events target.events ∧
        Retained source.userTypes target.userTypes := by
  rw [compareInterfaces, unblocked_append, unblocked_append, unblocked_forEach_iff,
    unblocked_forEach_iff, unblocked_forEach_iff, and_assoc]
  simp only [unblocked_compareFunction_iff removedFunctions changedFunctions,
    unblocked_compareEvent_iff removedEvents changedEvents,
    unblocked_compareUserType_iff changedTypes, Retained]

end SorobanUpgrades
