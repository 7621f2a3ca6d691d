/-
Module: SorobanUpgrades.Core.Types
Purpose: The data model of the checker: artifacts, policies, declarations,
  findings, validation reports and upgrade plans.
Trusted boundary: human-reviewed spec
Main exports: Finding, Artifact, ValidationContext, Policy, StorageSchema,
  SchemaHistory, EvidenceCoverage, PublicImpact, ValidationReport, UpgradePlan
-/
import SorobanUpgrades.Library.Json

namespace SorobanUpgrades

/-!
`[SRC lib.rs:..]` and `[SRC main.rs:..]` cite the lines of the core crate
(`crates/soroban-upgrades-core/src`) and of the command line
(`crates/soroban-upgrades-cli/src`) that a definition embeds.
-/

/-! ### Findings -/

/-- How much a finding weighs. Only errors block a release. [SRC lib.rs:168-172] -/
inductive Severity where
  | info
  | warning
  | error
deriving DecidableEq, Repr, Ord

/-- One result of a check, with its code and its texts. [SRC lib.rs:176-182] -/
structure Finding where
  code : String
  severity : Severity
  title : String
  detail : String
  remediation : String
deriving DecidableEq, Repr

/-- A finding that blocks the release. [SRC lib.rs:2343-2351] -/
def error (code title detail remediation : String) : Finding :=
  { code, severity := .error, title, detail, remediation }

/-- A finding to review that does not block. [SRC lib.rs:2353-2361] -/
def warning (code title detail remediation : String) : Finding :=
  { code, severity := .warning, title, detail, remediation }

/-- A finding that only informs. [SRC lib.rs:2363-2371] -/
def info (code title detail remediation : String) : Finding :=
  { code, severity := .info, title, detail, remediation }

/-! ### Artifacts -/

/-- A specification entry without its documentation. [SRC lib.rs:186-190] -/
structure InterfaceEntry where
  kind : String
  name : String
  canonical : Value
deriving DecidableEq, Repr

/-- Where a type stands in the signature of a function. [SRC lib.rs:196-199] -/
inductive BoundaryPosition where
  | input
  | output
deriving DecidableEq, Repr

/-- Declaration order of the positions. -/
def BoundaryPosition.rank : BoundaryPosition → Nat
  | .input => 0
  | .output => 1

/-- A user type in the signature of a function. `index` counts inputs or outputs from zero.
[SRC lib.rs:203-209] -/
structure PublicTypeBoundary where
  function : String
  position : BoundaryPosition
  index : UInt64
  label : Option String
  rootType : String
deriving DecidableEq, Repr

/-- A member of a struct or a union case that mentions a user type. [SRC lib.rs:213-217] -/
structure TypeReference where
  ownerType : String
  member : String
  targetType : String
deriving DecidableEq, Repr

/-- What direct calls from an export reach. [SRC lib.rs:221-224] -/
structure ExportCallEvidence where
  hostImports : StringSet
  dynamicDispatchReachable : Bool
deriving DecidableEq

/-- What is read of a compiled contract. [SRC lib.rs:242-256] -/
structure Artifact where
  formatVersion : UInt32
  sha256 : String
  sizeBytes : UInt64
  envProtocolVersion : UInt32
  envPreRelease : UInt32
  metadata : StringMap String
  hostImports : StringSet
  functions : StringMap InterfaceEntry
  events : StringMap InterfaceEntry
  userTypes : StringMap InterfaceEntry
  publicTypeBoundaries : List PublicTypeBoundary
  typeReferences : List TypeReference
  exportCallEvidence : StringMap ExportCallEvidence
deriving DecidableEq

/-- `CAP_0086_PROTOCOL`: the first protocol with sparse map access. [SRC lib.rs:28] -/
def cap0086Protocol : UInt32 := 28

/-- `CAP_0086_SPARSE_WRITE_IMPORT`. [SRC lib.rs:29] -/
def cap0086SparseWriteImport : String := "m.b"

/-- `CAP_0086_SPARSE_READ_IMPORT`. [SRC lib.rs:30] -/
def cap0086SparseReadImport : String := "m.c"

/-- `UPDATE_CURRENT_CONTRACT_WASM_IMPORT`: the host function that replaces the executable.
[SRC lib.rs:31] -/
def updateCurrentContractWasmImport : String := "l.6"

namespace Artifact

/-- The declared version, from the metadata key `binver`. [SRC lib.rs:458-460] -/
def version (artifact : Artifact) : Option String := artifact.metadata["binver"]?

/-- The contract specification lists the function. Exports are not consulted.
[SRC lib.rs:462-464] -/
def hasFunction (artifact : Artifact) (name : String) : Bool := artifact.functions.contains name

/-- The sparse map reader is among the host imports. [SRC lib.rs:466-468] -/
def usesCap0086SparseRead (artifact : Artifact) : Bool :=
  artifact.hostImports.contains cap0086SparseReadImport

/-- The sparse map writer is among the host imports. [SRC lib.rs:470-472] -/
def usesCap0086SparseWrite (artifact : Artifact) : Bool :=
  artifact.hostImports.contains cap0086SparseWriteImport

end Artifact

/-! ### Context and policy -/

/-- Where the protocol version comes from. [SRC lib.rs:791-796] -/
inductive ProtocolSource where
  | unpinned
  | offlineAssertion
  | stellarCliNetworkInfo
deriving DecidableEq, Repr

/-- The network that a validation is made for, as far as it is known. [SRC lib.rs:800-809] -/
structure ValidationContext where
  targetProtocolVersion : Option UInt32
  protocolSource : ProtocolSource
  networkName : Option String
  networkId : Option String
  networkPassphrase : Option String
  rpcVersion : Option String
  captiveCoreVersion : Option String
  observedAtUnixSeconds : Option UInt64
deriving DecidableEq, Repr

/-- The derived default: nothing is known. [SRC lib.rs:800-809] -/
def ValidationContext.default : ValidationContext where
  targetProtocolVersion := none
  protocolSource := .unpinned
  networkName := none
  networkId := none
  networkPassphrase := none
  rpcVersion := none
  captiveCoreVersion := none
  observedAtUnixSeconds := none

/-- Which differences between two artifacts block a release. [SRC lib.rs:813-826] -/
structure Policy where
  formatVersion : UInt32
  name : String
  requireUpgradeFunction : Bool
  forbidConstructor : Bool
  requireSemverIncrease : Bool
  requireStorageSchema : Bool
  requireSchemaHistory : Bool
  denyRemovedFunctions : Bool
  denyChangedFunctions : Bool
  denyRemovedEvents : Bool
  denyChangedEvents : Bool
  denyChangedUserTypes : Bool
deriving DecidableEq, Repr

/-- Everything is required or denied, except a constructor. [SRC lib.rs:828-845] -/
def Policy.default : Policy where
  formatVersion := 1
  name := "soroban-upgrades-default"
  requireUpgradeFunction := true
  forbidConstructor := false
  requireSemverIncrease := true
  requireStorageSchema := true
  requireSchemaHistory := true
  denyRemovedFunctions := true
  denyChangedFunctions := true
  denyRemovedEvents := true
  denyChangedEvents := true
  denyChangedUserTypes := true

/-! ### Declarations -/

/-- How the values under a storage key reach a new layout. [SRC lib.rs:855-859] -/
structure Migration where
  strategy : String
  entrypoint : Option String
  notes : Option String
deriving DecidableEq, Repr

/-- The kind of ledger entry that holds a value. [SRC lib.rs:863-867] -/
inductive Durability where
  | instanceStorage
  | persistent
  | temporary
deriving DecidableEq, Repr

/-- The debug name, as it stands in finding details. -/
def Durability.debug : Durability → String
  | .instanceStorage => "Instance"
  | .persistent => "Persistent"
  | .temporary => "Temporary"

/-- A declared storage key. [SRC lib.rs:871-878] -/
structure StorageEntry where
  key : String
  durability : Durability
  valueType : String
  migration : Option Migration
deriving DecidableEq, Repr

/-- The declared storage layout of one release. [SRC lib.rs:882-888] -/
structure StorageSchema where
  formatVersion : UInt32
  complete : Bool
  schemaVersion : UInt32
  contractVersion : String
  entries : List StorageEntry
deriving DecidableEq, Repr

/-- A struct field with the releases that added and retired it. [SRC lib.rs:898-904] -/
structure HistoricalField where
  valueType : Value
  firstSeen : String
  retiredIn : Option String
deriving DecidableEq, Repr

/-- The fields a struct ever had, and the names it keeps out of use. [SRC lib.rs:908-913] -/
structure TypeHistory where
  fields : StringMap HistoricalField
  reservedFields : StringSet
deriving DecidableEq

/-- The field histories of all structs. `sourceSha256` is the digest of the file.
[SRC lib.rs:917-924] -/
structure SchemaHistory where
  formatVersion : UInt32
  complete : Bool
  types : StringMap TypeHistory
  sourceSha256 : String
deriving DecidableEq

/-! ### Evidence and impacts -/

/-- How well a statement of the report is supported. [SRC lib.rs:938-942] -/
inductive EvidenceStatus where
  | fact
  | inference
  | unknown
deriving DecidableEq, Repr

/-- Declaration order of the evidence labels. -/
def EvidenceStatus.rank : EvidenceStatus → Nat
  | .fact => 0
  | .inference => 1
  | .unknown => 2

/-- A statement of the report with its support. [SRC lib.rs:946-951] -/
structure EvidenceItem where
  status : EvidenceStatus
  claim : String
  basis : String
  limitation : Option String
deriving DecidableEq, Repr

/-- The nine statements that every report makes about its evidence. [SRC lib.rs:955-965] -/
structure EvidenceCoverage where
  compiledContractSpec : EvidenceItem
  artifactHostImports : EvidenceItem
  targetNetworkProtocol : EvidenceItem
  declaredStorageSchema : EvidenceItem
  declaredSchemaHistory : EvidenceItem
  ledgerStorageCoverage : EvidenceItem
  deployedCallerGraph : EvidenceItem
  cap0086PerTypeReaderBinding : EvidenceItem
  migrationCompletion : EvidenceItem
deriving DecidableEq, Repr

/-- A type reference on the way from a boundary to a changed type. [SRC lib.rs:969-973] -/
structure ImpactStep where
  ownerType : String
  member : String
  targetType : String
deriving DecidableEq, Repr

/-- A changed type that a boundary reaches, with the way there. [SRC lib.rs:977-983] -/
structure PublicImpact where
  changedType : String
  boundary : PublicTypeBoundary
  steps : List ImpactStep
  structuralReachability : EvidenceStatus
  runtimeCompatibility : EvidenceStatus
deriving DecidableEq, Repr

/-- The result of a validation, with everything it was computed from. [SRC lib.rs:987-1007] -/
structure ValidationReport where
  formatVersion : UInt32
  toolVersion : String
  safe : Bool
  policy : Policy
  context : ValidationContext
  source : Artifact
  target : Artifact
  findings : List Finding
  publicImpacts : List PublicImpact
  evidence : EvidenceCoverage
  storageSchemaChecked : Bool
  schemaHistoryChecked : Bool
  policySha256 : String
  sourceSchemaSha256 : Option String
  targetSchemaSha256 : Option String
  schemaHistorySha256 : Option String
  sourceSchema : Option StorageSchema
  targetSchema : Option StorageSchema
  schemaHistory : Option SchemaHistory
deriving DecidableEq

/-! ### Plans -/

/-- The kinds of plan steps, in execution order. [SRC lib.rs:2375-2383] -/
inductive PlanStepKind where
  | verifyCurrentExecutable
  | uploadTargetWasm
  | simulateUpgrade
  | executeUpgrade
  | executeMigration
  | verifyExecutable
  | verifyInvariants
deriving DecidableEq, Repr

/-- A plan under an assumed protocol is a draft only. [SRC lib.rs:2387-2390] -/
inductive PlanStatus where
  | offlineDraft
  | reviewReady
deriving DecidableEq, Repr

/-- A command of a plan. `command` is the rendering of the program and its arguments.
[SRC lib.rs:2394-2401] -/
structure PlanStep where
  position : UInt32
  kind : PlanStepKind
  program : String
  arguments : List String
  command : String
  expected : String
deriving DecidableEq, Repr

/-- The call of a migration entrypoint, with its arguments by name. [SRC lib.rs:2405-2408] -/
structure MigrationCall where
  entrypoint : String
  arguments : StringMap String
deriving DecidableEq

/-- The command that checks the invariants after the upgrade. [SRC lib.rs:2412-2415] -/
structure InvariantCheck where
  program : String
  arguments : List String
deriving DecidableEq, Repr

/-- The parts of a plan that the operator chooses. [SRC lib.rs:2419-2422] -/
structure PlanOperations where
  migration : Option MigrationCall
  invariantCheck : InvariantCheck
deriving DecidableEq

/-- The files that a plan was made from. [SRC lib.rs:2426-2433] -/
structure PlanInputPaths where
  sourceWasm : String
  targetWasm : String
  sourceSchema : String
  targetSchema : String
  schemaHistory : String
  policy : Option String
deriving DecidableEq, Repr

/-- A reviewed upgrade with its evidence and its steps. [SRC lib.rs:2477-2494] -/
structure UpgradePlan where
  formatVersion : UInt32
  planSha256 : String
  status : PlanStatus
  network : String
  contractId : String
  sourceIdentity : String
  inputs : PlanInputPaths
  sourceWasmSha256 : String
  targetWasmSha256 : String
  rollbackWasmSha256 : String
  fromVersion : Option String
  toVersion : Option String
  migration : Option MigrationCall
  invariantCheck : InvariantCheck
  validation : ValidationReport
  steps : List PlanStep
deriving DecidableEq

/-! ### Orders

Sorted collections compare records field by field, in declaration order. -/

section Orders

open Std

instance : Ord BoundaryPosition := ⟨compareOn BoundaryPosition.rank⟩

instance : TransOrd BoundaryPosition := inferInstanceAs <| TransCmp (compareOn _)

instance : LawfulEqOrd BoundaryPosition where
  eq_of_compare {left right} equal := by
    cases left <;> cases right <;> first | rfl | exact absurd equal (by decide)

instance : Ord EvidenceStatus := ⟨compareOn EvidenceStatus.rank⟩

instance : TransOrd EvidenceStatus := inferInstanceAs <| TransCmp (compareOn _)

instance : LawfulEqOrd EvidenceStatus where
  eq_of_compare {left right} equal := by
    cases left <;> cases right <;> first | rfl | exact absurd equal (by decide)

/-- The derived order: field by field. [SRC lib.rs:203-209] -/
def PublicTypeBoundary.order : PublicTypeBoundary → PublicTypeBoundary → Ordering :=
  compareLex (compareOn (·.function)) <| compareLex (compareOn (·.position)) <|
    compareLex (compareOn (·.index)) <| compareLex (compareOn (·.label))
      (compareOn (·.rootType))

instance : Ord PublicTypeBoundary := ⟨PublicTypeBoundary.order⟩

instance : TransOrd PublicTypeBoundary := inferInstanceAs <| TransCmp (compareLex _ _)

instance : LawfulEqOrd PublicTypeBoundary where
  eq_of_compare {left right} equal := by
    change PublicTypeBoundary.order left right = .eq at equal
    cases left
    cases right
    simp only [PublicTypeBoundary.order, compareLex_eq_eq, compareOn] at equal
    obtain ⟨function, position, index, label, rootType⟩ := equal
    simp only [PublicTypeBoundary.mk.injEq]
    exact ⟨LawfulEqOrd.eq_of_compare function, LawfulEqOrd.eq_of_compare position,
      LawfulEqOrd.eq_of_compare index, LawfulEqOrd.eq_of_compare label,
      LawfulEqOrd.eq_of_compare rootType⟩

/-- The derived order: field by field. [SRC lib.rs:213-217] -/
def TypeReference.order : TypeReference → TypeReference → Ordering :=
  compareLex (compareOn (·.ownerType)) <| compareLex (compareOn (·.member))
    (compareOn (·.targetType))

instance : Ord TypeReference := ⟨TypeReference.order⟩

instance : TransOrd TypeReference := inferInstanceAs <| TransCmp (compareLex _ _)

instance : LawfulEqOrd TypeReference where
  eq_of_compare {left right} equal := by
    change TypeReference.order left right = .eq at equal
    cases left
    cases right
    simp only [TypeReference.order, compareLex_eq_eq, compareOn] at equal
    obtain ⟨ownerType, member, targetType⟩ := equal
    simp only [TypeReference.mk.injEq]
    exact ⟨LawfulEqOrd.eq_of_compare ownerType, LawfulEqOrd.eq_of_compare member,
      LawfulEqOrd.eq_of_compare targetType⟩

/-- The derived order: field by field. [SRC lib.rs:969-973] -/
def ImpactStep.order : ImpactStep → ImpactStep → Ordering :=
  compareLex (compareOn (·.ownerType)) <| compareLex (compareOn (·.member))
    (compareOn (·.targetType))

instance : Ord ImpactStep := ⟨ImpactStep.order⟩

instance : TransOrd ImpactStep := inferInstanceAs <| TransCmp (compareLex _ _)

instance : LawfulEqOrd ImpactStep where
  eq_of_compare {left right} equal := by
    change ImpactStep.order left right = .eq at equal
    cases left
    cases right
    simp only [ImpactStep.order, compareLex_eq_eq, compareOn] at equal
    obtain ⟨ownerType, member, targetType⟩ := equal
    simp only [ImpactStep.mk.injEq]
    exact ⟨LawfulEqOrd.eq_of_compare ownerType, LawfulEqOrd.eq_of_compare member,
      LawfulEqOrd.eq_of_compare targetType⟩

/-- The derived order: field by field. [SRC lib.rs:977-983] -/
def PublicImpact.order : PublicImpact → PublicImpact → Ordering :=
  compareLex (compareOn (·.changedType)) <| compareLex (compareOn (·.boundary)) <|
    compareLex (compareOn (·.steps)) <| compareLex (compareOn (·.structuralReachability))
      (compareOn (·.runtimeCompatibility))

instance : Ord PublicImpact := ⟨PublicImpact.order⟩

instance : TransOrd PublicImpact := inferInstanceAs <| TransCmp (compareLex _ _)

instance : LawfulEqOrd PublicImpact where
  eq_of_compare {left right} equal := by
    change PublicImpact.order left right = .eq at equal
    cases left
    cases right
    simp only [PublicImpact.order, compareLex_eq_eq, compareOn] at equal
    obtain ⟨changedType, boundary, steps, structural, runtime⟩ := equal
    simp only [PublicImpact.mk.injEq]
    exact ⟨LawfulEqOrd.eq_of_compare changedType, LawfulEqOrd.eq_of_compare boundary,
      LawfulEqOrd.eq_of_compare steps, LawfulEqOrd.eq_of_compare structural,
      LawfulEqOrd.eq_of_compare runtime⟩

end Orders

end SorobanUpgrades
