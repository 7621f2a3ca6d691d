/-
Module: SorobanUpgrades.Core.Validate
Purpose: The assembly of a validation report from the checks, with its evidence
  coverage and its verdict.
Trusted boundary: human-reviewed spec
Main exports: buildEvidenceCoverage, pushedFindings, sortFindings, validateWithHistory
-/
import SorobanUpgrades.Core.History
import SorobanUpgrades.Core.Storage
import SorobanUpgrades.Core.Impact

namespace SorobanUpgrades

/-- The version of the package that writes the report. [SRC lib.rs:1167] -/
def toolVersion : String := "1.0.7"

/-! ### Evidence coverage -/

/-- The protocol item. A live answer counts with four of the six fields that NET006 asks for.
[SRC lib.rs:1250-1276] -/
def targetNetworkProtocolEvidence (context : ValidationContext) : EvidenceItem :=
  match context.protocolSource with
  | .offlineAssertion => {
      status := .inference
      claim := "The selected protocol is an offline release assumption."
      basis := "The operator supplied a protocol number without live network evidence."
      limitation := some "This does not prove that any named network has activated the protocol." }
  | .unpinned => unknown
  | .stellarCliNetworkInfo =>
      if context.targetProtocolVersion.isSome && context.networkName.isSome &&
          context.networkId.isSome && context.observedAtUnixSeconds.isSome then {
        status := .fact
        claim := "The named network reported the recorded target protocol at the observation time."
        basis := "Live Stellar CLI network-info evidence is embedded in the report."
        limitation := some "Network state can change. Resolve it again immediately before execution." }
      else unknown
where
  unknown : EvidenceItem := {
    status := .unknown
    claim := "The target network protocol is not established."
    basis := "No complete live network evidence is present."
    limitation := some "Resolve a named network before producing an executable release plan." }

/-- The storage item, by whether both schemas were given. [SRC lib.rs:1292-1306] -/
def declaredStorageSchemaEvidence (storageSchemaChecked : Bool) : EvidenceItem :=
  if storageSchemaChecked then {
    status := .fact
    claim := "The source-controlled source and target storage declarations were compared."
    basis := "A complete manifest pair was supplied and bound to the validation report."
    limitation := some "A declaration does not prove that it covers every ledger entry." }
  else {
    status := .unknown
    claim := "The declared storage change is not established."
    basis := "No complete source/target manifest pair was supplied."
    limitation := some "Contract Spec alone cannot recover a complete storage inventory." }

/-- The history item, by whether a history was given. [SRC lib.rs:1307-1321] -/
def declaredSchemaHistoryEvidence (schemaHistoryChecked : Bool) : EvidenceItem :=
  if schemaHistoryChecked then {
    status := .fact
    claim := "A cumulative source-controlled field history was checked."
    basis := "The history bytes are hashed into the validation and release plan."
    limitation := some "The history is a reviewed declaration, not proof of ledger-wide migration." }
  else {
    status := .unknown
    claim := "Historical field-name lifecycle is not established."
    basis := "No cumulative schema-history manifest was supplied."
    limitation := some "A two-release diff cannot detect older retired-name reuse." }

/-- The nine statements about the evidence. They depend on what was given, not on what the checks
found. [SRC lib.rs:1245-1347] -/
def buildEvidenceCoverage (context : ValidationContext)
    (storageSchemaChecked schemaHistoryChecked : Bool) : EvidenceCoverage where
  compiledContractSpec := {
    status := .fact
    claim := "The report compares the exact compiled Contract Spec entries in both artifacts."
    basis := "The validator parsed one unambiguous contractspecv0 section from each hashed WASM."
    limitation := some "Contract Spec is not a complete deployed-caller or storage inventory." }
  artifactHostImports := {
    status := .fact
    claim := "The report records artifact-wide host imports and direct per-export reachability."
    basis := "The validator inspected the WASM import, export, and code sections."
    limitation := some "Dynamic dispatch makes static reachability incomplete." }
  targetNetworkProtocol := targetNetworkProtocolEvidence context
  declaredStorageSchema := declaredStorageSchemaEvidence storageSchemaChecked
  declaredSchemaHistory := declaredSchemaHistoryEvidence schemaHistoryChecked
  ledgerStorageCoverage := {
    status := .unknown
    claim := "Complete live and archived ledger storage coverage is not proven."
    basis := "Artifact validation does not sample or enumerate deployed ledger state."
    limitation := some "Use an application-specific snapshot rehearsal before a production migration." }
  deployedCallerGraph := {
    status := .unknown
    claim := "The complete deployed caller graph and rollout order are not proven."
    basis := "Public impact paths are structural paths inside the two compiled Contract Specs."
    limitation := some "External contracts and off-chain clients can exist outside both artifacts." }
  cap0086PerTypeReaderBinding := {
    status := .unknown
    claim := "A global sparse-reader import is not bound to the changed type."
    basis := "Per-export direct-call reachability narrows the evidence but generated type-level binding is absent."
    limitation := some "Approve schema evolution only after type-specific runtime and rollout evidence." }
  migrationCompletion := {
    status := .unknown
    claim := "Ledger-wide migration completion and invariant preservation are not proven."
    basis := "The validator checks declarations but does not execute application migrations."
    limitation := some "Record application-specific rehearsal, completion, and invariant evidence." }

/-! ### Findings -/

/-- The history check, or HIS000 where no history is given. [SRC lib.rs:1097-1116] -/
def checkHistoryEvidence (primitives : Primitives) (source target : Artifact) (policy : Policy)
    (schemaHistory : Option SchemaHistory) : List Finding :=
  match schemaHistory with
  | some history => validateSchemaHistory primitives source target history
  | none =>
      if policy.requireSchemaHistory then
        [error "HIS000" "Historical field lifecycle was not checked"
          "A two-artifact comparison cannot detect reuse of a field name from an older release."
          "Commit a complete schema-history manifest and pass `--schema-history`."]
      else
        [warning "HIS000" "Historical field lifecycle was not checked"
          "A two-artifact comparison cannot detect reuse of a field name that existed in an older release or prove that archived state no longer contains retired layouts."
          "Commit a complete schema-history manifest and pass `--schema-history`."]

/-- The storage checks, STO000 without schemas, or STO004 with one schema only.
[SRC lib.rs:1118-1147] -/
def checkStorageEvidence (primitives : Primitives) (source target : Artifact) (policy : Policy)
    (sourceSchema targetSchema : Option StorageSchema) : List Finding :=
  match sourceSchema, targetSchema with
  | some before, some after =>
      validateSchemaManifests primitives source target before after ++
        compareStorageSchemas before after
  | none, none =>
      if policy.requireStorageSchema then
        [error "STO000" "Storage compatibility was not checked"
          "Soroban WASM does not contain a complete description of all storage keys and value layouts."
          "Commit complete source and target storage schemas and pass both files."]
      else
        [warning "STO000" "Storage compatibility was not checked"
          "Soroban WASM does not contain a complete description of all storage keys and value layouts."
          "Commit complete source and target storage schemas and pass both files."]
  | _, _ =>
      [error "STO004" "Storage schema pair is incomplete"
        "Only one side of the upgrade supplied a storage schema, so compatibility cannot be evaluated."
        "Supply both `--from-schema` and `--to-schema`."]

/-- RES001: a search for impacts was cut. [SRC lib.rs:1149-1157] -/
def checkImpactLimit (limitExceeded : Bool) : List Finding :=
  if limitExceeded then
    [error "RES001" "Public type-impact analysis exceeded its limit"
      "The type graph produced too many paths or too much traversal work for a complete result."
      "Reduce the public type graph or split the contract interface before approval."]
  else []

/-- The findings of a validation, in the order the checks push them. [SRC lib.rs:1055-1157] -/
def pushedFindings (primitives : Primitives) (source target : Artifact)
    (sourceSchema targetSchema : Option StorageSchema) (policy : Policy)
    (context : ValidationContext) (schemaHistory : Option SchemaHistory) : List Finding :=
  checkPolicy policy ++
  checkProtocolContext context ++
  checkEnvironmentCompatibility target context ++
  checkCap0086 target context ++
  checkUpgradeEntrypoint source target policy ++
  checkConstructor target policy ++
  checkVersions primitives source target policy ++
  compareInterfaces source target policy context ++
  checkHistoryEvidence primitives source target policy schemaHistory ++
  checkStorageEvidence primitives source target policy sourceSchema targetSchema ++
  checkImpactLimit (tracePublicImpacts source target).2

/-- Findings are ordered by severity and then by code. [SRC lib.rs:1158] -/
def Finding.sortsBefore (left right : Finding) : Prop :=
  ((compare left.severity right.severity).then (compare left.code right.code)).isLE = true

instance (left right : Finding) : Decidable (left.sortsBefore right) :=
  inferInstanceAs (Decidable (_ = true))

/-- `sort_by`, which is stable. [SRC lib.rs:1158] -/
def sortFindings (findings : List Finding) : List Finding :=
  findings.insertionSort Finding.sortsBefore

@[simp] theorem mem_sortFindings {findings : List Finding} {finding : Finding} :
    finding ∈ sortFindings findings ↔ finding ∈ findings :=
  (List.perm_insertionSort Finding.sortsBefore findings).mem_iff

/-! ### Reports -/

/-- The validation of an upgrade. The report is safe when no finding is an error; it keeps every
input, so that a plan can be validated again. [SRC lib.rs:1046-1186] -/
def validateWithHistory (primitives : Primitives) (source target : Artifact)
    (sourceSchema targetSchema : Option StorageSchema) (policy : Policy)
    (context : ValidationContext) (schemaHistory : Option SchemaHistory) : ValidationReport :=
  let findings := sortFindings
    (pushedFindings primitives source target sourceSchema targetSchema policy context schemaHistory)
  { formatVersion := 1
    toolVersion := toolVersion
    safe := !findings.any (·.isError)
    policy := policy
    context := context
    source := source
    target := target
    findings := findings
    publicImpacts := (tracePublicImpacts source target).1
    evidence := buildEvidenceCoverage context (sourceSchema.isSome && targetSchema.isSome)
      schemaHistory.isSome
    storageSchemaChecked := sourceSchema.isSome && targetSchema.isSome
    schemaHistoryChecked := schemaHistory.isSome
    policySha256 := primitives.canonicalSha256 policy
    sourceSchemaSha256 := sourceSchema.map primitives.canonicalSha256
    targetSchemaSha256 := targetSchema.map primitives.canonicalSha256
    schemaHistorySha256 := schemaHistory.map (·.sourceSha256)
    sourceSchema := sourceSchema
    targetSchema := targetSchema
    schemaHistory := schemaHistory }

section Report

variable {primitives : Primitives} {source target : Artifact}
  {sourceSchema targetSchema : Option StorageSchema} {policy : Policy}
  {context : ValidationContext} {schemaHistory : Option SchemaHistory}

theorem mem_findings_iff {finding : Finding} :
    finding ∈ (validateWithHistory primitives source target sourceSchema targetSchema policy
      context schemaHistory).findings ↔
    finding ∈ pushedFindings primitives source target sourceSchema targetSchema policy context
      schemaHistory :=
  mem_sortFindings

/-- A report is safe when no check raised an error. -/
theorem safe_iff_unblocked :
    (validateWithHistory primitives source target sourceSchema targetSchema policy context
      schemaHistory).safe = true ↔
    Unblocked (pushedFindings primitives source target sourceSchema targetSchema policy context
      schemaHistory) := by
  simp only [validateWithHistory, Bool.not_eq_true', List.any_eq_false, mem_sortFindings,
    Unblocked, Bool.not_eq_true]

end Report

end SorobanUpgrades
