/-
Module: SorobanUpgrades.Core.Serialize
Purpose: The JSON form of the data model: field names, variant names, defaults
  and optional fields of every record a report or a plan is made of.
Trusted boundary: human-reviewed spec
Main exports: JsonCodec instances for the data model
-/
import SorobanUpgrades.Core.Types
import SorobanUpgrades.Library.JsonCodec

namespace SorobanUpgrades

/-!
Every record refuses unknown members.  Member order is the declaration order,
which is what a printer writes; a reader accepts any order.
-/

/-! ### Findings and artifacts -/

/-- The text form of a severity. [SRC lib.rs:168-172] -/
def Severity.serialized : Severity → String
  | .info => "info"
  | .warning => "warning"
  | .error => "error"

instance : JsonCodec Severity where
  encode severity := .string severity.serialized
  decode := decodeVariant [
    ("info", .info),
    ("warning", .warning),
    ("error", .error)]
  uniqueKeys_encode _ := trivial
  decode_of_reorders severity _ reorders :=
    decodeVariant_of_reorders reorders (by cases severity <;> rfl)

def Finding.fieldNames : List String := ["code", "severity", "title", "detail", "remediation"]

/-- A finding as a JSON object. [SRC lib.rs:176-182] -/
instance : JsonCodec Finding where
  encode finding := .object [
    ("code", encode finding.code),
    ("severity", encode finding.severity),
    ("title", encode finding.title),
    ("detail", encode finding.detail),
    ("remediation", encode finding.remediation)]
  decode tree := do
    let fields ← structFields Finding.fieldNames tree
    let code ← fields.required "code"
    let severity ← fields.required "severity"
    let title ← fields.required "title"
    let detail ← fields.required "detail"
    let remediation ← fields.required "remediation"
    some ⟨code, severity, title, detail, remediation⟩
  uniqueKeys_encode finding :=
    uniqueKeys_record Finding.fieldNames rfl (by decide) (by simp)
  decode_of_reorders finding tree reorders := by
    obtain ⟨fields, found, reads⟩ :=
      structFields_of_reorders Finding.fieldNames reorders rfl (by decide)
    rw [found]
    apply reads.required finding.code rfl
    apply reads.required finding.severity rfl
    apply reads.required finding.title rfl
    apply reads.required finding.detail rfl
    apply reads.required finding.remediation rfl
    rfl

def InterfaceEntry.fieldNames : List String := ["kind", "name", "canonical"]

/-- A specification entry as a JSON object. [SRC lib.rs:186-190] -/
instance : JsonCodec InterfaceEntry where
  encode entry := .object [
    ("kind", encode entry.kind),
    ("name", encode entry.name),
    ("canonical", encode entry.canonical)]
  decode tree := do
    let fields ← structFields InterfaceEntry.fieldNames tree
    let kind ← fields.required "kind"
    let name ← fields.required "name"
    let canonical ← fields.required "canonical"
    some ⟨kind, name, canonical⟩
  uniqueKeys_encode entry :=
    uniqueKeys_record InterfaceEntry.fieldNames rfl (by decide) (by simp)
  decode_of_reorders entry tree reorders := by
    obtain ⟨fields, found, reads⟩ :=
      structFields_of_reorders InterfaceEntry.fieldNames reorders rfl (by decide)
    rw [found]
    apply reads.required entry.kind rfl
    apply reads.required entry.name rfl
    apply reads.required entry.canonical rfl
    rfl

/-- The text form of a boundary position. [SRC lib.rs:196-199] -/
def BoundaryPosition.serialized : BoundaryPosition → String
  | .input => "input"
  | .output => "output"

instance : JsonCodec BoundaryPosition where
  encode position := .string position.serialized
  decode := decodeVariant [
    ("input", .input),
    ("output", .output)]
  uniqueKeys_encode _ := trivial
  decode_of_reorders position _ reorders :=
    decodeVariant_of_reorders reorders (by cases position <;> rfl)

def PublicTypeBoundary.fieldNames : List String := ["function", "position", "index", "label",
  "rootType"]

/-- A boundary as a JSON object. The label may be missing. [SRC lib.rs:203-209] -/
instance : JsonCodec PublicTypeBoundary where
  encode boundary := .object [
    ("function", encode boundary.function),
    ("position", encode boundary.position),
    ("index", encode boundary.index),
    ("label", encode boundary.label),
    ("rootType", encode boundary.rootType)]
  decode tree := do
    let fields ← structFields PublicTypeBoundary.fieldNames tree
    let function ← fields.required "function"
    let position ← fields.required "position"
    let index ← fields.required "index"
    let label ← fields.optional "label"
    let rootType ← fields.required "rootType"
    some ⟨function, position, index, label, rootType⟩
  uniqueKeys_encode boundary :=
    uniqueKeys_record PublicTypeBoundary.fieldNames rfl (by decide) (by simp)
  decode_of_reorders boundary tree reorders := by
    obtain ⟨fields, found, reads⟩ :=
      structFields_of_reorders PublicTypeBoundary.fieldNames reorders rfl (by decide)
    rw [found]
    apply reads.required boundary.function rfl
    apply reads.required boundary.position rfl
    apply reads.required boundary.index rfl
    apply reads.optional boundary.label rfl
    apply reads.required boundary.rootType rfl
    rfl

def TypeReference.fieldNames : List String := ["ownerType", "member", "targetType"]

/-- A type reference as a JSON object. [SRC lib.rs:213-217] -/
instance : JsonCodec TypeReference where
  encode reference := .object [
    ("ownerType", encode reference.ownerType),
    ("member", encode reference.member),
    ("targetType", encode reference.targetType)]
  decode tree := do
    let fields ← structFields TypeReference.fieldNames tree
    let ownerType ← fields.required "ownerType"
    let member ← fields.required "member"
    let targetType ← fields.required "targetType"
    some ⟨ownerType, member, targetType⟩
  uniqueKeys_encode reference :=
    uniqueKeys_record TypeReference.fieldNames rfl (by decide) (by simp)
  decode_of_reorders reference tree reorders := by
    obtain ⟨fields, found, reads⟩ :=
      structFields_of_reorders TypeReference.fieldNames reorders rfl (by decide)
    rw [found]
    apply reads.required reference.ownerType rfl
    apply reads.required reference.member rfl
    apply reads.required reference.targetType rfl
    rfl

def ExportCallEvidence.fieldNames : List String := ["hostImports", "dynamicDispatchReachable"]

/-- Call evidence as a JSON object. [SRC lib.rs:221-224] -/
instance : JsonCodec ExportCallEvidence where
  encode evidence := .object [
    ("hostImports", encode evidence.hostImports),
    ("dynamicDispatchReachable", encode evidence.dynamicDispatchReachable)]
  decode tree := do
    let fields ← structFields ExportCallEvidence.fieldNames tree
    let hostImports ← fields.required "hostImports"
    let dynamicDispatchReachable ← fields.required "dynamicDispatchReachable"
    some ⟨hostImports, dynamicDispatchReachable⟩
  uniqueKeys_encode evidence :=
    uniqueKeys_record ExportCallEvidence.fieldNames rfl (by decide) (by simp)
  decode_of_reorders evidence tree reorders := by
    obtain ⟨fields, found, reads⟩ :=
      structFields_of_reorders ExportCallEvidence.fieldNames reorders rfl (by decide)
    rw [found]
    apply reads.required evidence.hostImports rfl
    apply reads.required evidence.dynamicDispatchReachable rfl
    rfl

def Artifact.fieldNames : List String := ["formatVersion", "sha256", "sizeBytes",
  "envProtocolVersion", "envPreRelease", "metadata", "hostImports", "functions", "events",
  "userTypes", "publicTypeBoundaries", "typeReferences", "exportCallEvidence"]

/-- An artifact as a JSON object. [SRC lib.rs:242-256] -/
instance : JsonCodec Artifact where
  encode artifact := .object [
    ("formatVersion", encode artifact.formatVersion),
    ("sha256", encode artifact.sha256),
    ("sizeBytes", encode artifact.sizeBytes),
    ("envProtocolVersion", encode artifact.envProtocolVersion),
    ("envPreRelease", encode artifact.envPreRelease),
    ("metadata", encode artifact.metadata),
    ("hostImports", encode artifact.hostImports),
    ("functions", encode artifact.functions),
    ("events", encode artifact.events),
    ("userTypes", encode artifact.userTypes),
    ("publicTypeBoundaries", encode artifact.publicTypeBoundaries),
    ("typeReferences", encode artifact.typeReferences),
    ("exportCallEvidence", encode artifact.exportCallEvidence)]
  decode tree := do
    let fields ← structFields Artifact.fieldNames tree
    let formatVersion ← fields.required "formatVersion"
    let sha256 ← fields.required "sha256"
    let sizeBytes ← fields.required "sizeBytes"
    let envProtocolVersion ← fields.required "envProtocolVersion"
    let envPreRelease ← fields.required "envPreRelease"
    let metadata ← fields.required "metadata"
    let hostImports ← fields.required "hostImports"
    let functions ← fields.required "functions"
    let events ← fields.required "events"
    let userTypes ← fields.required "userTypes"
    let publicTypeBoundaries ← fields.required "publicTypeBoundaries"
    let typeReferences ← fields.required "typeReferences"
    let exportCallEvidence ← fields.required "exportCallEvidence"
    some ⟨formatVersion, sha256, sizeBytes, envProtocolVersion, envPreRelease, metadata,
      hostImports, functions, events, userTypes, publicTypeBoundaries, typeReferences,
      exportCallEvidence⟩
  uniqueKeys_encode artifact :=
    uniqueKeys_record Artifact.fieldNames rfl (by decide) (by simp)
  decode_of_reorders artifact tree reorders := by
    obtain ⟨fields, found, reads⟩ :=
      structFields_of_reorders Artifact.fieldNames reorders rfl (by decide)
    rw [found]
    apply reads.required artifact.formatVersion rfl
    apply reads.required artifact.sha256 rfl
    apply reads.required artifact.sizeBytes rfl
    apply reads.required artifact.envProtocolVersion rfl
    apply reads.required artifact.envPreRelease rfl
    apply reads.required artifact.metadata rfl
    apply reads.required artifact.hostImports rfl
    apply reads.required artifact.functions rfl
    apply reads.required artifact.events rfl
    apply reads.required artifact.userTypes rfl
    apply reads.required artifact.publicTypeBoundaries rfl
    apply reads.required artifact.typeReferences rfl
    apply reads.required artifact.exportCallEvidence rfl
    rfl

/-! ### Context, policy and declarations -/

/-- The text form of a protocol source. [SRC lib.rs:791-796] -/
def ProtocolSource.serialized : ProtocolSource → String
  | .unpinned => "unpinned"
  | .offlineAssertion => "offline_assertion"
  | .stellarCliNetworkInfo => "stellar_cli_network_info"

instance : JsonCodec ProtocolSource where
  encode source := .string source.serialized
  decode := decodeVariant [
    ("unpinned", .unpinned),
    ("offline_assertion", .offlineAssertion),
    ("stellar_cli_network_info", .stellarCliNetworkInfo)]
  uniqueKeys_encode _ := trivial
  decode_of_reorders source _ reorders :=
    decodeVariant_of_reorders reorders (by cases source <;> rfl)

def ValidationContext.fieldNames : List String := ["targetProtocolVersion", "protocolSource",
  "networkName", "networkId", "networkPassphrase", "rpcVersion", "captiveCoreVersion",
  "observedAtUnixSeconds"]

/-- A context as a JSON object. All but the protocol source may be missing. [SRC lib.rs:800-809] -/
instance : JsonCodec ValidationContext where
  encode context := .object [
    ("targetProtocolVersion", encode context.targetProtocolVersion),
    ("protocolSource", encode context.protocolSource),
    ("networkName", encode context.networkName),
    ("networkId", encode context.networkId),
    ("networkPassphrase", encode context.networkPassphrase),
    ("rpcVersion", encode context.rpcVersion),
    ("captiveCoreVersion", encode context.captiveCoreVersion),
    ("observedAtUnixSeconds", encode context.observedAtUnixSeconds)]
  decode tree := do
    let fields ← structFields ValidationContext.fieldNames tree
    let targetProtocolVersion ← fields.optional "targetProtocolVersion"
    let protocolSource ← fields.required "protocolSource"
    let networkName ← fields.optional "networkName"
    let networkId ← fields.optional "networkId"
    let networkPassphrase ← fields.optional "networkPassphrase"
    let rpcVersion ← fields.optional "rpcVersion"
    let captiveCoreVersion ← fields.optional "captiveCoreVersion"
    let observedAtUnixSeconds ← fields.optional "observedAtUnixSeconds"
    some ⟨targetProtocolVersion, protocolSource, networkName, networkId, networkPassphrase,
      rpcVersion, captiveCoreVersion, observedAtUnixSeconds⟩
  uniqueKeys_encode context :=
    uniqueKeys_record ValidationContext.fieldNames rfl (by decide) (by simp)
  decode_of_reorders context tree reorders := by
    obtain ⟨fields, found, reads⟩ :=
      structFields_of_reorders ValidationContext.fieldNames reorders rfl (by decide)
    rw [found]
    apply reads.optional context.targetProtocolVersion rfl
    apply reads.required context.protocolSource rfl
    apply reads.optional context.networkName rfl
    apply reads.optional context.networkId rfl
    apply reads.optional context.networkPassphrase rfl
    apply reads.optional context.rpcVersion rfl
    apply reads.optional context.captiveCoreVersion rfl
    apply reads.optional context.observedAtUnixSeconds rfl
    rfl

def Policy.fieldNames : List String := ["formatVersion", "name", "requireUpgradeFunction",
  "forbidConstructor", "requireSemverIncrease", "requireStorageSchema", "requireSchemaHistory",
  "denyRemovedFunctions", "denyChangedFunctions", "denyRemovedEvents", "denyChangedEvents",
  "denyChangedUserTypes"]

/-- A policy as a JSON object. A missing member takes its default. [SRC lib.rs:813-826] -/
instance : JsonCodec Policy where
  encode policy := .object [
    ("formatVersion", encode policy.formatVersion),
    ("name", encode policy.name),
    ("requireUpgradeFunction", encode policy.requireUpgradeFunction),
    ("forbidConstructor", encode policy.forbidConstructor),
    ("requireSemverIncrease", encode policy.requireSemverIncrease),
    ("requireStorageSchema", encode policy.requireStorageSchema),
    ("requireSchemaHistory", encode policy.requireSchemaHistory),
    ("denyRemovedFunctions", encode policy.denyRemovedFunctions),
    ("denyChangedFunctions", encode policy.denyChangedFunctions),
    ("denyRemovedEvents", encode policy.denyRemovedEvents),
    ("denyChangedEvents", encode policy.denyChangedEvents),
    ("denyChangedUserTypes", encode policy.denyChangedUserTypes)]
  decode tree := do
    let fields ← structFields Policy.fieldNames tree
    let formatVersion ← fields.defaulted "formatVersion" Policy.default.formatVersion
    let name ← fields.defaulted "name" Policy.default.name
    let requireUpgradeFunction ← fields.defaulted "requireUpgradeFunction" Policy.default.requireUpgradeFunction
    let forbidConstructor ← fields.defaulted "forbidConstructor" Policy.default.forbidConstructor
    let requireSemverIncrease ← fields.defaulted "requireSemverIncrease" Policy.default.requireSemverIncrease
    let requireStorageSchema ← fields.defaulted "requireStorageSchema" Policy.default.requireStorageSchema
    let requireSchemaHistory ← fields.defaulted "requireSchemaHistory" Policy.default.requireSchemaHistory
    let denyRemovedFunctions ← fields.defaulted "denyRemovedFunctions" Policy.default.denyRemovedFunctions
    let denyChangedFunctions ← fields.defaulted "denyChangedFunctions" Policy.default.denyChangedFunctions
    let denyRemovedEvents ← fields.defaulted "denyRemovedEvents" Policy.default.denyRemovedEvents
    let denyChangedEvents ← fields.defaulted "denyChangedEvents" Policy.default.denyChangedEvents
    let denyChangedUserTypes ← fields.defaulted "denyChangedUserTypes" Policy.default.denyChangedUserTypes
    some ⟨formatVersion, name, requireUpgradeFunction, forbidConstructor, requireSemverIncrease,
      requireStorageSchema, requireSchemaHistory, denyRemovedFunctions, denyChangedFunctions,
      denyRemovedEvents, denyChangedEvents, denyChangedUserTypes⟩
  uniqueKeys_encode policy :=
    uniqueKeys_record Policy.fieldNames rfl (by decide) (by simp)
  decode_of_reorders policy tree reorders := by
    obtain ⟨fields, found, reads⟩ :=
      structFields_of_reorders Policy.fieldNames reorders rfl (by decide)
    rw [found]
    apply reads.defaulted policy.formatVersion rfl
    apply reads.defaulted policy.name rfl
    apply reads.defaulted policy.requireUpgradeFunction rfl
    apply reads.defaulted policy.forbidConstructor rfl
    apply reads.defaulted policy.requireSemverIncrease rfl
    apply reads.defaulted policy.requireStorageSchema rfl
    apply reads.defaulted policy.requireSchemaHistory rfl
    apply reads.defaulted policy.denyRemovedFunctions rfl
    apply reads.defaulted policy.denyChangedFunctions rfl
    apply reads.defaulted policy.denyRemovedEvents rfl
    apply reads.defaulted policy.denyChangedEvents rfl
    apply reads.defaulted policy.denyChangedUserTypes rfl
    rfl

def Migration.fieldNames : List String := ["strategy", "entrypoint", "notes"]

/-- A migration as a JSON object. [SRC lib.rs:855-859] -/
instance : JsonCodec Migration where
  encode migration := .object [
    ("strategy", encode migration.strategy),
    ("entrypoint", encode migration.entrypoint),
    ("notes", encode migration.notes)]
  decode tree := do
    let fields ← structFields Migration.fieldNames tree
    let strategy ← fields.required "strategy"
    let entrypoint ← fields.optional "entrypoint"
    let notes ← fields.optional "notes"
    some ⟨strategy, entrypoint, notes⟩
  uniqueKeys_encode migration :=
    uniqueKeys_record Migration.fieldNames rfl (by decide) (by simp)
  decode_of_reorders migration tree reorders := by
    obtain ⟨fields, found, reads⟩ :=
      structFields_of_reorders Migration.fieldNames reorders rfl (by decide)
    rw [found]
    apply reads.required migration.strategy rfl
    apply reads.optional migration.entrypoint rfl
    apply reads.optional migration.notes rfl
    rfl

instance : NeverNull Migration := ⟨fun _ => Json.noConfusion⟩

/-- The text form of a durability. [SRC lib.rs:863-867] -/
def Durability.serialized : Durability → String
  | .instanceStorage => "instance"
  | .persistent => "persistent"
  | .temporary => "temporary"

instance : JsonCodec Durability where
  encode durability := .string durability.serialized
  decode := decodeVariant [
    ("instance", .instanceStorage),
    ("persistent", .persistent),
    ("temporary", .temporary)]
  uniqueKeys_encode _ := trivial
  decode_of_reorders durability _ reorders :=
    decodeVariant_of_reorders reorders (by cases durability <;> rfl)

def StorageEntry.fieldNames : List String := ["key", "durability", "type", "migration"]

/-- A storage entry as a JSON object. [SRC lib.rs:871-878] -/
instance : JsonCodec StorageEntry where
  encode entry := .object [
    ("key", encode entry.key),
    ("durability", encode entry.durability),
    ("type", encode entry.valueType),
    ("migration", encode entry.migration)]
  decode tree := do
    let fields ← structFields StorageEntry.fieldNames tree
    let key ← fields.required "key"
    let durability ← fields.required "durability"
    let valueType ← fields.required "type"
    let migration ← fields.defaulted "migration" none
    some ⟨key, durability, valueType, migration⟩
  uniqueKeys_encode entry :=
    uniqueKeys_record StorageEntry.fieldNames rfl (by decide) (by simp)
  decode_of_reorders entry tree reorders := by
    obtain ⟨fields, found, reads⟩ :=
      structFields_of_reorders StorageEntry.fieldNames reorders rfl (by decide)
    rw [found]
    apply reads.required entry.key rfl
    apply reads.required entry.durability rfl
    apply reads.required entry.valueType rfl
    apply reads.defaulted entry.migration rfl
    rfl

def StorageSchema.fieldNames : List String := ["formatVersion", "complete", "schemaVersion",
  "contractVersion", "entries"]

/-- A storage schema as a JSON object. [SRC lib.rs:882-888] -/
instance : JsonCodec StorageSchema where
  encode schema := .object [
    ("formatVersion", encode schema.formatVersion),
    ("complete", encode schema.complete),
    ("schemaVersion", encode schema.schemaVersion),
    ("contractVersion", encode schema.contractVersion),
    ("entries", encode schema.entries)]
  decode tree := do
    let fields ← structFields StorageSchema.fieldNames tree
    let formatVersion ← fields.required "formatVersion"
    let complete ← fields.required "complete"
    let schemaVersion ← fields.required "schemaVersion"
    let contractVersion ← fields.required "contractVersion"
    let entries ← fields.required "entries"
    some ⟨formatVersion, complete, schemaVersion, contractVersion, entries⟩
  uniqueKeys_encode schema :=
    uniqueKeys_record StorageSchema.fieldNames rfl (by decide) (by simp)
  decode_of_reorders schema tree reorders := by
    obtain ⟨fields, found, reads⟩ :=
      structFields_of_reorders StorageSchema.fieldNames reorders rfl (by decide)
    rw [found]
    apply reads.required schema.formatVersion rfl
    apply reads.required schema.complete rfl
    apply reads.required schema.schemaVersion rfl
    apply reads.required schema.contractVersion rfl
    apply reads.required schema.entries rfl
    rfl

instance : NeverNull StorageSchema := ⟨fun _ => Json.noConfusion⟩

def HistoricalField.fieldNames : List String := ["type", "firstSeen", "retiredIn"]

/-- A historical field as a JSON object. [SRC lib.rs:898-904] -/
instance : JsonCodec HistoricalField where
  encode field := .object [
    ("type", encode field.valueType),
    ("firstSeen", encode field.firstSeen),
    ("retiredIn", encode field.retiredIn)]
  decode tree := do
    let fields ← structFields HistoricalField.fieldNames tree
    let valueType ← fields.required "type"
    let firstSeen ← fields.required "firstSeen"
    let retiredIn ← fields.defaulted "retiredIn" none
    some ⟨valueType, firstSeen, retiredIn⟩
  uniqueKeys_encode field :=
    uniqueKeys_record HistoricalField.fieldNames rfl (by decide) (by simp)
  decode_of_reorders field tree reorders := by
    obtain ⟨fields, found, reads⟩ :=
      structFields_of_reorders HistoricalField.fieldNames reorders rfl (by decide)
    rw [found]
    apply reads.required field.valueType rfl
    apply reads.required field.firstSeen rfl
    apply reads.defaulted field.retiredIn rfl
    rfl

def TypeHistory.fieldNames : List String := ["fields", "reservedFields"]

/-- A type history as a JSON object. Missing collections are empty. [SRC lib.rs:908-913] -/
instance : JsonCodec TypeHistory where
  encode history := .object [
    ("fields", encode history.fields),
    ("reservedFields", encode history.reservedFields)]
  decode tree := do
    let fields ← structFields TypeHistory.fieldNames tree
    let recorded ← fields.defaulted "fields" ∅
    let reservedFields ← fields.defaulted "reservedFields" ∅
    some ⟨recorded, reservedFields⟩
  uniqueKeys_encode history :=
    uniqueKeys_record TypeHistory.fieldNames rfl (by decide) (by simp)
  decode_of_reorders history tree reorders := by
    obtain ⟨fields, found, reads⟩ :=
      structFields_of_reorders TypeHistory.fieldNames reorders rfl (by decide)
    rw [found]
    apply reads.defaulted history.fields rfl
    apply reads.defaulted history.reservedFields rfl
    rfl

def SchemaHistory.fieldNames : List String := ["formatVersion", "complete", "types",
  "sourceSha256"]

/-- A schema history as a JSON object. The digest may be missing, and is empty then.
[SRC lib.rs:917-924] -/
instance : JsonCodec SchemaHistory where
  encode history := .object [
    ("formatVersion", encode history.formatVersion),
    ("complete", encode history.complete),
    ("types", encode history.types),
    ("sourceSha256", encode history.sourceSha256)]
  decode tree := do
    let fields ← structFields SchemaHistory.fieldNames tree
    let formatVersion ← fields.required "formatVersion"
    let complete ← fields.required "complete"
    let types ← fields.required "types"
    let sourceSha256 ← fields.defaulted "sourceSha256" ""
    some ⟨formatVersion, complete, types, sourceSha256⟩
  uniqueKeys_encode history :=
    uniqueKeys_record SchemaHistory.fieldNames rfl (by decide) (by simp)
  decode_of_reorders history tree reorders := by
    obtain ⟨fields, found, reads⟩ :=
      structFields_of_reorders SchemaHistory.fieldNames reorders rfl (by decide)
    rw [found]
    apply reads.required history.formatVersion rfl
    apply reads.required history.complete rfl
    apply reads.required history.types rfl
    apply reads.defaulted history.sourceSha256 rfl
    rfl

instance : NeverNull SchemaHistory := ⟨fun _ => Json.noConfusion⟩

/-! ### Reports -/

/-- The text form of an evidence label. [SRC lib.rs:938-942] -/
def EvidenceStatus.serialized : EvidenceStatus → String
  | .fact => "FACT"
  | .inference => "INFERENCE"
  | .unknown => "UNKNOWN"

instance : JsonCodec EvidenceStatus where
  encode status := .string status.serialized
  decode := decodeVariant [
    ("FACT", .fact),
    ("INFERENCE", .inference),
    ("UNKNOWN", .unknown)]
  uniqueKeys_encode _ := trivial
  decode_of_reorders status _ reorders :=
    decodeVariant_of_reorders reorders (by cases status <;> rfl)

def EvidenceItem.fieldNames : List String := ["status", "claim", "basis", "limitation"]

/-- An evidence item as a JSON object. [SRC lib.rs:946-951] -/
instance : JsonCodec EvidenceItem where
  encode item := .object [
    ("status", encode item.status),
    ("claim", encode item.claim),
    ("basis", encode item.basis),
    ("limitation", encode item.limitation)]
  decode tree := do
    let fields ← structFields EvidenceItem.fieldNames tree
    let status ← fields.required "status"
    let claim ← fields.required "claim"
    let basis ← fields.required "basis"
    let limitation ← fields.optional "limitation"
    some ⟨status, claim, basis, limitation⟩
  uniqueKeys_encode item :=
    uniqueKeys_record EvidenceItem.fieldNames rfl (by decide) (by simp)
  decode_of_reorders item tree reorders := by
    obtain ⟨fields, found, reads⟩ :=
      structFields_of_reorders EvidenceItem.fieldNames reorders rfl (by decide)
    rw [found]
    apply reads.required item.status rfl
    apply reads.required item.claim rfl
    apply reads.required item.basis rfl
    apply reads.optional item.limitation rfl
    rfl

def EvidenceCoverage.fieldNames : List String := ["compiledContractSpec", "artifactHostImports",
  "targetNetworkProtocol", "declaredStorageSchema", "declaredSchemaHistory",
  "ledgerStorageCoverage", "deployedCallerGraph", "cap0086PerTypeReaderBinding",
  "migrationCompletion"]

/-- The evidence coverage as a JSON object. [SRC lib.rs:955-965] -/
instance : JsonCodec EvidenceCoverage where
  encode coverage := .object [
    ("compiledContractSpec", encode coverage.compiledContractSpec),
    ("artifactHostImports", encode coverage.artifactHostImports),
    ("targetNetworkProtocol", encode coverage.targetNetworkProtocol),
    ("declaredStorageSchema", encode coverage.declaredStorageSchema),
    ("declaredSchemaHistory", encode coverage.declaredSchemaHistory),
    ("ledgerStorageCoverage", encode coverage.ledgerStorageCoverage),
    ("deployedCallerGraph", encode coverage.deployedCallerGraph),
    ("cap0086PerTypeReaderBinding", encode coverage.cap0086PerTypeReaderBinding),
    ("migrationCompletion", encode coverage.migrationCompletion)]
  decode tree := do
    let fields ← structFields EvidenceCoverage.fieldNames tree
    let compiledContractSpec ← fields.required "compiledContractSpec"
    let artifactHostImports ← fields.required "artifactHostImports"
    let targetNetworkProtocol ← fields.required "targetNetworkProtocol"
    let declaredStorageSchema ← fields.required "declaredStorageSchema"
    let declaredSchemaHistory ← fields.required "declaredSchemaHistory"
    let ledgerStorageCoverage ← fields.required "ledgerStorageCoverage"
    let deployedCallerGraph ← fields.required "deployedCallerGraph"
    let cap0086PerTypeReaderBinding ← fields.required "cap0086PerTypeReaderBinding"
    let migrationCompletion ← fields.required "migrationCompletion"
    some ⟨compiledContractSpec, artifactHostImports, targetNetworkProtocol, declaredStorageSchema,
      declaredSchemaHistory, ledgerStorageCoverage, deployedCallerGraph,
      cap0086PerTypeReaderBinding, migrationCompletion⟩
  uniqueKeys_encode coverage :=
    uniqueKeys_record EvidenceCoverage.fieldNames rfl (by decide) (by simp)
  decode_of_reorders coverage tree reorders := by
    obtain ⟨fields, found, reads⟩ :=
      structFields_of_reorders EvidenceCoverage.fieldNames reorders rfl (by decide)
    rw [found]
    apply reads.required coverage.compiledContractSpec rfl
    apply reads.required coverage.artifactHostImports rfl
    apply reads.required coverage.targetNetworkProtocol rfl
    apply reads.required coverage.declaredStorageSchema rfl
    apply reads.required coverage.declaredSchemaHistory rfl
    apply reads.required coverage.ledgerStorageCoverage rfl
    apply reads.required coverage.deployedCallerGraph rfl
    apply reads.required coverage.cap0086PerTypeReaderBinding rfl
    apply reads.required coverage.migrationCompletion rfl
    rfl

def ImpactStep.fieldNames : List String := ["ownerType", "member", "targetType"]

/-- A step as a JSON object. [SRC lib.rs:969-973] -/
instance : JsonCodec ImpactStep where
  encode step := .object [
    ("ownerType", encode step.ownerType),
    ("member", encode step.member),
    ("targetType", encode step.targetType)]
  decode tree := do
    let fields ← structFields ImpactStep.fieldNames tree
    let ownerType ← fields.required "ownerType"
    let member ← fields.required "member"
    let targetType ← fields.required "targetType"
    some ⟨ownerType, member, targetType⟩
  uniqueKeys_encode step :=
    uniqueKeys_record ImpactStep.fieldNames rfl (by decide) (by simp)
  decode_of_reorders step tree reorders := by
    obtain ⟨fields, found, reads⟩ :=
      structFields_of_reorders ImpactStep.fieldNames reorders rfl (by decide)
    rw [found]
    apply reads.required step.ownerType rfl
    apply reads.required step.member rfl
    apply reads.required step.targetType rfl
    rfl

def PublicImpact.fieldNames : List String := ["changedType", "boundary", "steps",
  "structuralReachability", "runtimeCompatibility"]

/-- An impact as a JSON object. [SRC lib.rs:977-983] -/
instance : JsonCodec PublicImpact where
  encode impact := .object [
    ("changedType", encode impact.changedType),
    ("boundary", encode impact.boundary),
    ("steps", encode impact.steps),
    ("structuralReachability", encode impact.structuralReachability),
    ("runtimeCompatibility", encode impact.runtimeCompatibility)]
  decode tree := do
    let fields ← structFields PublicImpact.fieldNames tree
    let changedType ← fields.required "changedType"
    let boundary ← fields.required "boundary"
    let steps ← fields.required "steps"
    let structuralReachability ← fields.required "structuralReachability"
    let runtimeCompatibility ← fields.required "runtimeCompatibility"
    some ⟨changedType, boundary, steps, structuralReachability, runtimeCompatibility⟩
  uniqueKeys_encode impact :=
    uniqueKeys_record PublicImpact.fieldNames rfl (by decide) (by simp)
  decode_of_reorders impact tree reorders := by
    obtain ⟨fields, found, reads⟩ :=
      structFields_of_reorders PublicImpact.fieldNames reorders rfl (by decide)
    rw [found]
    apply reads.required impact.changedType rfl
    apply reads.required impact.boundary rfl
    apply reads.required impact.steps rfl
    apply reads.required impact.structuralReachability rfl
    apply reads.required impact.runtimeCompatibility rfl
    rfl

def ValidationReport.fieldNames : List String := ["formatVersion", "toolVersion", "safe",
  "policy", "context", "source", "target", "findings", "publicImpacts", "evidence",
  "storageSchemaChecked", "schemaHistoryChecked", "policySha256", "sourceSchemaSha256",
  "targetSchemaSha256", "schemaHistorySha256", "sourceSchema", "targetSchema", "schemaHistory"]

/-- A report as a JSON object. [SRC lib.rs:987-1007] -/
instance : JsonCodec ValidationReport where
  encode report := .object [
    ("formatVersion", encode report.formatVersion),
    ("toolVersion", encode report.toolVersion),
    ("safe", encode report.safe),
    ("policy", encode report.policy),
    ("context", encode report.context),
    ("source", encode report.source),
    ("target", encode report.target),
    ("findings", encode report.findings),
    ("publicImpacts", encode report.publicImpacts),
    ("evidence", encode report.evidence),
    ("storageSchemaChecked", encode report.storageSchemaChecked),
    ("schemaHistoryChecked", encode report.schemaHistoryChecked),
    ("policySha256", encode report.policySha256),
    ("sourceSchemaSha256", encode report.sourceSchemaSha256),
    ("targetSchemaSha256", encode report.targetSchemaSha256),
    ("schemaHistorySha256", encode report.schemaHistorySha256),
    ("sourceSchema", encode report.sourceSchema),
    ("targetSchema", encode report.targetSchema),
    ("schemaHistory", encode report.schemaHistory)]
  decode tree := do
    let fields ← structFields ValidationReport.fieldNames tree
    let formatVersion ← fields.required "formatVersion"
    let toolVersion ← fields.required "toolVersion"
    let safe ← fields.required "safe"
    let policy ← fields.required "policy"
    let context ← fields.required "context"
    let source ← fields.required "source"
    let target ← fields.required "target"
    let findings ← fields.required "findings"
    let publicImpacts ← fields.required "publicImpacts"
    let evidence ← fields.required "evidence"
    let storageSchemaChecked ← fields.required "storageSchemaChecked"
    let schemaHistoryChecked ← fields.required "schemaHistoryChecked"
    let policySha256 ← fields.required "policySha256"
    let sourceSchemaSha256 ← fields.optional "sourceSchemaSha256"
    let targetSchemaSha256 ← fields.optional "targetSchemaSha256"
    let schemaHistorySha256 ← fields.optional "schemaHistorySha256"
    let sourceSchema ← fields.optional "sourceSchema"
    let targetSchema ← fields.optional "targetSchema"
    let schemaHistory ← fields.optional "schemaHistory"
    some ⟨formatVersion, toolVersion, safe, policy, context, source, target, findings,
      publicImpacts, evidence, storageSchemaChecked, schemaHistoryChecked, policySha256,
      sourceSchemaSha256, targetSchemaSha256, schemaHistorySha256, sourceSchema, targetSchema,
      schemaHistory⟩
  uniqueKeys_encode report :=
    uniqueKeys_record ValidationReport.fieldNames rfl (by decide) (by simp)
  decode_of_reorders report tree reorders := by
    obtain ⟨fields, found, reads⟩ :=
      structFields_of_reorders ValidationReport.fieldNames reorders rfl (by decide)
    rw [found]
    apply reads.required report.formatVersion rfl
    apply reads.required report.toolVersion rfl
    apply reads.required report.safe rfl
    apply reads.required report.policy rfl
    apply reads.required report.context rfl
    apply reads.required report.source rfl
    apply reads.required report.target rfl
    apply reads.required report.findings rfl
    apply reads.required report.publicImpacts rfl
    apply reads.required report.evidence rfl
    apply reads.required report.storageSchemaChecked rfl
    apply reads.required report.schemaHistoryChecked rfl
    apply reads.required report.policySha256 rfl
    apply reads.optional report.sourceSchemaSha256 rfl
    apply reads.optional report.targetSchemaSha256 rfl
    apply reads.optional report.schemaHistorySha256 rfl
    apply reads.optional report.sourceSchema rfl
    apply reads.optional report.targetSchema rfl
    apply reads.optional report.schemaHistory rfl
    rfl

/-! ### Plans -/

/-- The text form of a step kind. [SRC lib.rs:2375-2383] -/
def PlanStepKind.serialized : PlanStepKind → String
  | .verifyCurrentExecutable => "verify_current_executable"
  | .uploadTargetWasm => "upload_target_wasm"
  | .simulateUpgrade => "simulate_upgrade"
  | .executeUpgrade => "execute_upgrade"
  | .executeMigration => "execute_migration"
  | .verifyExecutable => "verify_executable"
  | .verifyInvariants => "verify_invariants"

instance : JsonCodec PlanStepKind where
  encode kind := .string kind.serialized
  decode := decodeVariant [
    ("verify_current_executable", .verifyCurrentExecutable),
    ("upload_target_wasm", .uploadTargetWasm),
    ("simulate_upgrade", .simulateUpgrade),
    ("execute_upgrade", .executeUpgrade),
    ("execute_migration", .executeMigration),
    ("verify_executable", .verifyExecutable),
    ("verify_invariants", .verifyInvariants)]
  uniqueKeys_encode _ := trivial
  decode_of_reorders kind _ reorders :=
    decodeVariant_of_reorders reorders (by cases kind <;> rfl)

/-- The text form of a plan status. [SRC lib.rs:2387-2390] -/
def PlanStatus.serialized : PlanStatus → String
  | .offlineDraft => "offline_draft"
  | .reviewReady => "review_ready"

instance : JsonCodec PlanStatus where
  encode status := .string status.serialized
  decode := decodeVariant [
    ("offline_draft", .offlineDraft),
    ("review_ready", .reviewReady)]
  uniqueKeys_encode _ := trivial
  decode_of_reorders status _ reorders :=
    decodeVariant_of_reorders reorders (by cases status <;> rfl)

def PlanStep.fieldNames : List String := ["position", "kind", "program", "arguments", "command",
  "expected"]

/-- A plan step as a JSON object. [SRC lib.rs:2394-2401] -/
instance : JsonCodec PlanStep where
  encode step := .object [
    ("position", encode step.position),
    ("kind", encode step.kind),
    ("program", encode step.program),
    ("arguments", encode step.arguments),
    ("command", encode step.command),
    ("expected", encode step.expected)]
  decode tree := do
    let fields ← structFields PlanStep.fieldNames tree
    let position ← fields.required "position"
    let kind ← fields.required "kind"
    let program ← fields.required "program"
    let arguments ← fields.required "arguments"
    let command ← fields.required "command"
    let expected ← fields.required "expected"
    some ⟨position, kind, program, arguments, command, expected⟩
  uniqueKeys_encode step :=
    uniqueKeys_record PlanStep.fieldNames rfl (by decide) (by simp)
  decode_of_reorders step tree reorders := by
    obtain ⟨fields, found, reads⟩ :=
      structFields_of_reorders PlanStep.fieldNames reorders rfl (by decide)
    rw [found]
    apply reads.required step.position rfl
    apply reads.required step.kind rfl
    apply reads.required step.program rfl
    apply reads.required step.arguments rfl
    apply reads.required step.command rfl
    apply reads.required step.expected rfl
    rfl

def MigrationCall.fieldNames : List String := ["entrypoint", "arguments"]

/-- A migration call as a JSON object. [SRC lib.rs:2405-2408] -/
instance : JsonCodec MigrationCall where
  encode call := .object [
    ("entrypoint", encode call.entrypoint),
    ("arguments", encode call.arguments)]
  decode tree := do
    let fields ← structFields MigrationCall.fieldNames tree
    let entrypoint ← fields.required "entrypoint"
    let arguments ← fields.required "arguments"
    some ⟨entrypoint, arguments⟩
  uniqueKeys_encode call :=
    uniqueKeys_record MigrationCall.fieldNames rfl (by decide) (by simp)
  decode_of_reorders call tree reorders := by
    obtain ⟨fields, found, reads⟩ :=
      structFields_of_reorders MigrationCall.fieldNames reorders rfl (by decide)
    rw [found]
    apply reads.required call.entrypoint rfl
    apply reads.required call.arguments rfl
    rfl

instance : NeverNull MigrationCall := ⟨fun _ => Json.noConfusion⟩

def InvariantCheck.fieldNames : List String := ["program", "arguments"]

/-- An invariant check as a JSON object. [SRC lib.rs:2412-2415] -/
instance : JsonCodec InvariantCheck where
  encode check := .object [
    ("program", encode check.program),
    ("arguments", encode check.arguments)]
  decode tree := do
    let fields ← structFields InvariantCheck.fieldNames tree
    let program ← fields.required "program"
    let arguments ← fields.required "arguments"
    some ⟨program, arguments⟩
  uniqueKeys_encode check :=
    uniqueKeys_record InvariantCheck.fieldNames rfl (by decide) (by simp)
  decode_of_reorders check tree reorders := by
    obtain ⟨fields, found, reads⟩ :=
      structFields_of_reorders InvariantCheck.fieldNames reorders rfl (by decide)
    rw [found]
    apply reads.required check.program rfl
    apply reads.required check.arguments rfl
    rfl

def PlanInputPaths.fieldNames : List String := ["sourceWasm", "targetWasm", "sourceSchema",
  "targetSchema", "schemaHistory", "policy"]

/-- The input paths as a JSON object. [SRC lib.rs:2426-2433] -/
instance : JsonCodec PlanInputPaths where
  encode paths := .object [
    ("sourceWasm", encode paths.sourceWasm),
    ("targetWasm", encode paths.targetWasm),
    ("sourceSchema", encode paths.sourceSchema),
    ("targetSchema", encode paths.targetSchema),
    ("schemaHistory", encode paths.schemaHistory),
    ("policy", encode paths.policy)]
  decode tree := do
    let fields ← structFields PlanInputPaths.fieldNames tree
    let sourceWasm ← fields.required "sourceWasm"
    let targetWasm ← fields.required "targetWasm"
    let sourceSchema ← fields.required "sourceSchema"
    let targetSchema ← fields.required "targetSchema"
    let schemaHistory ← fields.required "schemaHistory"
    let policy ← fields.optional "policy"
    some ⟨sourceWasm, targetWasm, sourceSchema, targetSchema, schemaHistory, policy⟩
  uniqueKeys_encode paths :=
    uniqueKeys_record PlanInputPaths.fieldNames rfl (by decide) (by simp)
  decode_of_reorders paths tree reorders := by
    obtain ⟨fields, found, reads⟩ :=
      structFields_of_reorders PlanInputPaths.fieldNames reorders rfl (by decide)
    rw [found]
    apply reads.required paths.sourceWasm rfl
    apply reads.required paths.targetWasm rfl
    apply reads.required paths.sourceSchema rfl
    apply reads.required paths.targetSchema rfl
    apply reads.required paths.schemaHistory rfl
    apply reads.optional paths.policy rfl
    rfl

def UpgradePlan.fieldNames : List String := ["formatVersion", "planSha256", "status", "network",
  "contractId", "sourceIdentity", "inputs", "sourceWasmSha256", "targetWasmSha256",
  "rollbackWasmSha256", "fromVersion", "toVersion", "migration", "invariantCheck", "validation",
  "steps"]

/-- A plan as a JSON object. [SRC lib.rs:2477-2494] -/
instance : JsonCodec UpgradePlan where
  encode plan := .object [
    ("formatVersion", encode plan.formatVersion),
    ("planSha256", encode plan.planSha256),
    ("status", encode plan.status),
    ("network", encode plan.network),
    ("contractId", encode plan.contractId),
    ("sourceIdentity", encode plan.sourceIdentity),
    ("inputs", encode plan.inputs),
    ("sourceWasmSha256", encode plan.sourceWasmSha256),
    ("targetWasmSha256", encode plan.targetWasmSha256),
    ("rollbackWasmSha256", encode plan.rollbackWasmSha256),
    ("fromVersion", encode plan.fromVersion),
    ("toVersion", encode plan.toVersion),
    ("migration", encode plan.migration),
    ("invariantCheck", encode plan.invariantCheck),
    ("validation", encode plan.validation),
    ("steps", encode plan.steps)]
  decode tree := do
    let fields ← structFields UpgradePlan.fieldNames tree
    let formatVersion ← fields.required "formatVersion"
    let planSha256 ← fields.required "planSha256"
    let status ← fields.required "status"
    let network ← fields.required "network"
    let contractId ← fields.required "contractId"
    let sourceIdentity ← fields.required "sourceIdentity"
    let inputs ← fields.required "inputs"
    let sourceWasmSha256 ← fields.required "sourceWasmSha256"
    let targetWasmSha256 ← fields.required "targetWasmSha256"
    let rollbackWasmSha256 ← fields.required "rollbackWasmSha256"
    let fromVersion ← fields.optional "fromVersion"
    let toVersion ← fields.optional "toVersion"
    let migration ← fields.optional "migration"
    let invariantCheck ← fields.required "invariantCheck"
    let validation ← fields.required "validation"
    let steps ← fields.required "steps"
    some ⟨formatVersion, planSha256, status, network, contractId, sourceIdentity, inputs,
      sourceWasmSha256, targetWasmSha256, rollbackWasmSha256, fromVersion, toVersion, migration,
      invariantCheck, validation, steps⟩
  uniqueKeys_encode plan :=
    uniqueKeys_record UpgradePlan.fieldNames rfl (by decide) (by simp)
  decode_of_reorders plan tree reorders := by
    obtain ⟨fields, found, reads⟩ :=
      structFields_of_reorders UpgradePlan.fieldNames reorders rfl (by decide)
    rw [found]
    apply reads.required plan.formatVersion rfl
    apply reads.required plan.planSha256 rfl
    apply reads.required plan.status rfl
    apply reads.required plan.network rfl
    apply reads.required plan.contractId rfl
    apply reads.required plan.sourceIdentity rfl
    apply reads.required plan.inputs rfl
    apply reads.required plan.sourceWasmSha256 rfl
    apply reads.required plan.targetWasmSha256 rfl
    apply reads.required plan.rollbackWasmSha256 rfl
    apply reads.optional plan.fromVersion rfl
    apply reads.optional plan.toVersion rfl
    apply reads.optional plan.migration rfl
    apply reads.required plan.invariantCheck rfl
    apply reads.required plan.validation rfl
    apply reads.required plan.steps rfl
    rfl

end SorobanUpgrades
