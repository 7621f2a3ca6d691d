/-
Module: SorobanUpgrades.Core.Output
Purpose: The lines that the commands print for an artifact and for a report.
Trusted boundary: human-reviewed spec
Main exports: printArtifact, printReport, printCompactReport
-/
import SorobanUpgrades.Core.Checks
import SorobanUpgrades.Core.Primitives

namespace SorobanUpgrades

/-! ### Labels -/

/-- The version of an artifact, as reports show it. [SRC main.rs:646] -/
def Artifact.versionLabel (artifact : Artifact) : String := artifact.version.getD "missing"

/-- `evidence_status_label`. [SRC main.rs:805-811] -/
def evidenceStatusLabel : EvidenceStatus → String
  | .fact => "FACT"
  | .inference => "INFERENCE"
  | .unknown => "UNKNOWN"

/-- The severity of a finding, as full reports show it. [SRC main.rs:753-757] -/
def severityLabel : Severity → String
  | .info => "INFO"
  | .warning => "WARN"
  | .error => "ERROR"

/-- The protocol version, as reports show it. [SRC main.rs:708-714] -/
def protocolLabel (context : ValidationContext) : String :=
  match context.targetProtocolVersion with
  | some version => toString version
  | none => "unpinned"

/-- The source of the protocol version in a full report. [SRC main.rs:717-721] -/
def protocolEvidenceLabel : ProtocolSource → String
  | .unpinned => "unpinned"
  | .offlineAssertion => "offline assertion"
  | .stellarCliNetworkInfo => "live Stellar CLI network info"

/-- The source of the protocol version in a compact report. [SRC main.rs:861-865] -/
def compactEvidenceLabel : ProtocolSource → String
  | .unpinned => "no network evidence"
  | .offlineAssertion => "offline assertion"
  | .stellarCliNetworkInfo => "live network evidence"

/-- The verdict of a compact report. [SRC main.rs:869] -/
def verdictLabel (safe : Bool) : String := if safe then "PASS" else "BLOCKED"

/-- `str::get(..n)`: the first bytes of a text, when they end between two characters. -/
def bytePrefix (bytes : Nat) (text : List Char) : Option (List Char) :=
  if bytes = 0 then some []
  else
    match text with
    | [] => none
    | character :: rest =>
        if character.utf8Size ≤ bytes then
          (bytePrefix (bytes - character.utf8Size) rest).map (character :: ·)
        else none

/-- The first 12 bytes of a hash, or all of it. [SRC main.rs:922-924] -/
def shortHash (hash : String) : String :=
  ((bytePrefix 12 hash.toList).map String.ofList).getD hash

/-! ### Artifacts -/

/-- The lines of `inspect`. [SRC main.rs:638-693] -/
def printArtifact (path : String) (artifact : Artifact) : List String :=
  let functions := joined artifact.functions.keys
  let events := joined artifact.events.keys
  let userTypes := joined artifact.userTypes.keys
  let hasUpgrade := artifact.hasFunction "upgrade"
  let hasConstructor := artifact.hasFunction "__constructor"
  [s!"Artifact: {path}",
    s!"SHA-256: {artifact.sha256}",
    s!"Size: {artifact.sizeBytes} bytes",
    s!"Host interface: protocol {artifact.envProtocolVersion} prerelease {artifact.envPreRelease}",
    s!"Version: {artifact.versionLabel}",
    s!"Upgrade entrypoint: {hasUpgrade}",
    s!"Constructor: {hasConstructor}",
    s!"Functions: {functions}",
    s!"Events: {events}",
    s!"User types: {userTypes}",
    "Entrypoint host-import reachability:"] ++
  artifact.exportCallEvidence.toList.map fun entry =>
    let imports :=
      if entry.2.hostImports.isEmpty then "none" else joined entry.2.hostImports.toList
    s!"  {entry.1}: {imports}. Dynamic dispatch reachable: {entry.2.dynamicDispatchReachable}"

/-! ### Reports -/

/-- The statements about the evidence, with their names. [SRC main.rs:764-803] -/
def evidenceItems (report : ValidationReport) : List (String × EvidenceItem) :=
  [("compiled Contract Spec", report.evidence.compiledContractSpec),
    ("artifact host imports", report.evidence.artifactHostImports),
    ("target network protocol", report.evidence.targetNetworkProtocol),
    ("declared storage schema", report.evidence.declaredStorageSchema),
    ("declared schema history", report.evidence.declaredSchemaHistory),
    ("ledger storage coverage", report.evidence.ledgerStorageCoverage),
    ("deployed caller graph", report.evidence.deployedCallerGraph),
    ("CAP-0086 per-type reader binding", report.evidence.cap0086PerTypeReaderBinding),
    ("migration completion", report.evidence.migrationCompletion)]

/-- `print_evidence_item`. [SRC main.rs:813-823] -/
def printEvidenceItem (name : String) (item : EvidenceItem) : List String :=
  let status := evidenceStatusLabel item.status
  [s!"  [{status}] {name}: {item.claim}", s!"    Basis: {item.basis}"] ++
    item.limitation.toList.map fun limitation => s!"    Limit: {limitation}"

/-- The position of a boundary. [SRC main.rs:826-829] -/
def positionLabel : BoundaryPosition → String
  | .input => "input"
  | .output => "output"

/-- The way from a boundary to a changed type. [SRC main.rs:825-844] -/
def formatPublicImpact (impact : PublicImpact) : String :=
  let boundary := impact.boundary
  let position := positionLabel boundary.position
  let label :=
    match boundary.label with
    | some label => s!" `{label}`"
    | none => ""
  let start :=
    s!"{boundary.function}() {position}[{boundary.index}]{label} -> {boundary.rootType}"
  let steps := impact.steps.map fun step => s!".{step.member} -> {step.targetType}"
  start ++ String.join steps ++ s!" (changed {impact.changedType})"

/-- One impact of a full report. [SRC main.rs:743-749] -/
def printPublicImpact (impact : PublicImpact) : List String :=
  let path := formatPublicImpact impact
  let structural := evidenceStatusLabel impact.structuralReachability
  let runtime := evidenceStatusLabel impact.runtimeCompatibility
  [s!"  {path}",
    s!"    structural reachability: {structural}. Runtime compatibility: {runtime}"]

/-- One finding of a full report: verdict line, detail and remediation. [SRC main.rs:752-761] -/
def printFinding (finding : Finding) : List String :=
  let label := severityLabel finding.severity
  [s!"[{label}] {finding.code}: {finding.title}",
    s!"  {finding.detail}",
    s!"  Fix: {finding.remediation}"]

/-- The network that a report was made for, as far as it is known. [SRC main.rs:723-731] -/
def printNetwork (context : ValidationContext) : List String :=
  (context.networkName.toList.map fun network => s!"Target network: {network}") ++
  (context.networkId.toList.map fun networkId => s!"Network ID: {networkId}") ++
  (context.observedAtUnixSeconds.toList.map fun observedAt =>
    s!"Network observed at (Unix): {observedAt}")

/-- `print_report`: the lines of a full report. [SRC main.rs:695-762] -/
def printReport (report : ValidationReport) : List String :=
  let protocol := protocolLabel report.context
  let evidence := protocolEvidenceLabel report.context.protocolSource
  let sparseRead := report.target.usesCap0086SparseRead
  let sparseWrite := report.target.usesCap0086SparseWrite
  [s!"Report format: {report.formatVersion}",
    s!"Validator version: {report.toolVersion}",
    s!"Upgrade safe: {report.safe}",
    s!"Version: {report.source.versionLabel} -> {report.target.versionLabel}",
    s!"Source SHA-256: {report.source.sha256}",
    s!"Target SHA-256: {report.target.sha256}",
    s!"Storage schema checked: {report.storageSchemaChecked}",
    s!"Schema history checked: {report.schemaHistoryChecked}",
    s!"Target protocol: {protocol}",
    s!"Protocol evidence: {evidence}"] ++
  printNetwork report.context ++
  [s!"CAP-0086 sparse read/write: {sparseRead}/{sparseWrite}",
    "Evidence coverage (FACT / INFERENCE / UNKNOWN):"] ++
  ((evidenceItems report).flatMap fun named => printEvidenceItem named.1 named.2) ++
  (if report.publicImpacts.isEmpty then []
    else "Retained public impact paths:" :: report.publicImpacts.flatMap printPublicImpact) ++
  report.findings.flatMap printFinding

/-! ### Compact reports -/

/-- The findings of one severity, as a compact report lists them: their distinct codes in order.
[SRC main.rs:877-900] -/
def printCodes (label : String) (findings : List Finding) : List String :=
  if findings.isEmpty then []
  else
    let codes : StringSet := .ofList (findings.map (·.code))
    let listed := joined codes.toList
    [s!"  {label}: {listed}"]

/-- `print_compact_report`: the lines of a compact report. [SRC main.rs:846-920] -/
def printCompactReport (report : ValidationReport) : List String :=
  let errors := report.findings.filter (·.severity = .error)
  let warnings := report.findings.filter (·.severity = .warning)
  let protocol := protocolLabel report.context
  let evidence := compactEvidenceLabel report.context.protocolSource
  let verdict := verdictLabel report.safe
  let versions := s!"{report.source.versionLabel} -> {report.target.versionLabel}"
  let sourceHash := shortHash report.source.sha256
  let targetHash := shortHash report.target.sha256
  let sparseRead := report.target.usesCap0086SparseRead
  let sparseWrite := report.target.usesCap0086SparseWrite
  let counts := s!"{errors.length} error(s), {warnings.length} warning(s)"
  [s!"{verdict} {versions} | protocol {protocol} ({evidence}) | {counts}"] ++
  printCodes "errors" errors ++
  printCodes "warnings" warnings ++
  [s!"  artifact: {sourceHash} -> {targetHash}",
    s!"  CAP-0086 sparse read/write: {sparseRead}/{sparseWrite}"] ++
  ((report.publicImpacts.take 3).map fun impact =>
    let path := formatPublicImpact impact
    s!"  public impact: {path}") ++
  (if 3 < report.publicImpacts.length then
    let additional := report.publicImpacts.length - 3
    [s!"  public impact: {additional} additional path(s) in the full JSON report"]
  else [])

end SorobanUpgrades
