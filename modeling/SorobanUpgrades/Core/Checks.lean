/-
Module: SorobanUpgrades.Core.Checks
Purpose: The checks of the policy, the protocol evidence, the host interface,
  the upgrade entrypoint and the release versions.
Trusted boundary: human-reviewed spec
Main exports: checkPolicy, checkProtocolContext, checkEnvironmentCompatibility,
  checkCap0086, checkUpgradeEntrypoint, checkConstructor, checkVersions
-/
import SorobanUpgrades.Core.Primitives

namespace SorobanUpgrades

/-!
Each check returns the findings it adds, in the order it adds them.
-/

/-- A finding that blocks the release. -/
def Finding.isError (finding : Finding) : Bool := finding.severity == .error

@[simp] theorem isError_error (code title detail remediation : String) :
    (error code title detail remediation).isError = true := rfl

@[simp] theorem isError_warning (code title detail remediation : String) :
    (warning code title detail remediation).isError = false := rfl

@[simp] theorem isError_info (code title detail remediation : String) :
    (info code title detail remediation).isError = false := rfl

/-- No finding blocks the release. -/
def Unblocked (findings : List Finding) : Prop := ∀ finding ∈ findings, finding.isError = false

instance (findings : List Finding) : Decidable (Unblocked findings) :=
  inferInstanceAs (Decidable (∀ finding ∈ findings, finding.isError = false))

@[simp] theorem unblocked_nil : Unblocked [] := by simp [Unblocked]

@[simp] theorem unblocked_cons {finding : Finding} {findings : List Finding} :
    Unblocked (finding :: findings) ↔ finding.isError = false ∧ Unblocked findings := by
  simp [Unblocked]

@[simp] theorem unblocked_append {before after : List Finding} :
    Unblocked (before ++ after) ↔ Unblocked before ∧ Unblocked after := by
  simp [Unblocked, or_imp, forall_and]

theorem unblocked_flatMap {α : Type} {items : List α} {check : α → List Finding} :
    Unblocked (items.flatMap check) ↔ ∀ item ∈ items, Unblocked (check item) := by
  simp only [Unblocked, List.mem_flatMap]
  exact ⟨fun clear item listed finding found => clear finding ⟨item, listed, found⟩,
    fun clear finding ⟨item, listed, found⟩ => clear item listed finding found⟩

theorem unblocked_ite {condition : Prop} [Decidable condition] {findings others : List Finding} :
    Unblocked (if condition then findings else others) ↔
      (condition → Unblocked findings) ∧ (¬ condition → Unblocked others) := by
  split <;> simp_all

/-- A check that raises one error exactly when its condition holds. -/
theorem unblocked_error_iff {condition : Prop} [Decidable condition]
    {code title detail remediation : String} :
    Unblocked (if condition then [error code title detail remediation] else []) ↔
      ¬ condition := by
  split <;> simp_all

/-- A check that only ever warns. -/
@[simp] theorem unblocked_warning {condition : Prop} [Decidable condition]
    {code title detail remediation : String} :
    Unblocked (if condition then [warning code title detail remediation] else []) := by
  split <;> simp

/-- The findings of a loop over the entries of a map. -/
def forEach {ν : Type} (entries : StringMap ν) (check : String → ν → List Finding) :
    List Finding :=
  entries.toList.flatMap fun entry => check entry.1 entry.2

theorem unblocked_forEach_iff {ν : Type} {entries : StringMap ν}
    {check : String → ν → List Finding} :
    Unblocked (forEach entries check) ↔
      ∀ key value, entries[key]? = some value → Unblocked (check key value) := by
  rw [forEach, unblocked_flatMap]
  constructor
  · intro clear key value stored
    exact clear (key, value) (OrderedMap.mem_toList_iff.2 stored)
  · rintro clear ⟨key, value⟩ listed
    exact clear key value (OrderedMap.mem_toList_iff.1 listed)

/-! ### Policy -/

/-- The protections a policy can switch off, with their labels. [SRC lib.rs:1477-1499] -/
def Policy.protections (policy : Policy) : List (Bool × String) := [
  (policy.requireUpgradeFunction, "retained upgrade entrypoint"),
  (policy.requireSemverIncrease, "increasing `binver`"),
  (policy.requireStorageSchema, "complete storage schemas"),
  (policy.requireSchemaHistory, "complete schema history"),
  (policy.denyRemovedFunctions, "removed public functions"),
  (policy.denyChangedFunctions, "changed function signatures"),
  (policy.denyRemovedEvents, "removed contract events"),
  (policy.denyChangedEvents, "changed contract events"),
  (policy.denyChangedUserTypes, "changed or removed user-defined types")]

/-- The labels of the protections that are switched off, in the order of the source.
[SRC lib.rs:1477-1499] -/
def Policy.disabled (policy : Policy) : List String :=
  policy.protections.filterMap fun (enabled, label) => if enabled then none else some label

/-- POL001 and POL002: an unsupported format blocks, a disabled protection warns.
[SRC lib.rs:1464-1513] -/
def checkPolicy (policy : Policy) : List Finding :=
  let labels := joined policy.disabled
  (if policy.formatVersion ≠ 1 then
    [error "POL001" "Unsupported policy format"
      s!"Policy `{policy.name}` uses format version {policy.formatVersion}. This build supports version 1."
      "Regenerate the policy with a supported format or upgrade the validator before relying on its result."]
  else []) ++
  (if policy.disabled ≠ [] then
    [warning "POL002" "Policy disables compatibility protections"
      s!"Policy `{policy.name}` disables checks for: {labels}."
      "Use the conservative default or ensure every exception is reviewed and preserved in the plan digest."]
  else [])

/-! ### Network evidence and host interface -/

/-- NET001 to NET006: the evidence for the protocol version. Only live evidence with six fields is
complete. [SRC lib.rs:1549-1606] -/
def checkProtocolContext (context : ValidationContext) : List Finding :=
  match context.protocolSource with
  | .unpinned =>
      if context.targetProtocolVersion.isNone then
        [warning "NET001" "Target protocol was not pinned"
          "Protocol-dependent host capabilities cannot be approved without the target network's active protocol version."
          "Pass `--network` for a live Stellar CLI network read or `--protocol-version` for an explicitly recorded offline assertion."]
      else
        [error "NET002" "Protocol version has no evidence source"
          "The validation context contains a protocol version but does not state whether it came from a live network read or an offline assertion."
          "Construct the context through the CLI resolver so provenance is recorded and plan-bound."]
  | .offlineAssertion =>
      if context.targetProtocolVersion.isSome then
        [warning "NET003" "Target protocol is an offline assertion"
          "The protocol version was supplied by the operator and was not read from live network state during this validation."
          "Re-run with `--network` immediately before release, or preserve independent protocol evidence with the reviewed plan."]
      else
        [error "NET004" "Offline protocol assertion is empty"
          "The context marks its protocol as an offline assertion but contains no protocol version."
          "Supply an explicit protocol version or use a live network read."]
  | .stellarCliNetworkInfo =>
      if context.targetProtocolVersion.isSome && context.networkName.isSome &&
          context.networkId.isSome && context.networkPassphrase.isSome &&
          context.rpcVersion.isSome && context.observedAtUnixSeconds.isSome then
        let protocol := context.targetProtocolVersion.getD 0
        let network := context.networkName.getD "unknown"
        let networkId := context.networkId.getD "unknown"
        [info "NET005" "Target protocol resolved from live network state"
          s!"Stellar CLI read protocol {protocol} for network `{network}` (network ID {networkId})."
          "Keep this evidence in the content-addressed plan and resolve it again immediately before submission."]
      else
        [error "NET006" "Live network evidence is incomplete"
          "The context claims a Stellar CLI network read but is missing protocol, network identity, passphrase, RPC version, or observation time."
          "Discard the incomplete context and repeat the live network query."]

/-- ENV001 and ENV002: the interface version of the target against the protocol.
[SRC lib.rs:1515-1547] -/
def checkEnvironmentCompatibility (target : Artifact) (context : ValidationContext) :
    List Finding :=
  let protocol := context.targetProtocolVersion.getD 0
  (if target.envPreRelease ≠ 0 then
    [error "ENV001" "Candidate uses a prerelease host interface"
      s!"The candidate declares environment protocol {target.envProtocolVersion} with prerelease value {target.envPreRelease}."
      "Build the candidate with a stable Soroban SDK before release."]
  else []) ++
  (if context.targetProtocolVersion.any (· < target.envProtocolVersion) then
    [error "ENV002" "Candidate requires a newer network protocol"
      s!"The candidate requires protocol {target.envProtocolVersion}, but the selected network evidence reports protocol {protocol}."
      "Use a compatible SDK or wait for the network protocol upgrade."]
  else [])

/-! ### CAP-0086 -/

/-- The exports whose call evidence reaches a host import. [SRC lib.rs:1654-1673] -/
def Artifact.exportsReaching (artifact : Artifact) (hostImport : String) : List String :=
  artifact.exportCallEvidence.toList.filterMap fun (name, evidence) =>
    if evidence.hostImports.contains hostImport then some name else none

/-- The exports whose calls are not all known. [SRC lib.rs:1674-1682] -/
def Artifact.dynamicExports (artifact : Artifact) : List String :=
  artifact.exportCallEvidence.toList.filterMap fun (name, evidence) =>
    if evidence.dynamicDispatchReachable then some name else none

/-- CAP001 to CAP003: the sparse imports against the selected protocol. [SRC lib.rs:1612-1643] -/
def checkSparseProtocol (target : Artifact) (protocol : UInt32) : List Finding :=
  let sparseRead := target.usesCap0086SparseRead
  let sparseWrite := target.usesCap0086SparseWrite
  if (sparseRead || sparseWrite) && decide (protocol < cap0086Protocol) then
    [error "CAP001" "Candidate requires CAP-0086 before network activation"
      s!"The target imports CAP-0086 sparse-map host functions, which require protocol {cap0086Protocol}, but the selected target protocol is {protocol}."
      "Deploy a protocol-27-compatible build or wait until the target network activates protocol 28 and re-run validation."]
  else if decide (cap0086Protocol ≤ protocol) && sparseRead then
    [info "CAP002" "Candidate imports CAP-0086 sparse decoding"
      s!"The candidate imports `sparse_map_unpack_to_linear_memory` and the selected protocol {protocol} supports it. This artifact-level fact does not prove which contract type uses the sparse reader."
      "Require type-specific reader evidence plus field-history and cross-contract rollout checks before approving schema evolution."]
  else if cap0086Protocol ≤ protocol then
    [warning "CAP003" "Protocol supports CAP-0086 but the candidate does not use sparse decoding"
      s!"Protocol {protocol} exposes CAP-0086, but this WASM does not import `sparse_map_unpack_to_linear_memory`. Its contract-type decoding remains strict."
      "Use an SDK or explicit implementation that opts into CAP-0086 before treating missing or additional fields as compatible."]
  else []

/-- CAP001 to CAP004 and CAP007 to CAP009: the sparse map imports of the target and the exports that
reach them. [SRC lib.rs:1608-1711] -/
def checkCap0086 (target : Artifact) (context : ValidationContext) : List Finding :=
  let sparseRead := target.usesCap0086SparseRead
  let sparseWrite := target.usesCap0086SparseWrite
  let dynamicNames := joined target.dynamicExports
  context.targetProtocolVersion.elim [] (checkSparseProtocol target) ++
  (if sparseWrite && !sparseRead then
    [warning "CAP004" "Sparse writer is enabled without sparse reader"
      "Omitting `Void` fields can break older strict readers in cross-contract calls when contracts are upgraded independently."
      "Prefer sparse reads first, keep sparse writes explicitly opt-in, and validate a staged dependency-aware rollout."]
  else []) ++
  (if sparseRead && (target.exportsReaching cap0086SparseReadImport).isEmpty then
    [error "CAP007" "Sparse-reader import is not directly reachable from an exported function"
      "The candidate imports `m.c`, but the direct-call graph does not connect that import to any exported function. An unused or dynamically reached import is not evidence that a contract entrypoint decodes sparsely."
      "Provide an artifact whose relevant exported entrypoint directly reaches the sparse reader, and retain the call evidence with the report."]
  else []) ++
  (if sparseWrite && (target.exportsReaching cap0086SparseWriteImport).isEmpty then
    [error "CAP009" "Sparse-writer import is not directly reachable from an exported function"
      "The candidate imports `m.b`, but the direct-call graph does not connect that import to any exported function. An unused or dynamically reached import is not evidence that a contract entrypoint writes sparsely."
      "Provide an artifact whose relevant exported entrypoint directly reaches the sparse writer, and retain the call evidence with the report."]
  else []) ++
  (if (sparseRead || sparseWrite) && !target.dynamicExports.isEmpty then
    [warning "CAP008" "Dynamic dispatch limits CAP-0086 call-graph evidence"
      s!"Exported function(s) {dynamicNames} reach indirect or reference calls, so static host-import reachability is incomplete even where direct CAP-0086 paths are present."
      "Remove dynamic dispatch from the compatibility-critical path or provide a separately verified complete call-target set."]
  else [])

/-! ### Upgrade entrypoint and constructor -/

/-- The `upgrade` export is known to reach the host function that replaces WASM.
[SRC lib.rs:1205-1212] -/
def Artifact.reachesUpdate (artifact : Artifact) : Bool :=
  artifact.exportCallEvidence["upgrade"]?.any
    (·.hostImports.contains updateCurrentContractWasmImport)

/-- UPG003 and UPG004: one side has an `upgrade` that reaches the host function. A target without
`upgrade` is left to UPG001. [SRC lib.rs:1188-1223] -/
def checkUpgradeHostCapability (artifact : Artifact) (side code : String) : List Finding :=
  if !artifact.hasFunction "upgrade" then
    if side == "source" then
      [error code "Source has no executable upgrade path"
        "The source Contract Spec has no `upgrade` function for the planned replacement."
        "Deploy through an existing authorized replacement path before you use the standard planner."]
    else []
  else if !artifact.reachesUpdate then
    [error code s!"{side} upgrade function cannot replace WASM"
      s!"The {side} `upgrade` export does not reach Stellar host import `{updateCurrentContractWasmImport}`."
      "Call `update_current_contract_wasm` from the authorized upgrade path and rebuild the exact candidate."]
  else []

/-- UPG001, UPG003 and UPG004, under a policy that requires the entrypoint.
[SRC lib.rs:1062-1073] -/
def checkUpgradeEntrypoint (source target : Artifact) (policy : Policy) : List Finding :=
  (if policy.requireUpgradeFunction && !target.hasFunction "upgrade" then
    [error "UPG001" "Target removes the upgrade entrypoint"
      "The target contract specification has no `upgrade` function. A successful deployment makes subsequent upgrades unavailable without another authorized host update."
      "Retain an authorized `upgrade` entrypoint or explicitly approve immutability as a terminal release."]
  else []) ++
  (if policy.requireUpgradeFunction then
    checkUpgradeHostCapability source "source" "UPG003" ++
      checkUpgradeHostCapability target "target" "UPG004"
  else [])

/-- UPG002: a constructor of the target warns, or blocks where the policy forbids it.
[SRC lib.rs:1075-1092] -/
def checkConstructor (target : Artifact) (policy : Policy) : List Finding :=
  if target.hasFunction "__constructor" then
    if policy.forbidConstructor then
      [error "UPG002" "Target contains a constructor"
        "Soroban does not invoke `__constructor` when WASM is replaced. Any state initialization placed there will be skipped during this upgrade."
        "Move upgrade-time initialization to an idempotent migration entrypoint and test it against the pre-upgrade state."]
    else
      [warning "UPG002" "Target constructor will not run during upgrade"
        "The target can validly retain a constructor for fresh deployments, but Soroban will not invoke it when replacing WASM."
        "Confirm that upgrade-time initialization is handled by an idempotent migration and that no upgrade invariant depends on the constructor."]
  else []

/-! ### Release versions -/

/-- VER001 to VER003: the versions are given, readable and increasing in the crate's order.
[SRC lib.rs:2094-2127] -/
def checkVersions (primitives : Primitives) (source target : Artifact) (policy : Policy) :
    List Finding :=
  if !policy.requireSemverIncrease then []
  else
    match source.version, target.version with
    | some sourceText, some targetText =>
        match primitives.parseVersion sourceText, primitives.parseVersion targetText with
        | some sourceVersion, some targetVersion =>
            if sourceVersion < targetVersion then []
            else
              let fromDisplay := sourceVersion.display
              let toDisplay := targetVersion.display
              [error "VER002" "Target version does not increase"
                s!"Target `binver` {toDisplay} must be greater than source `binver` {fromDisplay}."
                "Use a higher semantic version matching the compatibility impact of the release."]
        | _, _ =>
            [error "VER003" "Invalid semantic version metadata"
              s!"Could not compare source `{sourceText}` with target `{targetText}` as semantic versions."
              "Use valid SemVer values such as `1.2.0`."]
    | _, _ =>
        [error "VER001" "Missing SEP-49 `binver` metadata"
          "Both source and target WASM must embed a semantic version under the `binver` contract metadata key."
          "Build with `stellar contract build --meta binver=<semver>` for both artifacts."]

end SorobanUpgrades
