/-
Module: SorobanUpgrades.Proofs.PlanVerification
Purpose: The plan verifier accepts exactly the plans the planner builds from a
  validation.
Trusted boundary: none
Main exports: AcceptedRequest, validatePlanRequest_eq_ok_iff,
  createPlanWithPaths_eq_ok_iff, validatePlanStructure_eq_ok_iff,
  verifyPlanDigest_eq_ok_true_iff
-/
import SorobanUpgrades.Library.Outcome
import SorobanUpgrades.Proofs.PlanDigest

namespace SorobanUpgrades

open Outcome (bind_eq_ok_iff seq_eq_ok_iff)

variable {primitives : Primitives}

/-! ### What a created plan went through -/

/-- The checks a request has passed. -/
structure AcceptedRequest (primitives : Primitives) (report : ValidationReport)
    (network contractId sourceIdentity : String) (inputs : PlanInputPaths)
    (operations : PlanOperations) : Prop where
  inputPaths : validatePlanInputPaths primitives inputs = .ok ()
  networkText : validatePlanString primitives "network" network 256 = .ok ()
  contractKey : validateContractId primitives contractId = .ok ()
  safe : ¬ (report.safe = false ∨ report.findings.any (·.isError) = true)
  protocol : validateProtocolEvidence report network = .ok ()
  storageChecked : ¬ report.storageSchemaChecked = false
  historyChecked : ¬ (report.schemaHistoryChecked = false ∨ report.schemaHistorySha256 = none)
  identityText : validateSourceIdentity primitives sourceIdentity = .ok ()
  migrationSelection : validateMigrationSelection report operations.migration = .ok ()
  sourceEntrypoint : validateStandardUpgradeEntrypoint primitives report.source = .ok ()
  targetEntrypoint : validateStandardUpgradeEntrypoint primitives report.target = .ok ()
  migrationCall : validateMigrationCall primitives report.target operations.migration = .ok ()
  invariantCheck : validateInvariantCheck primitives operations.invariantCheck = .ok ()

section Requests

variable {report : ValidationReport} {network contractId sourceIdentity : String}
  {inputs : PlanInputPaths} {operations : PlanOperations}

theorem validatePlanRequest_eq_ok_iff :
    validatePlanRequest primitives report network contractId sourceIdentity inputs operations
      = .ok () ↔
    AcceptedRequest primitives report network contractId sourceIdentity inputs operations := by
  simp only [validatePlanRequest, seq_eq_ok_iff, refuse_eq_ok_iff]
  constructor
  · rintro ⟨inputPaths, networkText, contractKey, safe, protocol, storageChecked, historyChecked,
      identityText, migrationSelection, sourceEntrypoint, targetEntrypoint, migrationCall,
      invariantCheck⟩
    exact ⟨inputPaths, networkText, contractKey, safe, protocol, storageChecked, historyChecked,
      identityText, migrationSelection, sourceEntrypoint, targetEntrypoint, migrationCall,
      invariantCheck⟩
  · rintro ⟨inputPaths, networkText, contractKey, safe, protocol, storageChecked, historyChecked,
      identityText, migrationSelection, sourceEntrypoint, targetEntrypoint, migrationCall,
      invariantCheck⟩
    exact ⟨inputPaths, networkText, contractKey, safe, protocol, storageChecked, historyChecked,
      identityText, migrationSelection, sourceEntrypoint, targetEntrypoint, migrationCall,
      invariantCheck⟩

/-- The report of an accepted request is safe. -/
theorem AcceptedRequest.safe_report
    (accepted : AcceptedRequest primitives report network contractId sourceIdentity inputs
      operations) : report.safe = true := by
  have passed := accepted.safe
  rw [not_or, Bool.not_eq_false] at passed
  exact passed.1

/-- The protocol evidence of an accepted request is about its network. -/
theorem AcceptedRequest.networkName
    (accepted : AcceptedRequest primitives report network contractId sourceIdentity inputs
      operations) : report.context.networkName = some network := by
  have protocol := accepted.protocol
  rw [validateProtocolEvidence, seq_eq_ok_iff] at protocol
  obtain ⟨_, protocol⟩ := protocol
  cases named : report.context.networkName with
  | none => simp [named] at protocol
  | some evidenceNetwork => simpa [named] using protocol

variable (primitives) in
/-- The digest of a plan always exists. -/
theorem exists_calculatePlanSha256 (plan : UpgradePlan) :
    ∃ digest, calculatePlanSha256 primitives plan = .ok digest := by
  rw [calculatePlanSha256, planDigestBytes_eq]
  exact ⟨_, rfl⟩

/-- The digest ignores the digest the plan carries. -/
theorem calculatePlanSha256_setDigest (plan : UpgradePlan) (digest : String) :
    calculatePlanSha256 primitives (plan.setDigest digest) = calculatePlanSha256 primitives plan := by
  rw [calculatePlanSha256, planDigestBytes_setDigest, calculatePlanSha256]

/-- A created plan is the assembled plan with its digest. -/
theorem createPlanWithPaths_eq_ok_iff {plan : UpgradePlan} :
    createPlanWithPaths primitives report network contractId sourceIdentity inputs operations
      = .ok plan ↔
    AcceptedRequest primitives report network contractId sourceIdentity inputs operations ∧
      containsStellarPrivateKey primitives
        (encode (assemblePlan report network contractId sourceIdentity inputs
          operations)).compact = false ∧
      ∃ digest, calculatePlanSha256 primitives
          (assemblePlan report network contractId sourceIdentity inputs operations) = .ok digest ∧
        plan = (assemblePlan report network contractId sourceIdentity inputs
          operations).setDigest digest := by
  rw [createPlanWithPaths, seq_eq_ok_iff, validatePlanRequest_eq_ok_iff]
  dsimp only
  rw [seq_eq_ok_iff, refuse_eq_ok_iff, Bool.not_eq_true, bind_eq_ok_iff]
  simp only [Except.ok.injEq]
  refine and_congr_right fun _ => and_congr_right fun _ => exists_congr fun digest =>
    and_congr_right fun _ => eq_comm

end Requests

/-! ### What a created plan is made of -/

section Created

variable {report : ValidationReport} {network contractId sourceIdentity : String}
  {inputs : PlanInputPaths} {operations : PlanOperations} {plan : UpgradePlan}

/-- A created plan carries the digest of its own contents. -/
theorem calculatePlanSha256_of_created
    (created : createPlanWithPaths primitives report network contractId sourceIdentity inputs
      operations = .ok plan) :
    calculatePlanSha256 primitives plan = .ok plan.planSha256 := by
  obtain ⟨_, _, digest, calculated, rfl⟩ := createPlanWithPaths_eq_ok_iff.1 created
  rw [calculatePlanSha256_setDigest]
  exact calculated

/-- A created plan is ready for review only with evidence from the network itself. -/
theorem protocolSource_of_reviewReady
    (created : createPlanWithPaths primitives report network contractId sourceIdentity inputs
      operations = .ok plan) (ready : plan.status = .reviewReady) :
    report.context.protocolSource = .stellarCliNetworkInfo := by
  obtain ⟨_, _, _, _, same⟩ := createPlanWithPaths_eq_ok_iff.1 created
  have status : plan.status =
      if report.context.protocolSource = .stellarCliNetworkInfo then .reviewReady
      else .offlineDraft := congrArg UpgradePlan.status same
  rw [ready] at status
  by_contra other
  rw [if_neg other] at status
  cases status

variable (report network contractId sourceIdentity inputs operations) in
theorem stepsOfKind_upload_assemblePlan :
    (assemblePlan report network contractId sourceIdentity inputs operations).stepsOfKind
      .uploadTargetWasm = [.new 2 .uploadTargetWasm "stellar"
        (uploadArguments inputs.targetWasm sourceIdentity network)
        s!"WASM hash {report.target.sha256}"] := by
  cases migration : operations.migration <;>
    simp [UpgradePlan.stepsOfKind, assemblePlan, planSteps, migrationSteps, PlanStep.new, migration]

variable (report network contractId sourceIdentity inputs operations) in
theorem stepsOfKind_migration_assemblePlan :
    (assemblePlan report network contractId sourceIdentity inputs operations).stepsOfKind
      .executeMigration =
      migrationSteps contractId sourceIdentity network operations.migration := by
  cases migration : operations.migration <;>
    simp [UpgradePlan.stepsOfKind, assemblePlan, planSteps, migrationSteps, PlanStep.new, migration]

theorem validateUploadStep_assemblePlan (digest : String) :
    validateUploadStep ((assemblePlan report network contractId sourceIdentity inputs
      operations).setDigest digest) = .ok () := by
  have steps : ((assemblePlan report network contractId sourceIdentity inputs
      operations).setDigest digest).stepsOfKind .uploadTargetWasm = _ :=
    stepsOfKind_upload_assemblePlan report network contractId sourceIdentity inputs operations
  have named : argumentAfter (uploadArguments inputs.targetWasm sourceIdentity network) "--wasm" =
      some inputs.targetWasm := rfl
  rw [validateUploadStep, steps]
  simp only [PlanStep.new, named, refuse_eq_ok_iff]
  exact fun differ => differ rfl

theorem validateMigrationSteps_assemblePlan (digest : String) :
    validateMigrationSteps ((assemblePlan report network contractId sourceIdentity inputs
      operations).setDigest digest) = .ok () := by
  have steps := stepsOfKind_migration_assemblePlan report network contractId sourceIdentity inputs
    operations
  have count : (((assemblePlan report network contractId sourceIdentity inputs
      operations).setDigest digest).stepsOfKind .executeMigration).length =
      operations.migration.isSome.toNat := by
    change ((assemblePlan report network contractId sourceIdentity inputs
      operations).stepsOfKind .executeMigration).length = _
    rw [steps]
    cases operations.migration <;> rfl
  rw [validateMigrationSteps, seq_eq_ok_iff, refuse_eq_ok_iff, refuse_eq_ok_iff, count]
  exact ⟨Nat.not_lt.2 (Bool.toNat_le _), fun differ => differ rfl⟩

end Created

/-! ### The sample plan -/

namespace Sample

/-- The sample plan before its digest is filled in. -/
def plan : UpgradePlan :=
  assemblePlan safeReport "testnet" contractId "deployer" inputs operations

theorem scan_clean (text : List Char) : containsStellarPrivateKey Sample.primitives text = false := by
  rw [containsStellarPrivateKey, List.any_eq_false]
  intro window _
  rw [isPrivateKeyWindow]
  simp [Sample.primitives]

/-- An accepted request leads to its plan. -/
theorem created_of_accepted {report : ValidationReport} {network contractId sourceIdentity : String}
    {inputs : PlanInputPaths} {operations : PlanOperations}
    (accepted : validatePlanRequest Sample.primitives report network contractId sourceIdentity
      inputs operations = .ok ()) :
    ∃ digest, createPlanWithPaths Sample.primitives report network contractId sourceIdentity
      inputs operations = .ok ((assemblePlan report network contractId sourceIdentity inputs
        operations).setDigest digest) := by
  obtain ⟨digest, calculated⟩ := exists_calculatePlanSha256 Sample.primitives
    (assemblePlan report network contractId sourceIdentity inputs operations)
  exact ⟨digest, createPlanWithPaths_eq_ok_iff.2 ⟨validatePlanRequest_eq_ok_iff.1 accepted,
    scan_clean _, digest, calculated, rfl⟩⟩

theorem plan_created : ∃ digest, createPlanWithPaths Sample.primitives safeReport "testnet"
    contractId "deployer" inputs operations = .ok (plan.setDigest digest) :=
  created_of_accepted rfl

end Sample

/-! ### Verification -/

/-- A plan has the canonical structure when its report is a fresh validation and
the planner builds the same plan, up to the digest. -/
theorem validatePlanStructure_eq_ok_iff {plan : UpgradePlan} :
    validatePlanStructure primitives plan = .ok () ↔
    revalidate primitives plan = plan.validation ∧
      ∃ expected, createPlanWithPaths primitives plan.validation plan.network plan.contractId
          plan.sourceIdentity plan.inputs
          { migration := plan.migration, invariantCheck := plan.invariantCheck } = .ok expected ∧
        plan.setDigest "" = expected.setDigest "" := by
  rw [validatePlanStructure, seq_eq_ok_iff, seq_eq_ok_iff, seq_eq_ok_iff, seq_eq_ok_iff,
    bind_eq_ok_iff]
  simp only [refuse_eq_ok_iff, not_not]
  constructor
  · rintro ⟨_, fresh, _, _, expected, created, same⟩
    exact ⟨fresh, expected, created, same⟩
  · rintro ⟨fresh, expected, created, same⟩
    obtain ⟨_, _, digest, _, rfl⟩ := createPlanWithPaths_eq_ok_iff.1 created
    have whole : plan = (assemblePlan plan.validation plan.network plan.contractId
        plan.sourceIdentity plan.inputs
        { migration := plan.migration, invariantCheck := plan.invariantCheck }).setDigest
        plan.planSha256 := congrArg (·.setDigest plan.planSha256) same
    refine ⟨?_, fresh, ?_, ?_, _, created, same⟩
    · rw [whole]
      rfl
    · rw [whole]
      exact validateUploadStep_assemblePlan _
    · rw [whole]
      exact validateMigrationSteps_assemblePlan _

/-- The verifier accepts a plan when the planner builds exactly this plan from a
fresh validation of the embedded evidence. -/
theorem verifyPlanDigest_eq_ok_true_iff_rebuilt {plan : UpgradePlan} :
    verifyPlanDigest primitives plan = .ok true ↔
    revalidate primitives plan = plan.validation ∧
      createPlanWithPaths primitives plan.validation plan.network plan.contractId
        plan.sourceIdentity plan.inputs
        { migration := plan.migration, invariantCheck := plan.invariantCheck } = .ok plan := by
  rw [verifyPlanDigest, seq_eq_ok_iff, validatePlanStructure_eq_ok_iff, bind_eq_ok_iff]
  simp only [Except.ok.injEq, beq_iff_eq]
  constructor
  · rintro ⟨⟨fresh, expected, created, same⟩, digest, calculated, matching⟩
    have expectedDigest := calculatePlanSha256_of_created created
    rw [← calculatePlanSha256_setDigest expected "", ← same, calculatePlanSha256_setDigest,
      calculated, Except.ok.injEq, ← matching] at expectedDigest
    have equal : plan = expected := by
      calc plan = (plan.setDigest "").setDigest plan.planSha256 := rfl
        _ = (expected.setDigest "").setDigest expected.planSha256 := by rw [same, expectedDigest]
        _ = expected := rfl
    exact ⟨fresh, equal ▸ created⟩
  · rintro ⟨fresh, created⟩
    exact ⟨⟨fresh, plan, created, rfl⟩, plan.planSha256, calculatePlanSha256_of_created created,
      rfl⟩

/-- A plan created from a validation is accepted. -/
theorem verifyPlanDigest_of_created {source target : Artifact}
    {sourceSchema targetSchema : Option StorageSchema} {policy : Policy}
    {context : ValidationContext} {schemaHistory : Option SchemaHistory}
    {network contractId sourceIdentity : String} {inputs : PlanInputPaths}
    {operations : PlanOperations} {plan : UpgradePlan}
    (created : createPlanWithPaths primitives
      (validateWithHistory primitives source target sourceSchema targetSchema policy context
        schemaHistory)
      network contractId sourceIdentity inputs operations = .ok plan) :
    verifyPlanDigest primitives plan = .ok true := by
  rw [verifyPlanDigest_eq_ok_true_iff_rebuilt]
  obtain ⟨_, _, digest, _, rfl⟩ := createPlanWithPaths_eq_ok_iff.1 created
  exact ⟨rfl, created⟩

/-- The verifier accepts exactly the plans that can be created from a validation. -/
theorem verifyPlanDigest_eq_ok_true_iff (primitives : Primitives) (plan : UpgradePlan) :
    verifyPlanDigest primitives plan = .ok true ↔
    ∃ (source target : Artifact) (sourceSchema targetSchema : Option StorageSchema)
      (policy : Policy) (context : ValidationContext) (schemaHistory : Option SchemaHistory)
      (network contractId sourceIdentity : String) (inputs : PlanInputPaths)
      (operations : PlanOperations),
      createPlanWithPaths primitives
        (validateWithHistory primitives source target sourceSchema targetSchema policy context
          schemaHistory)
        network contractId sourceIdentity inputs operations = .ok plan := by
  constructor
  · intro verified
    obtain ⟨fresh, created⟩ := verifyPlanDigest_eq_ok_true_iff_rebuilt.1 verified
    rw [← fresh] at created
    exact ⟨_, _, _, _, _, _, _, _, _, _, _, _, created⟩
  · rintro ⟨_, _, _, _, _, _, _, _, _, _, _, _, created⟩
    exact verifyPlanDigest_of_created created

end SorobanUpgrades
