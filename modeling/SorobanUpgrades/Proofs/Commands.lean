/-
Module: SorobanUpgrades.Proofs.Commands
Purpose: What the success of a command says about the files and the network, and
  which files it looks at.
Trusted boundary: none
Main exports: Evidence, Loads, loadReport_eq_ok_iff, makeSurePlanMatches_iff,
  verifyLoadedPlan_offline_iff, verifyLoadedPlan_live_iff, planCommand_eq_ok_iff,
  planCommand_eq_error, emitPlan_eq_ok, emitPlan_eq_error, planCommand_succeeds_iff
-/
import SorobanUpgrades.Core.Cli
import SorobanUpgrades.Proofs.PlanVerification
import SorobanUpgrades.Proofs.StrictParsing

namespace SorobanUpgrades

open Outcome (bind_eq_ok_iff bind_eq_error_iff seq_eq_ok_iff)

variable {libraries : Libraries} {environment : Environment}

/-! ### Files -/

/-- A bounded read succeeds on the files within the limit. -/
theorem readBounded_eq_ok_iff {path kind : String} {limit : Nat} {bytes : List UInt8} :
    readBounded environment path limit kind = .ok bytes ↔
      environment.files path = some bytes ∧ bytes.length ≤ limit := by
  rw [readBounded]
  cases environment.files path with
  | none => simp
  | some contents =>
      simp only [List.length_take, Option.some.injEq]
      by_cases large : limit < contents.length
      · rw [if_pos (by omega), bail]
        simp only [reduceCtorEq, false_iff, not_and, not_le]
        rintro rfl
        exact large
      · rw [if_neg (by omega), List.take_of_length_le (by omega), Except.ok.injEq]
        constructor
        · rintro rfl
          exact ⟨rfl, by omega⟩
        · exact And.left

/-- The declarations and artifacts an upgrade is judged by. -/
structure Evidence where
  source : Artifact
  target : Artifact
  sourceSchema : StorageSchema
  targetSchema : StorageSchema
  policy : Policy
  history : SchemaHistory

/-- The report of the loaded evidence. -/
def Evidence.report (evidence : Evidence) (primitives : Primitives)
    (context : ValidationContext) : ValidationReport :=
  validateWithHistory primitives evidence.source evidence.target (some evidence.sourceSchema)
    (some evidence.targetSchema) evidence.policy context (some evidence.history)

/-- The files at the input paths hold the evidence. -/
structure Loads (libraries : Libraries) (environment : Environment) (inputs : PlanInputPaths)
    (evidence : Evidence) : Prop where
  source : loadArtifact libraries environment inputs.sourceWasm = .ok evidence.source
  target : loadArtifact libraries environment inputs.targetWasm = .ok evidence.target
  sourceSchema : loadSchema libraries environment inputs.sourceSchema = .ok evidence.sourceSchema
  targetSchema : loadSchema libraries environment inputs.targetSchema = .ok evidence.targetSchema
  policy : loadPolicy libraries environment inputs.policy = .ok evidence.policy
  history : loadSchemaHistory libraries environment inputs.schemaHistory = .ok evidence.history

/-- Two readings of the same files agree. -/
theorem Loads.unique {inputs : PlanInputPaths} {left right : Evidence}
    (one : Loads libraries environment inputs left)
    (two : Loads libraries environment inputs right) : left = right := by
  cases left
  cases right
  simp only [Evidence.mk.injEq]
  exact ⟨Except.ok.inj (one.source.symm.trans two.source),
    Except.ok.inj (one.target.symm.trans two.target),
    Except.ok.inj (one.sourceSchema.symm.trans two.sourceSchema),
    Except.ok.inj (one.targetSchema.symm.trans two.targetSchema),
    Except.ok.inj (one.policy.symm.trans two.policy),
    Except.ok.inj (one.history.symm.trans two.history)⟩

/-- A loaded report is the validation of the evidence in the files. -/
theorem loadReport_eq_ok_iff (inputs : PlanInputPaths) (context : ValidationContext)
    {report : ValidationReport} :
    loadReport libraries environment inputs.sourceWasm inputs.targetWasm
        (some inputs.sourceSchema) (some inputs.targetSchema) inputs.policy context
        (some inputs.schemaHistory) = .ok report ↔
      ∃ evidence, Loads libraries environment inputs evidence ∧
        evidence.report libraries.primitives context = report := by
  simp only [loadReport, loadOptional, bind_eq_ok_iff, Except.ok.injEq]
  constructor
  · rintro ⟨source, readSource, target, readTarget, _, ⟨before, readBefore, rfl⟩, _,
      ⟨after, readAfter, rfl⟩, policy, readPolicy, _, ⟨history, readHistory, rfl⟩, rfl⟩
    exact ⟨⟨source, target, before, after, policy, history⟩,
      ⟨readSource, readTarget, readBefore, readAfter, readPolicy, readHistory⟩, rfl⟩
  · rintro ⟨evidence, loads, rfl⟩
    exact ⟨_, loads.source, _, loads.target, _, ⟨_, loads.sourceSchema, rfl⟩, _,
      ⟨_, loads.targetSchema, rfl⟩, _, loads.policy, _, ⟨_, loads.history, rfl⟩, rfl⟩

/-! A command looks at its input files only. -/

theorem Environment.write_files {path : String} {bytes : List UInt8} :
    (environment.write path bytes).files path = some bytes :=
  if_pos rfl

theorem readBounded_congr {after : Environment} {path kind : String} {limit : Nat}
    (same : after.files path = environment.files path) :
    readBounded after path limit kind = readBounded environment path limit kind := by
  rw [readBounded, readBounded, same]

theorem Environment.write_files_of_ne {path out : String} {bytes : List UInt8}
    (differs : path ≠ out) : (environment.write out bytes).files path = environment.files path :=
  if_neg differs

theorem loadArtifact_congr {after : Environment} {path : String}
    (same : after.files path = environment.files path) :
    loadArtifact libraries after path = loadArtifact libraries environment path := by
  rw [loadArtifact, readBounded_congr same, loadArtifact]

theorem loadSchema_congr {after : Environment} {path : String}
    (same : after.files path = environment.files path) :
    loadSchema libraries after path = loadSchema libraries environment path := by
  rw [loadSchema, readBounded_congr same, loadSchema]

theorem loadSchemaHistory_congr {after : Environment} {path : String}
    (same : after.files path = environment.files path) :
    loadSchemaHistory libraries after path = loadSchemaHistory libraries environment path := by
  rw [loadSchemaHistory, readBounded_congr same, loadSchemaHistory]

/-- The evidence depends on the files at the input paths only. -/
theorem Loads.congr {after : Environment} {inputs : PlanInputPaths} {evidence : Evidence}
    (loads : Loads libraries environment inputs evidence)
    (same : ∀ path ∈ inputs.paths, after.files path = environment.files path) :
    Loads libraries after inputs evidence := by
  simp only [PlanInputPaths.paths, List.mem_append, List.mem_cons, List.not_mem_nil, or_false,
    Option.mem_toList, or_imp, forall_and, forall_eq] at same
  obtain ⟨⟨source, target, before, later, history⟩, policy⟩ := same
  refine ⟨?_, ?_, ?_, ?_, ?_, ?_⟩
  · exact (loadArtifact_congr source).trans loads.source
  · exact (loadArtifact_congr target).trans loads.target
  · exact (loadSchema_congr before).trans loads.sourceSchema
  · exact (loadSchema_congr later).trans loads.targetSchema
  · rw [← loads.policy]
    cases given : inputs.policy with
    | none => rfl
    | some path => rw [loadPolicy, readBounded_congr (policy path given), loadPolicy]
  · exact (loadSchemaHistory_congr history).trans loads.history

/-- Writing another file leaves the evidence in place. -/
theorem Loads.write {inputs : PlanInputPaths} {evidence : Evidence}
    (loads : Loads libraries environment inputs evidence) {out : String}
    (apart : out ∉ inputs.paths) (bytes : List UInt8) :
    Loads libraries (environment.write out bytes) inputs evidence := by
  apply loads.congr
  intro path listed
  have differs : path ≠ out := fun same => apart (same ▸ listed)
  exact Environment.write_files_of_ne differs

/-! ### Verification -/

/-- The plan embeds the evidence. -/
structure UpgradePlan.Embeds (plan : UpgradePlan) (evidence : Evidence) : Prop where
  source : plan.validation.source = evidence.source
  target : plan.validation.target = evidence.target
  sourceSchema : plan.validation.sourceSchema = some evidence.sourceSchema
  targetSchema : plan.validation.targetSchema = some evidence.targetSchema
  policy : plan.validation.policy = evidence.policy
  history : plan.validation.schemaHistory = some evidence.history
  sourceHash : plan.sourceWasmSha256 = evidence.source.sha256
  targetHash : plan.targetWasmSha256 = evidence.target.sha256

theorem makeSureArtifactMatches_iff {label path expectedHash : String}
    {expectedArtifact : Artifact} :
    makeSureArtifactMatches libraries environment label path expectedHash expectedArtifact = .ok () ↔
      loadArtifact libraries environment path = .ok expectedArtifact ∧
        expectedHash = expectedArtifact.sha256 := by
  rw [makeSureArtifactMatches, bind_eq_ok_iff]
  simp only [seq_eq_ok_iff, bailWhen_eq_ok_iff, not_not]
  constructor
  · rintro ⟨_, loaded, rfl, rfl⟩
    exact ⟨loaded, rfl⟩
  · rintro ⟨loaded, rfl⟩
    exact ⟨_, loaded, rfl, rfl⟩

/-- The local checks compare the plan with the files at its input paths. -/
theorem makeSurePlanMatches_iff {plan : UpgradePlan} :
    (makeSurePlanArtifactsMatch libraries environment plan = .ok () ∧
      makeSurePlanDeclarationsMatch libraries environment plan = .ok ()) ↔
    ∃ evidence, Loads libraries environment plan.inputs evidence ∧ plan.Embeds evidence := by
  rw [makeSurePlanArtifactsMatch, makeSurePlanDeclarationsMatch]
  simp only [↓seq_eq_ok_iff, makeSureArtifactMatches_iff, bind_eq_ok_iff, bailWhen_eq_ok_iff,
    not_not]
  constructor
  · rintro ⟨⟨⟨source, sourceHash⟩, target, targetHash⟩, before, readBefore, after, readAfter,
      history, readHistory, policy, readPolicy, sameBefore, sameAfter, sameHistory, samePolicy⟩
    exact ⟨⟨plan.validation.source, plan.validation.target, before, after, policy, history⟩,
      ⟨source, target, readBefore, readAfter, readPolicy, readHistory⟩,
      ⟨rfl, rfl, sameBefore, sameAfter, samePolicy, sameHistory, sourceHash, targetHash⟩⟩
  · rintro ⟨evidence, loads, embeds⟩
    rw [embeds.source, embeds.target]
    exact ⟨⟨⟨loads.source, embeds.sourceHash⟩, loads.target, embeds.targetHash⟩,
      _, loads.sourceSchema, _, loads.targetSchema, _, loads.history, _, loads.policy,
      embeds.sourceSchema, embeds.targetSchema, embeds.history, embeds.policy⟩

/-- An offline verification checks the digest and the local files. -/
theorem verifyLoadedPlan_offline_iff {plan : UpgradePlan} :
    (∃ lines, verifyLoadedPlan libraries environment plan true = .ok lines) ↔
      verifyPlanDigest libraries.primitives plan = .ok true ∧
        ∃ evidence, Loads libraries environment plan.inputs evidence ∧ plan.Embeds evidence := by
  rw [← makeSurePlanMatches_iff]
  simp only [verifyLoadedPlan, bind_eq_ok_iff, ↓seq_eq_ok_iff, liftCore_eq_ok_iff,
    bailWhen_eq_ok_iff, Bool.not_eq_false, if_true, Except.ok.injEq]
  constructor
  · rintro ⟨_, genuine, verified, rfl, artifacts, declarations, _⟩
    exact ⟨verified, artifacts, declarations⟩
  · rintro ⟨verified, artifacts, declarations⟩
    exact ⟨_, true, verified, rfl, artifacts, declarations, rfl⟩

/-- A live verification also checks the network. -/
theorem verifyLoadedPlan_live_iff {plan : UpgradePlan} :
    (∃ lines, verifyLoadedPlan libraries environment plan false = .ok lines) ↔
      verifyPlanDigest libraries.primitives plan = .ok true ∧
        (∃ evidence, Loads libraries environment plan.inputs evidence ∧ plan.Embeds evidence) ∧
        makeSurePlanIsLive libraries environment plan = .ok () := by
  rw [← makeSurePlanMatches_iff]
  simp only [verifyLoadedPlan, bind_eq_ok_iff, ↓seq_eq_ok_iff, liftCore_eq_ok_iff,
    bailWhen_eq_ok_iff, Bool.not_eq_false, Bool.false_eq_true, if_false, Except.ok.injEq]
  constructor
  · rintro ⟨_, genuine, verified, rfl, artifacts, declarations, live, _⟩
    exact ⟨verified, ⟨artifacts, declarations⟩, live⟩
  · rintro ⟨verified, ⟨artifacts, declarations⟩, live⟩
    exact ⟨_, true, verified, rfl, artifacts, declarations, live, rfl⟩

/-! ### Planning -/

/-- A created plan passes the offline checks on the evidence it was created from. -/
theorem verifyLoadedPlan_offline_of_created {inputs : PlanInputPaths} {evidence : Evidence}
    {context : ValidationContext} {network contractId sourceIdentity : String}
    {operations : PlanOperations} {plan : UpgradePlan}
    (loads : Loads libraries environment inputs evidence)
    (created : createPlanWithPaths libraries.primitives
      (evidence.report libraries.primitives context) network contractId sourceIdentity inputs
      operations = .ok plan) :
    ∃ lines, verifyLoadedPlan libraries environment plan true = .ok lines := by
  have verified := verifyPlanDigest_of_created created
  obtain ⟨_, _, digest, _, rfl⟩ := createPlanWithPaths_eq_ok_iff.1 created
  exact verifyLoadedPlan_offline_iff.2
    ⟨verified, evidence, loads, ⟨rfl, rfl, rfl, rfl, rfl, rfl, rfl, rfl⟩⟩

/-- The report of a plan is the validation of the evidence in its input files. -/
theorem loadPlanReport_eq_ok_iff {arguments : PlanArguments} {report : ValidationReport} :
    loadPlanReport libraries environment arguments = .ok report ↔
      ∃ context evidence,
        resolveValidationContext libraries environment (some arguments.network)
          arguments.protocolVersion = .ok context ∧
        Loads libraries environment arguments.inputs evidence ∧
        evidence.report libraries.primitives context = report := by
  rw [loadPlanReport, bind_eq_ok_iff]
  constructor
  · intro finished
    obtain ⟨context, resolved, loaded⟩ := finished
    obtain ⟨evidence, loads, same⟩ := (loadReport_eq_ok_iff arguments.inputs context).1 loaded
    exact ⟨context, evidence, resolved, loads, same⟩
  · intro finished
    obtain ⟨context, evidence, resolved, loads, same⟩ := finished
    exact ⟨context, resolved,
      (loadReport_eq_ok_iff arguments.inputs context).2 ⟨evidence, loads, same⟩⟩

theorem planSafeReport_eq_ok_iff {arguments : PlanArguments} {report : ValidationReport}
    {plan : UpgradePlan} :
    planSafeReport libraries environment arguments report = .ok plan ↔
      makeSureDeployedMatches libraries environment arguments report = .ok () ∧
      ∃ migration, arguments.migrationCall = .ok migration ∧
        createPlanWithPaths libraries.primitives report arguments.network arguments.contractId
          arguments.sourceIdentity arguments.inputs
          { migration := migration
            invariantCheck := {
              program := arguments.invariantProgram
              arguments := arguments.invariantArgs } } = .ok plan := by
  rw [planSafeReport, seq_eq_ok_iff, bind_eq_ok_iff]
  simp only [liftCore_eq_ok_iff]

/-- Only a safe report leads to a plan. -/
theorem safe_of_planSafeReport {arguments : PlanArguments} {report : ValidationReport}
    {plan : UpgradePlan}
    (planned : planSafeReport libraries environment arguments report = .ok plan) :
    report.safe = true := by
  obtain ⟨_, _, _, created⟩ := planSafeReport_eq_ok_iff.1 planned
  exact (createPlanWithPaths_eq_ok_iff.1 created).1.safe_report

/-- A `plan` that does not fail ends with the report of an unsafe upgrade, or emits
its plan. -/
theorem planCommand_eq_ok_iff {arguments : PlanArguments} {result : CommandResult} :
    planCommand libraries environment arguments = .ok result ↔
      ∃ report, loadPlanReport libraries environment arguments = .ok report ∧
        ((report.safe = false ∧
            { exitCode := 2, environment := environment, output := printReport report } = result) ∨
          ∃ plan, planSafeReport libraries environment arguments report = .ok plan ∧
            emitPlan environment arguments plan = .ok result) := by
  rw [planCommand, bind_eq_ok_iff]
  simp only [unchanged_eq_ok_iff]
  refine exists_congr fun report => and_congr_right fun _ => ?_
  by_cases blocked : report.safe = false
  · rw [if_pos blocked, Except.ok.injEq]
    constructor
    · intro same
      exact Or.inl ⟨blocked, same⟩
    · intro finished
      obtain ⟨_, same⟩ | ⟨plan, planned, _⟩ := finished
      · exact same
      · cases blocked.symm.trans (safe_of_planSafeReport planned)
  · rw [if_neg blocked, bind_eq_ok_iff, or_iff_right fun finished => blocked finished.1]
    simp only [unchanged_eq_ok_iff]

/-- A `plan` that fails has written nothing, or fails while it emits its plan. -/
theorem planCommand_eq_error {arguments : PlanArguments} {failure : CommandFailure}
    (failed : planCommand libraries environment arguments = .error failure) :
    failure.environment = environment ∨
      ∃ report plan, loadPlanReport libraries environment arguments = .ok report ∧
        planSafeReport libraries environment arguments report = .ok plan ∧
        emitPlan environment arguments plan = .error failure := by
  rw [planCommand] at failed
  rcases bind_eq_error_iff.1 failed with unread | ⟨report, loaded, failed⟩
  · exact Or.inl (unchanged_eq_error unread)
  rw [unchanged_eq_ok_iff] at loaded
  split at failed
  case isTrue => cases failed
  case isFalse =>
    rcases bind_eq_error_iff.1 failed with unplanned | ⟨plan, planned, failed⟩
    · exact Or.inl (unchanged_eq_error unplanned)
    · exact Or.inr ⟨report, plan, loaded, unchanged_eq_ok_iff.1 planned, failed⟩

/-! ### Writing a plan -/

/-- A written file was new or may be replaced. -/
theorem writeOutput_eq_ok {path : String} {bytes : List UInt8} {force : Bool}
    {after : Environment} (stored : writeOutput environment path bytes force = .ok after) :
    (force = true ∨ environment.files path = none) ∧ after = environment.write path bytes := by
  unfold writeOutput at stored
  split at stored
  case isTrue permitted =>
    simp only [Bool.and_eq_true, Bool.or_eq_true, Option.isNone_iff_eq_none] at permitted
    split at stored
    case h_1 =>
      cases stored
      exact ⟨permitted.2, rfl⟩
    case h_2 => cases stored
    case h_3 => cases stored
  case isFalse => split at stored <;> cases stored

/-- A failed writing leaves the file alone, or a first part of the text in it. -/
theorem writeOutput_eq_error {path : String} {bytes : List UInt8} {force : Bool}
    {failure : CommandFailure}
    (failed : writeOutput environment path bytes force = .error failure) :
    failure.environment = environment ∨
      ((force = true ∨ environment.files path = none) ∧
        ∃ kept, failure.environment = environment.write path (bytes.take kept)) := by
  unfold writeOutput at failed
  split at failed
  case isTrue permitted =>
    simp only [Bool.and_eq_true, Bool.or_eq_true, Option.isNone_iff_eq_none] at permitted
    split at failed
    case h_1 => cases failed
    case h_2 kept _ =>
      cases failed
      exact Or.inr ⟨permitted.2, kept, rfl⟩
    case h_3 kept _ =>
      cases failed
      exact Or.inr ⟨permitted.2, kept, rfl⟩
  case isFalse =>
    split at failed
    case isTrue =>
      cases failed
      exact Or.inl rfl
    case isFalse =>
      cases failed
      exact Or.inl rfl

/-- Emitting a plan prints it or writes it to the output file. -/
theorem emitPlan_eq_ok {arguments : PlanArguments} {plan : UpgradePlan} {result : CommandResult}
    (emitted : emitPlan environment arguments plan = .ok result) :
    result.exitCode = 0 ∧
      ((arguments.out = none ∧ result.environment = environment) ∨
        ∃ out, arguments.out = some out ∧
          (arguments.force = true ∨ environment.files out = none) ∧
          result.environment = environment.write out (printedBytes (encode plan))) := by
  unfold emitPlan at emitted
  split at emitted
  case h_1 out chosen =>
    obtain ⟨written, stored, done⟩ := bind_eq_ok_iff.1 emitted
    cases done
    obtain ⟨permitted, same⟩ := writeOutput_eq_ok stored
    exact ⟨rfl, Or.inr ⟨out, chosen, permitted, same⟩⟩
  case h_2 absent =>
    cases emitted
    exact ⟨rfl, Or.inl ⟨absent, rfl⟩⟩

/-- Only the writing of the output file can fail. -/
theorem emitPlan_eq_error {arguments : PlanArguments} {plan : UpgradePlan}
    {failure : CommandFailure}
    (failed : emitPlan environment arguments plan = .error failure) :
    failure.environment = environment ∨
      ∃ out, arguments.out = some out ∧
        (arguments.force = true ∨ environment.files out = none) ∧
        ∃ kept, failure.environment =
          environment.write out ((printedBytes (encode plan)).take kept) := by
  unfold emitPlan at failed
  split at failed
  case h_1 out chosen =>
    rcases bind_eq_error_iff.1 failed with unwritten | ⟨_, _, failed⟩
    · rcases writeOutput_eq_error unwritten with kept | ⟨permitted, kept, same⟩
      · exact Or.inl kept
      · exact Or.inr ⟨out, chosen, permitted, kept, same⟩
    · cases failed
  case h_2 => cases failed

/-- The `plan` command succeeds when it resolves a context, loads its evidence,
creates a plan and emits it. -/
theorem planCommand_succeeds_iff {arguments : PlanArguments} {result : CommandResult} :
    (planCommand libraries environment arguments = .ok result ∧ result.exitCode = 0) ↔
    ∃ context evidence migration plan,
      resolveValidationContext libraries environment (some arguments.network)
        arguments.protocolVersion = .ok context ∧
      Loads libraries environment arguments.inputs evidence ∧
      makeSureDeployedMatches libraries environment arguments
        (evidence.report libraries.primitives context) = .ok () ∧
      arguments.migrationCall = .ok migration ∧
      createPlanWithPaths libraries.primitives (evidence.report libraries.primitives context)
        arguments.network arguments.contractId arguments.sourceIdentity arguments.inputs
        { migration := migration
          invariantCheck := {
            program := arguments.invariantProgram
            arguments := arguments.invariantArgs } } = .ok plan ∧
      emitPlan environment arguments plan = .ok result := by
  constructor
  · intro finished
    obtain ⟨ran, succeeded⟩ := finished
    obtain ⟨_, loaded, ⟨_, rfl⟩ | ⟨plan, planned, emitted⟩⟩ := planCommand_eq_ok_iff.1 ran
    · cases succeeded
    · obtain ⟨context, evidence, resolved, loads, rfl⟩ := loadPlanReport_eq_ok_iff.1 loaded
      obtain ⟨deployed, migration, given, created⟩ := planSafeReport_eq_ok_iff.1 planned
      exact ⟨context, evidence, migration, plan, resolved, loads, deployed, given, created,
        emitted⟩
  · intro steps
    obtain ⟨context, evidence, migration, plan, resolved, loads, deployed, given, created,
      emitted⟩ := steps
    have loaded := loadPlanReport_eq_ok_iff.2 ⟨context, evidence, resolved, loads, rfl⟩
    have planned := planSafeReport_eq_ok_iff.2 ⟨deployed, migration, given, created⟩
    exact ⟨planCommand_eq_ok_iff.2 ⟨_, loaded, Or.inr ⟨plan, planned, emitted⟩⟩,
      (emitPlan_eq_ok emitted).1⟩

end SorobanUpgrades
