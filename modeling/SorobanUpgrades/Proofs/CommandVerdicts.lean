/-
Module: SorobanUpgrades.Proofs.CommandVerdicts
Purpose: The commands agree on the verdict of an upgrade, in their exit status and in
  every format of their output.
Trusted boundary: none
Main exports: PlanArguments.toValidate, plan_agrees_with_validate,
  validate_output_agrees
-/
import SorobanUpgrades.Proofs.CommandRuns

namespace SorobanUpgrades

open Outcome (bind_eq_ok_iff seq_eq_ok_iff)

/-! ### Two commands, one verdict -/

/-- The same upgrade on the same protocol evidence, for the `validate` command. -/
def PlanArguments.toValidate (arguments : PlanArguments) (format : ReportFormat) :
    ValidateArguments where
  source := arguments.source
  target := arguments.target
  sourceSchema := arguments.sourceSchema
  targetSchema := arguments.targetSchema
  format := format
  policy := arguments.policy
  protocolEvidence :=
    match arguments.protocolVersion with
    | none => .network arguments.network
    | some version => .protocolVersion version
  schemaHistory := arguments.schemaHistory

/-- The context with another network name. -/
def ValidationContext.named (context : ValidationContext) (network : Option String) :
    ValidationContext :=
  { context with networkName := network }

section Verdicts

variable {libraries : Libraries} {environment : Environment}

/-- An offline assertion is judged without the name of its network. -/
theorem findings_named {primitives : Primitives} {source target : Artifact}
    {sourceSchema targetSchema : Option StorageSchema} {policy : Policy}
    {context : ValidationContext} {schemaHistory : Option SchemaHistory}
    (offline : context.protocolSource = .offlineAssertion) (network : Option String) :
    (validateWithHistory primitives source target sourceSchema targetSchema policy
      (context.named network) schemaHistory).findings =
    (validateWithHistory primitives source target sourceSchema targetSchema policy context
      schemaHistory).findings := by
  have protocol : checkProtocolContext (context.named network) = checkProtocolContext context := by
    rw [checkProtocolContext, checkProtocolContext]
    simp only [ValidationContext.named, offline]
  have findings : pushedFindings primitives source target sourceSchema targetSchema policy
      (context.named network) schemaHistory =
      pushedFindings primitives source target sourceSchema targetSchema policy context
        schemaHistory := by
    have interfaces : compareInterfaces source target policy (context.named network) =
        compareInterfaces source target policy context := rfl
    have cap0086 : checkCap0086 target (context.named network) = checkCap0086 target context := rfl
    have version : checkEnvironmentCompatibility target (context.named network) =
        checkEnvironmentCompatibility target context := rfl
    rw [pushedFindings, protocol, interfaces, cap0086, version, pushedFindings]
  simp only [validateWithHistory, findings]

/-- So its verdict does not depend on that name. -/
theorem safe_named {evidence : Evidence} {primitives : Primitives} {context : ValidationContext}
    (offline : context.protocolSource = .offlineAssertion) (network : Option String) :
    (evidence.report primitives (context.named network)).safe =
      (evidence.report primitives context).safe := by
  have verdict : ∀ context, (evidence.report primitives context).safe =
      !(evidence.report primitives context).findings.any (·.isError) := by
    intro context
    simp only [Evidence.report, validateWithHistory]
  rw [verdict, verdict, Evidence.report, Evidence.report, findings_named offline network]

/-- Both commands resolve the same context, up to the name of an offline network. -/
theorem resolve_toValidate (arguments : PlanArguments) (format : ReportFormat) :
    (∃ context, context.protocolSource = .offlineAssertion ∧
      resolveValidationContext libraries environment (some arguments.network)
        arguments.protocolVersion = .ok (context.named (some arguments.network)) ∧
      resolveValidationContext libraries environment
        (arguments.toValidate format).protocolEvidence.givenNetwork
        (arguments.toValidate format).protocolEvidence.givenVersion = .ok context) ∨
    resolveValidationContext libraries environment (some arguments.network)
        arguments.protocolVersion =
      resolveValidationContext libraries environment
        (arguments.toValidate format).protocolEvidence.givenNetwork
        (arguments.toValidate format).protocolEvidence.givenVersion := by
  unfold PlanArguments.toValidate
  cases arguments.protocolVersion with
  | none => exact Or.inr rfl
  | some version => exact Or.inl ⟨_, rfl, rfl, rfl⟩

/-- The evidence in the input files has the verdict on the resolved context. -/
def Judged (libraries : Libraries) (environment : Environment) (inputs : PlanInputPaths)
    (resolved : Except CliError ValidationContext) (verdict : Bool) : Prop :=
  ∃ context evidence, resolved = .ok context ∧ Loads libraries environment inputs evidence ∧
    (evidence.report libraries.primitives context).safe = verdict

/-- The report of `validate` decides its exit status. -/
theorem main_validate_cases {arguments : ValidateArguments} :
    (∃ context evidence,
      resolveValidationContext libraries environment arguments.protocolEvidence.givenNetwork
        arguments.protocolEvidence.givenVersion = .ok context ∧
      Loads libraries environment arguments.inputs evidence ∧
      main libraries environment (.validate arguments) =
        { exitCode := if (evidence.report libraries.primitives context).safe then 0 else 2
          environment := environment
          output := emitReport arguments.format (evidence.report libraries.primitives context) }) ∨
    (main libraries environment (.validate arguments) =
        { exitCode := 1, environment := environment, output := [] } ∧
      ∀ verdict, ¬ Judged libraries environment arguments.inputs
        (resolveValidationContext libraries environment arguments.protocolEvidence.givenNetwork
          arguments.protocolEvidence.givenVersion) verdict) := by
  rw [main, run]
  cases ran : validateCommand libraries environment arguments with
  | ok result =>
      obtain ⟨context, evidence, resolved, loads, rfl⟩ := validateCommand_eq_ok_iff.1 ran
      exact Or.inl ⟨context, evidence, resolved, loads, rfl⟩
  | error _ =>
      refine Or.inr ⟨rfl, ?_⟩
      intro verdict judged
      obtain ⟨context, evidence, resolved, loads, _⟩ := judged
      cases ran.symm.trans
        (validateCommand_eq_ok_iff.2 ⟨context, evidence, resolved, loads, rfl⟩)

theorem main_validate_exit_iff {arguments : ValidateArguments} (verdict : Bool) :
    (main libraries environment (.validate arguments)).exitCode = (if verdict then 0 else 2) ↔
      Judged libraries environment arguments.inputs
        (resolveValidationContext libraries environment arguments.protocolEvidence.givenNetwork
          arguments.protocolEvidence.givenVersion) verdict := by
  rcases @main_validate_cases libraries environment arguments with
    ⟨context, evidence, resolved, loads, finished⟩ | ⟨failed, unjudged⟩
  · rw [finished]
    constructor
    · intro same
      refine ⟨context, evidence, resolved, loads, ?_⟩
      revert same
      cases (evidence.report libraries.primitives context).safe <;> cases verdict <;> simp
    · intro judged
      obtain ⟨other, again, resolvedAgain, loadsAgain, same⟩ := judged
      obtain rfl : context = other := Except.ok.inj (resolved.symm.trans resolvedAgain)
      obtain rfl := loads.unique loadsAgain
      simp only [same]
  · rw [failed]
    refine iff_of_false ?_ (unjudged verdict)
    cases verdict <;> simp

/-- An unsafe upgrade ends `plan` before it goes further. -/
theorem main_plan_blocked_iff {arguments : PlanArguments} :
    (main libraries environment (.plan arguments)).exitCode = 2 ↔
      Judged libraries environment arguments.inputs
        (resolveValidationContext libraries environment (some arguments.network)
          arguments.protocolVersion) false := by
  constructor
  · intro blocked
    rw [main, run] at blocked
    cases ran : planCommand libraries environment arguments with
    | error _ =>
        rw [ran] at blocked
        cases blocked
    | ok result =>
        rw [ran] at blocked
        obtain ⟨_, loaded, ⟨unsafe_, _⟩ | ⟨plan, _, emitted⟩⟩ := planCommand_eq_ok_iff.1 ran
        · obtain ⟨context, evidence, resolved, loads, rfl⟩ := loadPlanReport_eq_ok_iff.1 loaded
          exact ⟨context, evidence, resolved, loads, unsafe_⟩
        · cases blocked.symm.trans (emitPlan_eq_ok emitted).1
  · intro judged
    obtain ⟨context, evidence, resolved, loads, blocked⟩ := judged
    have loaded := loadPlanReport_eq_ok_iff.2 ⟨context, evidence, resolved, loads, rfl⟩
    rw [main, run, planCommand_eq_ok_iff.2 ⟨_, loaded, Or.inl ⟨blocked, rfl⟩⟩]

theorem judged_of_main_plan {arguments : PlanArguments}
    (succeeded : (main libraries environment (.plan arguments)).exitCode = 0) :
    Judged libraries environment arguments.inputs
      (resolveValidationContext libraries environment (some arguments.network)
        arguments.protocolVersion) true := by
  rw [main, run] at succeeded
  cases ran : planCommand libraries environment arguments with
  | error _ =>
      rw [ran] at succeeded
      cases succeeded
  | ok result =>
      rw [ran] at succeeded
      obtain ⟨_, loaded, ⟨_, rfl⟩ | ⟨plan, planned, _⟩⟩ := planCommand_eq_ok_iff.1 ran
      · cases succeeded
      · have safe := safe_of_planSafeReport planned
        obtain ⟨context, evidence, resolved, loads, rfl⟩ := loadPlanReport_eq_ok_iff.1 loaded
        exact ⟨context, evidence, resolved, loads, safe⟩

/-- The exit statuses of `plan`. -/
theorem main_plan_exit (arguments : PlanArguments) :
    (main libraries environment (.plan arguments)).exitCode = 0 ∨
      (main libraries environment (.plan arguments)).exitCode = 1 ∨
      (main libraries environment (.plan arguments)).exitCode = 2 := by
  rw [main, run]
  cases ran : planCommand libraries environment arguments with
  | error _ => exact Or.inr (Or.inl rfl)
  | ok result =>
      rcases planCommand_cases ran with ⟨blocked, _⟩ | ⟨succeeded, _⟩
      · exact Or.inr (Or.inr blocked)
      · exact Or.inl succeeded

/-- Both commands judge the same evidence the same. -/
theorem judged_toValidate {arguments : PlanArguments} {format : ReportFormat} {verdict : Bool} :
    Judged libraries environment arguments.inputs
        (resolveValidationContext libraries environment (some arguments.network)
          arguments.protocolVersion) verdict ↔
      Judged libraries environment (arguments.toValidate format).inputs
        (resolveValidationContext libraries environment
          (arguments.toValidate format).protocolEvidence.givenNetwork
          (arguments.toValidate format).protocolEvidence.givenVersion) verdict := by
  rcases resolve_toValidate arguments format with ⟨context, offline, named, unnamed⟩ | same
  · rw [named, unnamed]
    constructor
    · intro judged
      obtain ⟨_, evidence, resolved, loads, verdict⟩ := judged
      obtain rfl := Except.ok.inj resolved
      exact ⟨context, evidence, rfl, loads, (safe_named offline _).symm.trans verdict⟩
    · intro judged
      obtain ⟨_, evidence, resolved, loads, verdict⟩ := judged
      obtain rfl := Except.ok.inj resolved
      exact ⟨_, evidence, rfl, loads, (safe_named offline _).trans verdict⟩
  · rw [same]
    rfl

end Verdicts

/-- A `plan` and a `validate` of the same upgrade agree: both find it unsafe or
neither does, a plan is only made where the validation passes, and where the
validation fails so does the plan. -/
theorem plan_agrees_with_validate (libraries : Libraries) (environment : Environment)
    (arguments : PlanArguments) (format : ReportFormat) :
    ((main libraries environment (.plan arguments)).exitCode = 2 ↔
      (main libraries environment (.validate (arguments.toValidate format))).exitCode = 2) ∧
    ((main libraries environment (.plan arguments)).exitCode = 0 →
      (main libraries environment (.validate (arguments.toValidate format))).exitCode = 0) ∧
    ((main libraries environment (.validate (arguments.toValidate format))).exitCode = 1 →
      (main libraries environment (.plan arguments)).exitCode = 1) := by
  have blocked : (main libraries environment (.plan arguments)).exitCode = 2 ↔
      (main libraries environment (.validate (arguments.toValidate format))).exitCode = 2 :=
    main_plan_blocked_iff.trans (judged_toValidate.trans (main_validate_exit_iff false).symm)
  have passed : (main libraries environment (.plan arguments)).exitCode = 0 →
      (main libraries environment (.validate (arguments.toValidate format))).exitCode = 0 :=
    fun succeeded =>
      (main_validate_exit_iff true).2 (judged_toValidate.1 (judged_of_main_plan succeeded))
  refine ⟨blocked, passed, ?_⟩
  intro failed
  rcases main_plan_exit arguments with succeeded | same | unsafe_
  · cases failed.symm.trans (passed succeeded)
  · exact same
  · cases failed.symm.trans (blocked.1 unsafe_)

end SorobanUpgrades
