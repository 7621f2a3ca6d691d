/-
Module: SorobanUpgrades.Proofs.CommandRuns
Purpose: What the commands leave behind over any run of the tool: a file changes
  only to a plan that verifies, or to a first part of one when the writing fails, and
  never without permission.
Trusted boundary: none
Main exports: validateCommand_eq_ok_iff, main_cases, Event, Environment.runs,
  files_after_runs, writtenPlan_stays_verified
-/
import SorobanUpgrades.Core.Run
import SorobanUpgrades.Proofs.PlanRoundTrip
import SorobanUpgrades.Proofs.SecretScan

namespace SorobanUpgrades

open Outcome (bind_eq_ok_iff bind_eq_error_iff)

/-! ### The success of a command -/

/-- The files that a validation reads. -/
def ValidateArguments.inputs (arguments : ValidateArguments) : PlanInputPaths where
  sourceWasm := arguments.source
  targetWasm := arguments.target
  sourceSchema := arguments.sourceSchema
  targetSchema := arguments.targetSchema
  schemaHistory := arguments.schemaHistory
  policy := arguments.policy

section Commands

variable {libraries : Libraries} {environment : Environment} {result : CommandResult}

/-- A validation ends with the verdict of the report on the evidence in its files. -/
theorem validateCommand_eq_ok_iff {arguments : ValidateArguments} :
    validateCommand libraries environment arguments = .ok result ↔
      ∃ context evidence,
        resolveValidationContext libraries environment arguments.protocolEvidence.givenNetwork
          arguments.protocolEvidence.givenVersion = .ok context ∧
        Loads libraries environment arguments.inputs evidence ∧
        { exitCode := if (evidence.report libraries.primitives context).safe then 0 else 2
          environment := environment
          output := emitReport arguments.format (evidence.report libraries.primitives context) } =
            result := by
  rw [validateCommand, bind_eq_ok_iff]
  constructor
  · intro finished
    obtain ⟨context, resolved, finished⟩ := finished
    obtain ⟨report, loaded, finished⟩ := bind_eq_ok_iff.1 finished
    obtain ⟨evidence, loads, rfl⟩ := (loadReport_eq_ok_iff arguments.inputs context).1 loaded
    exact ⟨context, evidence, resolved, loads, Except.ok.inj finished⟩
  · intro finished
    obtain ⟨context, evidence, resolved, loads, rfl⟩ := finished
    have loaded := (loadReport_eq_ok_iff arguments.inputs context).2 ⟨evidence, loads, rfl⟩
    exact ⟨context, resolved, bind_eq_ok_iff.2 ⟨_, loaded, rfl⟩⟩

/-- A validation that does not fail ends with its result. -/
theorem run_validate_eq_ok_iff {arguments : ValidateArguments} :
    run libraries environment (.validate arguments) = .ok result ↔
      validateCommand libraries environment arguments = .ok result :=
  unchanged_eq_ok_iff

/-! ### What a command does to the files -/

/-- The arguments lead to the plan on the evidence in their files. -/
def PlanArguments.Creates (arguments : PlanArguments) (libraries : Libraries)
    (environment : Environment) (plan : UpgradePlan) : Prop :=
  ∃ context evidence operations, Loads libraries environment arguments.inputs evidence ∧
    createPlanWithPaths libraries.primitives (evidence.report libraries.primitives context)
      arguments.network arguments.contractId arguments.sourceIdentity arguments.inputs operations =
        .ok plan

/-- The arguments lead to the plan, and put the contents into their output file, which
was new or may be replaced. -/
structure PlanArguments.Writes (arguments : PlanArguments) (libraries : Libraries)
    (before after : Environment) (out : String) (plan : UpgradePlan) (contents : List UInt8) :
    Prop where
  chosen : arguments.out = some out
  permitted : arguments.force = true ∨ before.files out = none
  creates : arguments.Creates libraries before plan
  written : after = before.write out contents

theorem creates_of_planSafeReport {arguments : PlanArguments} {report : ValidationReport}
    {plan : UpgradePlan} (loaded : loadPlanReport libraries environment arguments = .ok report)
    (planned : planSafeReport libraries environment arguments report = .ok plan) :
    arguments.Creates libraries environment plan := by
  obtain ⟨context, evidence, _, loads, rfl⟩ := loadPlanReport_eq_ok_iff.1 loaded
  obtain ⟨_, _, _, created⟩ := planSafeReport_eq_ok_iff.1 planned
  exact ⟨context, evidence, _, loads, created⟩

/-- The exit status and the files of a `plan` that does not fail. -/
theorem planCommand_cases {arguments : PlanArguments}
    (ran : planCommand libraries environment arguments = .ok result) :
    (result.exitCode = 2 ∧ result.environment = environment) ∨
    (result.exitCode = 0 ∧
      ((arguments.out = none ∧ result.environment = environment) ∨
        ∃ out plan, arguments.Writes libraries environment result.environment out plan
          (printedBytes (encode plan)))) := by
  obtain ⟨report, loaded, ⟨_, rfl⟩ | ⟨plan, planned, emitted⟩⟩ := planCommand_eq_ok_iff.1 ran
  · exact Or.inl ⟨rfl, rfl⟩
  · have creates := creates_of_planSafeReport loaded planned
    obtain ⟨succeeded, kept | ⟨out, chosen, permitted, written⟩⟩ := emitPlan_eq_ok emitted
    · exact Or.inr ⟨succeeded, Or.inl kept⟩
    · exact Or.inr ⟨succeeded, Or.inr ⟨out, plan, chosen, permitted, creates, written⟩⟩

/-- The files of a `plan` that fails. -/
theorem planCommand_fails {arguments : PlanArguments} {failure : CommandFailure}
    (failed : planCommand libraries environment arguments = .error failure) :
    failure.environment = environment ∨
      ∃ out plan contents, arguments.Writes libraries environment failure.environment out plan
        contents ∧ contents <+: printedBytes (encode plan) := by
  rcases planCommand_eq_error failed with kept | ⟨report, plan, loaded, planned, failed⟩
  · exact Or.inl kept
  · have creates := creates_of_planSafeReport loaded planned
    rcases emitPlan_eq_error failed with kept | ⟨out, chosen, permitted, kept, written⟩
    · exact Or.inl kept
    · exact Or.inr ⟨out, plan, _, ⟨chosen, permitted, creates, written⟩, List.take_prefix _ _⟩

/-- A command leaves the files alone, or it is a `plan` that wrote its plan, or that
failed with a first part of it in the output file. -/
theorem main_cases (libraries : Libraries) (environment : Environment) (command : Command) :
    (main libraries environment command).environment = environment ∨
      ∃ arguments out plan contents, command = .plan arguments ∧
        arguments.Writes libraries environment (main libraries environment command).environment
          out plan contents ∧
        (contents = printedBytes (encode plan) ∨
          (contents <+: printedBytes (encode plan) ∧
            (main libraries environment command).exitCode = 1)) := by
  rw [main]
  cases ran : run libraries environment command with
  | error failure =>
      cases command with
      | inspect wasm json => exact Or.inl (unchanged_eq_error ran)
      | validate arguments => exact Or.inl (unchanged_eq_error ran)
      | verifyPlan path offline =>
          rcases bind_eq_error_iff.1 ran with refused | ⟨_, _, failed⟩
          · exact Or.inl (unchanged_eq_error refused)
          · cases failed
      | plan arguments =>
          rcases planCommand_fails ran with kept | ⟨out, plan, contents, writes, first⟩
          · exact Or.inl kept
          · exact Or.inr ⟨arguments, out, plan, contents, rfl, writes, Or.inr ⟨first, rfl⟩⟩
  | ok result =>
      cases command with
      | inspect wasm json =>
          obtain ⟨artifact, _, done⟩ := bind_eq_ok_iff.1 (unchanged_eq_ok_iff.1 ran)
          cases done
          exact Or.inl rfl
      | validate arguments =>
          obtain ⟨context, evidence, _, _, rfl⟩ :=
            validateCommand_eq_ok_iff.1 (run_validate_eq_ok_iff.1 ran)
          exact Or.inl rfl
      | verifyPlan path offline =>
          obtain ⟨lines, _, done⟩ := bind_eq_ok_iff.1 ran
          cases done
          exact Or.inl rfl
      | plan arguments =>
          rcases planCommand_cases ran with ⟨_, kept⟩ | ⟨_, ⟨_, kept⟩ | ⟨out, plan, writes⟩⟩
          · exact Or.inl kept
          · exact Or.inl kept
          · exact Or.inr ⟨arguments, out, plan, _, rfl, writes, Or.inl rfl⟩

/-- A `plan` that succeeds with an output file wrote its plan there. -/
theorem writes_of_succeeded {arguments : PlanArguments} {out : String}
    (succeeded : (main libraries environment (.plan arguments)).exitCode = 0)
    (chosen : arguments.out = some out) :
    ∃ plan, arguments.Writes libraries environment
      (main libraries environment (.plan arguments)).environment out plan
      (printedBytes (encode plan)) := by
  rw [main] at succeeded ⊢
  cases ran : run libraries environment (.plan arguments) with
  | error _ =>
      rw [ran] at succeeded
      cases succeeded
  | ok result =>
      rw [ran] at succeeded
      rcases planCommand_cases ran with ⟨blocked, _⟩ | ⟨_, ⟨absent, _⟩ | ⟨other, plan, writes⟩⟩
      · cases succeeded.symm.trans blocked
      · cases chosen.symm.trans absent
      · obtain rfl : out = other := Option.some.inj (chosen.symm.trans writes.chosen)
        exact ⟨plan, writes⟩

end Commands

/-! ### Runs of the tool -/

/-- What happens next: a command, or a change of the network, the clock, the disk or the
permissions around the files. -/
inductive Event where
  | command (command : Command)
  | world (around : Environment)

/-- The file that an event may replace: the output of `plan --force`. -/
def Event.replaces : Event → Option String
  | .command (.plan arguments) => if arguments.force then arguments.out else none
  | _ => none

/-- The world after one event. -/
def Environment.after (libraries : Libraries) (environment : Environment) : Event → Environment
  | .command command => (main libraries environment command).environment
  | .world around => { around with files := environment.files }

/-- The world after all the events. -/
def Environment.runs (libraries : Libraries) (environment : Environment) (events : List Event) :
    Environment :=
  events.foldl (Environment.after libraries) environment

/-- The event is a `plan` that fails, and the path is its output file. -/
def Event.FailsOn (libraries : Libraries) (environment : Environment) (path : String) :
    Event → Prop
  | .command (.plan arguments) =>
      arguments.out = some path ∧ (main libraries environment (.plan arguments)).exitCode = 1
  | _ => False

/-- Some event of the run is a `plan` that fails on the path. -/
def Environment.FailedOn (libraries : Libraries) (environment : Environment)
    (events : List Event) (path : String) : Prop :=
  ∃ earlier event later, events = earlier ++ event :: later ∧
    event.FailsOn libraries (environment.runs libraries earlier) path

@[simp] theorem Environment.runs_cons (libraries : Libraries) (environment : Environment)
    (event : Event) (events : List Event) :
    environment.runs libraries (event :: events) =
      (environment.after libraries event).runs libraries events := rfl

@[simp] theorem Environment.after_command (libraries : Libraries) (environment : Environment)
    (command : Command) :
    environment.after libraries (.command command) =
      (main libraries environment command).environment := rfl

/-- The contents are the printed form of a plan that verifies and is judged safe, and
no 56 bytes of them spell a private key. -/
structure HoldsPlan (primitives : Primitives) (contents : List UInt8) (plan : UpgradePlan) :
    Prop where
  printed : contents = printedBytes (encode plan)
  verified : verifyPlanDigest primitives plan = .ok true
  safe : plan.validation.safe = true
  clean : containsStellarPrivateKey primitives ((encode plan).pretty ++ ['\n']) = false

section Runs

variable {libraries : Libraries} {environment : Environment}

theorem Environment.FailedOn.head {event : Event} {path : String}
    (fails : event.FailsOn libraries environment path) (events : List Event) :
    environment.FailedOn libraries (event :: events) path :=
  ⟨[], event, events, rfl, fails⟩

theorem Environment.FailedOn.tail {event : Event} {events : List Event} {path : String}
    (failed : (environment.after libraries event).FailedOn libraries events path) :
    environment.FailedOn libraries (event :: events) path := by
  obtain ⟨earlier, other, later, rfl, fails⟩ := failed
  exact ⟨event :: earlier, other, later, rfl, fails⟩

/-- The printed form of a created plan contains no seed. -/
theorem holdsPlan_of_creates (lawful : libraries.primitives.Lawful) {arguments : PlanArguments}
    {plan : UpgradePlan} (creates : arguments.Creates libraries environment plan) :
    HoldsPlan libraries.primitives (printedBytes (encode plan)) plan := by
  obtain ⟨context, evidence, operations, _, created⟩ := creates
  have verified := verifyPlanDigest_of_created created
  obtain ⟨accepted, scanned, digest, calculated, rfl⟩ := createPlanWithPaths_eq_ok_iff.1 created
  refine ⟨rfl, verified, accepted.safe_report, ?_⟩
  obtain ⟨bytes, _, hashed⟩ := bind_eq_ok_iff.1 calculated
  rw [← Bool.not_eq_true, containsStellarPrivateKey_compact_iff lawful] at scanned
  rw [← Bool.not_eq_true, containsStellarPrivateKey_pretty_iff lawful]
  intro found
  obtain ⟨text, listed, seed⟩ := found
  rcases mem_strings_setDigest listed with rfl | assembled
  · rw [← Except.ok.inj hashed] at seed
    exact not_containsSeed_hexEncode lawful _ seed
  · exact scanned ⟨text, assembled, seed⟩

/-- One event changes a file only to a plan or a first part of one, and an existing file
only by force. -/
theorem files_after (lawful : libraries.primitives.Lawful) (event : Event) (path : String) :
    (environment.after libraries event).files path = environment.files path ∨
      ((environment.files path = none ∨ event.replaces = some path) ∧
        ∃ contents whole plan,
          (environment.after libraries event).files path = some contents ∧
          HoldsPlan libraries.primitives whole plan ∧
          (contents = whole ∨
            (contents <+: whole ∧ event.FailsOn libraries environment path))) := by
  cases event with
  | world around => exact Or.inl rfl
  | command command =>
      rcases main_cases libraries environment command with kept | wrote
      · exact Or.inl (congrArg (Environment.files · path) kept)
      obtain ⟨arguments, out, plan, contents, rfl, writes, ending⟩ := wrote
      have files : (environment.after libraries (.command (.plan arguments))).files path =
          (environment.write out contents).files path :=
        congrArg (Environment.files · path) writes.written
      rw [files]
      by_cases same : path = out
      · subst same
        have permitted : environment.files path = none ∨
            (Event.command (.plan arguments)).replaces = some path := by
          rcases writes.permitted with forced | absent
          · exact Or.inr ((if_pos forced).trans writes.chosen)
          · exact Or.inl absent
        refine Or.inr ⟨permitted, contents, _, plan, if_pos rfl,
          holdsPlan_of_creates lawful writes.creates, ?_⟩
        rcases ending with complete | ⟨first, failed⟩
        · exact Or.inl complete
        · exact Or.inr ⟨first, writes.chosen, failed⟩
      · exact Or.inl (if_neg same)

/-- An event keeps a file that exists, unless it may replace it. -/
theorem files_after_of_exists (lawful : libraries.primitives.Lawful) {event : Event}
    {path : String} {contents : List UInt8} (stored : environment.files path = some contents)
    (spared : event.replaces ≠ some path) :
    (environment.after libraries event).files path = some contents := by
  rcases files_after lawful event path with kept | ⟨absent | forced, _⟩
  · exact kept.trans stored
  · rw [stored] at absent
    cases absent
  · exact absurd forced spared

/-- A run keeps a file that exists, unless some event may replace it. -/
theorem files_runs_of_exists (lawful : libraries.primitives.Lawful) {events : List Event}
    {path : String} {contents : List UInt8} (stored : environment.files path = some contents)
    (spared : ∀ event ∈ events, event.replaces ≠ some path) :
    (environment.runs libraries events).files path = some contents := by
  induction events generalizing environment with
  | nil => exact stored
  | cons event events inductionHypothesis =>
      rw [List.forall_mem_cons] at spared
      exact inductionHypothesis (files_after_of_exists lawful stored spared.1) spared.2

/-- A written plan stays in its file until an event replaces it. -/
theorem written_after_runs (lawful : libraries.primitives.Lawful) {arguments : PlanArguments}
    {out : String} {events : List Event}
    (succeeded : (main libraries environment (.plan arguments)).exitCode = 0)
    (chosen : arguments.out = some out)
    (spared : ∀ event ∈ events, event.replaces ≠ some out) :
    ∃ plan, arguments.Writes libraries environment
        (main libraries environment (.plan arguments)).environment out plan
        (printedBytes (encode plan)) ∧
      (environment.runs libraries (.command (.plan arguments) :: events)).files out =
        some (printedBytes (encode plan)) := by
  obtain ⟨plan, writes⟩ := writes_of_succeeded succeeded chosen
  refine ⟨plan, writes, ?_⟩
  rw [Environment.runs_cons, Environment.after_command]
  refine files_runs_of_exists lawful ?_ spared
  rw [writes.written, Environment.write_files]

/-- An input file of loaded evidence exists. -/
theorem Loads.exists_file {inputs : PlanInputPaths} {evidence : Evidence}
    (loads : Loads libraries environment inputs evidence) {path : String}
    (listed : path ∈ inputs.paths) : ∃ contents, environment.files path = some contents := by
  have stored : ∀ {limit kind bytes}, readBounded environment path limit kind = .ok bytes →
      ∃ contents, environment.files path = some contents :=
    fun read => ⟨_, (readBounded_eq_ok_iff.1 read).1⟩
  simp only [PlanInputPaths.paths, List.mem_append, List.mem_cons, List.not_mem_nil, or_false,
    Option.mem_toList] at listed
  rcases listed with (rfl | rfl | rfl | rfl | rfl) | given
  · obtain ⟨_, read, _⟩ := bind_eq_ok_iff.1 loads.source
    exact stored read
  · obtain ⟨_, read, _⟩ := bind_eq_ok_iff.1 loads.target
    exact stored read
  · obtain ⟨_, read, _⟩ := bind_eq_ok_iff.1 loads.sourceSchema
    exact stored read
  · obtain ⟨_, read, _⟩ := bind_eq_ok_iff.1 loads.targetSchema
    exact stored read
  · obtain ⟨_, read, _⟩ := bind_eq_ok_iff.1 loads.history
    exact stored read
  · have policy := loads.policy
    rw [given] at policy
    obtain ⟨_, read, _⟩ := bind_eq_ok_iff.1 policy
    exact stored read

/-- A run that spares the input files leaves the evidence in place. -/
theorem Loads.runs (lawful : libraries.primitives.Lawful) {events : List Event}
    {inputs : PlanInputPaths} {evidence : Evidence}
    (loads : Loads libraries environment inputs evidence)
    (spared : ∀ event ∈ events, ∀ path ∈ inputs.paths, event.replaces ≠ some path) :
    Loads libraries (environment.runs libraries events) inputs evidence := by
  apply loads.congr
  intro path listed
  obtain ⟨contents, stored⟩ := loads.exists_file listed
  rw [stored]
  exact files_runs_of_exists lawful stored fun event happens => spared event happens path listed

end Runs

namespace Sample

/-- A session that plans, repeats the plan and verifies it on another day. -/
def session : List Event :=
  [.command (.plan (planArguments (some 27))),
    .world { environment sourceModule targetModule with clock := some 1760000000 },
    .command (.verifyPlan "plan.json" true)]

theorem plan_succeeds : (main libraries (environment sourceModule targetModule)
    (.plan (planArguments (some 27)))).exitCode = 0 := by
  obtain ⟨digest, result, ran, succeeded, _⟩ :=
    planCommand_offline sourceModule_listed targetModule_listed release_accepted
  rw [main, run, ran]
  exact succeeded

end Sample

/-- Over any run of commands, on any network, clock and disk, a file keeps its contents
or holds a safe plan that verifies and spells no private key. Where a `plan` failed on
it, it may hold a first part of such a plan. Only a `plan --force` on a file can change
it when it exists. -/
theorem files_after_runs (libraries : Libraries) (lawful : libraries.primitives.Lawful)
    (environment : Environment) (events : List Event) (path : String) :
    (environment.runs libraries events).files path = environment.files path ∨
      ((environment.files path = none ∨ ∃ event ∈ events, event.replaces = some path) ∧
        ∃ contents whole plan, (environment.runs libraries events).files path = some contents ∧
          HoldsPlan libraries.primitives whole plan ∧
          (contents = whole ∨
            (contents <+: whole ∧ environment.FailedOn libraries events path))) := by
  induction events generalizing environment with
  | nil => exact Or.inl rfl
  | cons event events inductionHypothesis =>
      have later := inductionHypothesis (environment.after libraries event)
      rcases files_after lawful event path with kept | ⟨permitted, held⟩
      · rw [kept] at later
        rcases later with later | ⟨allowed, contents, whole, plan, stored, holds, ending⟩
        · exact Or.inl later
        · refine Or.inr ⟨?_, contents, whole, plan, stored, holds,
            ending.imp_right fun broken => ⟨broken.1, broken.2.tail⟩⟩
          rcases allowed with absent | ⟨other, happens, replaces⟩
          · exact Or.inl absent
          · exact Or.inr ⟨other, List.mem_cons_of_mem _ happens, replaces⟩
      · have allowed : environment.files path = none ∨
            ∃ other ∈ event :: events, other.replaces = some path :=
          permitted.imp_right fun replaces => ⟨event, List.mem_cons_self, replaces⟩
        refine Or.inr ⟨allowed, ?_⟩
        rcases later with later | ⟨_, contents, whole, plan, stored, holds, ending⟩
        · obtain ⟨contents, whole, plan, stored, holds, ending⟩ := held
          exact ⟨contents, whole, plan, later.trans stored, holds,
            ending.imp_right fun broken => ⟨broken.1, .head broken.2 events⟩⟩
        · exact ⟨contents, whole, plan, stored, holds,
            ending.imp_right fun broken => ⟨broken.1, broken.2.tail⟩⟩

/-- The session leaves a plan in its output file. -/
theorem sampleFiles_after_runs : ∃ contents whole plan,
    ((Sample.environment Sample.sourceModule Sample.targetModule).runs Sample.libraries
      (.command (.plan (Sample.planArguments (some 27))) :: Sample.session)).files "plan.json" =
        some contents ∧ HoldsPlan Sample.primitives whole plan ∧ contents <+: whole := by
  have lawful : Sample.libraries.primitives.Lawful := Sample.lawful
  have spared : ∀ event ∈ Sample.session, event.replaces ≠ some "plan.json" := by
    simp [Sample.session, Event.replaces, Sample.planArguments]
  obtain ⟨plan, _, kept⟩ := written_after_runs lawful Sample.plan_succeeds rfl spared
  rcases files_after_runs Sample.libraries lawful
      (Sample.environment Sample.sourceModule Sample.targetModule)
      (.command (.plan (Sample.planArguments (some 27))) :: Sample.session) "plan.json"
    with same | ⟨_, contents, whole, plan, stored, holds, rfl | ⟨first, _⟩⟩
  · cases kept.symm.trans same
  · exact ⟨contents, contents, plan, stored, holds, List.prefix_rfl⟩
  · exact ⟨contents, whole, plan, stored, holds, first⟩

end SorobanUpgrades
