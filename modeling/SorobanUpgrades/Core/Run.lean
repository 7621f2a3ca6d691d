/-
Module: SorobanUpgrades.Core.Run
Purpose: The commands of the tool, what each of them prints, and the status it
  exits with.
Trusted boundary: human-reviewed spec
Main exports: Command, validateCommand, run, main
-/
import SorobanUpgrades.Core.Cli

namespace SorobanUpgrades

/-! ### Arguments -/

/-- `--json` and `--compact` exclude each other. [SRC main.rs:61-65] -/
inductive ReportFormat where
  | full
  | json
  | compact
deriving DecidableEq, Repr

/-- The `protocol_evidence` group: one of `--network` and `--protocol-version`.
[SRC main.rs:47-51] -/
inductive ProtocolEvidence where
  | network (name : String)
  | protocolVersion (version : UInt32)
deriving DecidableEq, Repr

/-- The value of `--network`. -/
def ProtocolEvidence.givenNetwork : ProtocolEvidence → Option String
  | .network name => some name
  | .protocolVersion _ => none

/-- The value of `--protocol-version`. -/
def ProtocolEvidence.givenVersion : ProtocolEvidence → Option UInt32
  | .network _ => none
  | .protocolVersion version => some version

/-- The options of the `validate` command. [SRC main.rs:52-78] -/
structure ValidateArguments where
  source : String
  target : String
  sourceSchema : String
  targetSchema : String
  format : ReportFormat
  policy : Option String
  protocolEvidence : ProtocolEvidence
  schemaHistory : String

/-- The commands, without the printing of the JSON Schemas. [SRC main.rs:33-134] -/
inductive Command where
  | inspect (wasm : String) (json : Bool)
  | validate (arguments : ValidateArguments)
  | plan (arguments : PlanArguments)
  | verifyPlan (plan : String) (offline : Bool)

/-- The bytes that the printed lines put on the standard output. -/
def CommandResult.stdout (result : CommandResult) : List UInt8 :=
  terminated 10 (result.output.map fun line => utf8 line.toList)

/-- The lines of the standard output, split at its line feeds. A printed text that holds
a line feed makes more than one of them. -/
def CommandResult.lines (result : CommandResult) : List (List UInt8) :=
  result.stdout.splitOn 10

/-! ### Commands -/

section Commands

variable (libraries : Libraries) (environment : Environment)

/-- The `inspect` command. [SRC main.rs:158-166] -/
def inspectCommand (wasm : String) (json : Bool) : Except CliError CommandResult := do
  let artifact ← loadArtifact libraries environment wasm
  .ok {
    exitCode := 0
    environment := environment
    output :=
      if json then [String.ofList (encode artifact).pretty] else printArtifact wasm artifact }

/-- Print a report in the chosen format. [SRC main.rs:201-207] -/
def emitReport (format : ReportFormat) (report : ValidationReport) : List String :=
  match format with
  | .json => [String.ofList (encode report).pretty]
  | .compact => printCompactReport report
  | .full => printReport report

/-- The `validate` command. It exits with 2 when the upgrade is not safe. [SRC main.rs:179-213] -/
def validateCommand (arguments : ValidateArguments) : Except CliError CommandResult := do
  let context ← resolveValidationContext libraries environment
    arguments.protocolEvidence.givenNetwork arguments.protocolEvidence.givenVersion
  let report ← loadReport libraries environment arguments.source arguments.target
    (some arguments.sourceSchema) (some arguments.targetSchema) arguments.policy context
    (some arguments.schemaHistory)
  .ok {
    exitCode := if report.safe then 0 else 2
    environment := environment
    output := emitReport arguments.format report }

/-- `run`, where a verified plan is reported by its lines. [SRC main.rs:156-323] -/
def run : Command → Except CommandFailure CommandResult
  | .inspect wasm json => environment.unchanged (inspectCommand libraries environment wasm json)
  | .validate arguments =>
      environment.unchanged (validateCommand libraries environment arguments)
  | .plan arguments => planCommand libraries environment arguments
  | .verifyPlan plan offline => do
      let lines ← environment.unchanged (verifyPlanCommand libraries environment plan offline)
      .ok { exitCode := 0, environment := environment, output := lines }

/-- `main`. A failed command prints nothing to its standard output, and keeps what it wrote before
it failed. [SRC main.rs:146-154] -/
def main (command : Command) : CommandResult :=
  match run libraries environment command with
  | .ok result => result
  | .error failure => { exitCode := 1, environment := failure.environment, output := [] }

end Commands

end SorobanUpgrades
