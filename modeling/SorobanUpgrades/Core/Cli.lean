/-
Module: SorobanUpgrades.Core.Cli
Purpose: The commands that load the evidence of an upgrade, write a plan and
  verify a plan against the files and the network.
Trusted boundary: human-reviewed spec
Main exports: Environment, Libraries, loadReport, resolveValidationContext,
  writeOutput, planCommand, verifyPlanCommand
-/
import SorobanUpgrades.Core.Output
import SorobanUpgrades.Core.Parse
import SorobanUpgrades.Core.Plan

namespace SorobanUpgrades

/-- `MAX_JSON_INPUT_SIZE_BYTES`. [SRC main.rs:19] -/
def maxJsonInputSizeBytes : Nat := 8 * 1024 * 1024

/-! ### The world of a command -/

/-- The end of a Stellar CLI process. [SRC main.rs:526-535] -/
inductive ProcessOutcome where
  /-- The program could not be started. -/
  | missing
  /-- It failed. The detail is its trimmed error output, or its exit status. -/
  | failed (detail : String)
  | finished (stdout : List UInt8)
deriving DecidableEq, Repr

/-- The end of writing to an open file. A failure keeps the first bytes: none of them, or any
number. [SRC main.rs:418-421] -/
inductive WriteOutcome where
  | complete
  | interrupted (kept : Nat)
  /-- The bytes are written, but the file cannot be synced. -/
  | unsynced (kept : Nat)
deriving DecidableEq, Repr

/-- What a command finds around it. -/
structure Environment where
  /-- The contents of the files that can be opened. -/
  files : String → Option (List UInt8)
  /-- Whether a file can be created or replaced. -/
  writable : String → Bool
  /-- How writing to a file ends, once it is open. -/
  writing : String → WriteOutcome
  /-- `stellar network info` for a network. -/
  networkInfo : String → ProcessOutcome
  /-- `stellar contract fetch` for a network and a contract. -/
  contractFetch : String → String → ProcessOutcome
  /-- Seconds since the Unix epoch, unless the clock is before it. -/
  clock : Option UInt64

/-- The code outside the repository that the commands run on. -/
structure Libraries where
  primitives : Primitives
  wasm : WasmReaders
  json : JsonReader

/-- Why a command failed. -/
inductive CliError where
  | message (text : String)
  | context (text : String) (cause : CliError)
  | core (failure : Error)
  /-- An operating system error. -/
  | system
  /-- The standard error of a JSON reading that is not strict. -/
  | json
deriving DecidableEq, Repr

/-- `bail!`: fail with a message. -/
def bail {α : Type} (text : String) : Except CliError α := .error (.message text)

/-- `with_context`: add a context to a failure. -/
def withContext {α : Type} (text : String) : Except CliError α → Except CliError α
  | .ok value => .ok value
  | .error cause => .error (.context text cause)

/-- What a command leaves behind. -/
structure CommandResult where
  exitCode : Nat
  environment : Environment
  output : List String

/-- Why a command failed, and what it leaves behind. -/
structure CommandFailure where
  error : CliError
  environment : Environment

/-- A part of a command that writes no file. -/
def Environment.unchanged {α : Type} (environment : Environment) :
    Except CliError α → Except CommandFailure α
  | .ok value => .ok value
  | .error error => .error { error := error, environment := environment }

/-- A failure of the library is a failure of the command. -/
def liftCore {α : Type} : Except Error α → Except CliError α
  | .ok value => .ok value
  | .error failure => .error (.core failure)

/-- Fail with a message when the condition holds. -/
def bailWhen (condition : Prop) [Decidable condition] (text : String) : Except CliError Unit :=
  if condition then bail text else .ok ()

section Outcomes

variable {α : Type} {text : String} {value : α}

@[simp] theorem withContext_eq_ok_iff {outcome : Except CliError α} :
    withContext text outcome = .ok value ↔ outcome = .ok value := by
  cases outcome <;> simp [withContext]

@[simp] theorem unchanged_eq_ok_iff {environment : Environment} {outcome : Except CliError α} :
    environment.unchanged outcome = .ok value ↔ outcome = .ok value := by
  cases outcome <;> simp [Environment.unchanged]

/-- Such a part leaves the files as they are when it fails. -/
theorem unchanged_eq_error {environment : Environment} {outcome : Except CliError α}
    {failure : CommandFailure} (failed : environment.unchanged outcome = .error failure) :
    failure.environment = environment := by
  cases outcome with
  | ok _ => cases failed
  | error _ =>
      cases failed
      rfl

@[simp] theorem liftCore_eq_ok_iff {outcome : Except Error α} :
    liftCore outcome = .ok value ↔ outcome = .ok value := by
  cases outcome <;> simp [liftCore]

@[simp] theorem bailWhen_eq_ok_iff {condition : Prop} [Decidable condition] :
    bailWhen condition text = .ok () ↔ ¬ condition := by
  unfold bailWhen
  split <;> simp_all [bail]

end Outcomes

section Commands

variable (libraries : Libraries) (environment : Environment)

/-! ### Files -/

/-- The bytes of a file, up to a limit. A longer file is refused. [SRC main.rs:359-373] -/
def readBounded (path : String) (limit : Nat) (kind : String) : Except CliError (List UInt8) :=
  match environment.files path with
  | none => withContext s!"reading {path}" (.error .system)
  | some contents =>
      let bytes := contents.take (limit + 1)
      if limit < bytes.length then bail s!"{kind} {path} exceeds the {limit} byte input limit"
      else .ok bytes

/-- `load_artifact`. [SRC main.rs:332-335] -/
def loadArtifact (path : String) : Except CliError Artifact := do
  let bytes ← readBounded environment path maxArtifactSizeBytes "WASM artifact"
  withContext s!"inspecting {path}"
    (liftCore (Artifact.fromWasm libraries.primitives libraries.wasm bytes))

/-- `load_schema`. [SRC main.rs:337-340] -/
def loadSchema (path : String) : Except CliError StorageSchema := do
  let bytes ← readBounded environment path maxJsonInputSizeBytes "JSON storage schema"
  withContext s!"parsing {path}" (liftCore (StorageSchema.fromJson libraries.json bytes))

/-- The policy of a file, or the default without one. [SRC main.rs:342-349] -/
def loadPolicy : Option String → Except CliError Policy
  | none => .ok Policy.default
  | some path => do
      let bytes ← readBounded environment path maxJsonInputSizeBytes "JSON policy"
      withContext s!"parsing {path}" (liftCore (Policy.fromJson libraries.json bytes))

/-- `load_schema_history`, for a given path. [SRC main.rs:351-357] -/
def loadSchemaHistory (path : String) : Except CliError SchemaHistory := do
  let bytes ← readBounded environment path maxJsonInputSizeBytes "JSON schema history"
  withContext s!"parsing {path}"
    (liftCore (SchemaHistory.fromJson libraries.json libraries.primitives bytes))

/-- The plan of a file. [SRC main.rs:296-298] -/
def loadPlan (path : String) : Except CliError UpgradePlan := do
  let bytes ← readBounded environment path maxJsonInputSizeBytes "JSON plan"
  withContext s!"parsing {path}" (liftCore (UpgradePlan.fromJson libraries.json bytes))

/-- Run a loader on an optional path. -/
def loadOptional {α : Type} (load : String → Except CliError α) :
    Option String → Except CliError (Option α)
  | none => .ok none
  | some path => do
      let value ← load path
      .ok (some value)

/-- Load the two artifacts, the two schemas, the policy and the history, in this order, and
validate. [SRC main.rs:541-565] -/
def loadReport (sourcePath targetPath : String) (sourceSchema targetSchema policy : Option String)
    (context : ValidationContext) (schemaHistory : Option String) :
    Except CliError ValidationReport := do
  let source ← loadArtifact libraries environment sourcePath
  let target ← loadArtifact libraries environment targetPath
  let oldSchema ← loadOptional (loadSchema libraries environment) sourceSchema
  let newSchema ← loadOptional (loadSchema libraries environment) targetSchema
  let policy ← loadPolicy libraries environment policy
  let schemaHistory ← loadOptional (loadSchemaHistory libraries environment) schemaHistory
  .ok (validateWithHistory libraries.primitives source target oldSchema newSchema policy context
    schemaHistory)

/-! ### Network evidence -/

/-- An answer of `stellar network info`. [SRC main.rs:568-574] -/
structure NetworkInfo where
  id : String
  version : String
  captiveCoreVersion : Option String
  protocolVersion : UInt32
  passphrase : String
deriving DecidableEq, Repr

/-- The fields of a network answer. Other members are skipped. [SRC main.rs:567-574] -/
def NetworkInfo.decode (tree : Json) : Option NetworkInfo := do
  let fields ← openStructFields
    ["id", "version", "captive_core_version", "protocol_version", "passphrase"] tree
  let id ← fields.required "id"
  let version ← fields.required "version"
  let captiveCoreVersion ← fields.optional "captive_core_version"
  let protocolVersion ← fields.required "protocol_version"
  let passphrase ← fields.required "passphrase"
  some { id, version, captiveCoreVersion, protocolVersion, passphrase }

/-- The texts of a network answer. -/
def NetworkInfo.texts (info : NetworkInfo) : List String :=
  [info.id, info.version, info.passphrase] ++ info.captiveCoreVersion.toList

/-- `serde_json::from_slice`: repeated and further members are not refused. [SRC main.rs:624] -/
def NetworkInfo.fromJson (json : JsonReader) (bytes : List UInt8) : Option NetworkInfo :=
  (json.read bytes).bind NetworkInfo.decode

/-- The context of a network answer at the time of observation. [SRC main.rs:626-635] -/
def NetworkInfo.toContext (info : NetworkInfo) (network : String) (observedAt : UInt64) :
    ValidationContext where
  targetProtocolVersion := some info.protocolVersion
  protocolSource := .stellarCliNetworkInfo
  networkName := some network
  networkId := some info.id
  networkPassphrase := some info.passphrase
  rpcVersion := some info.version
  captiveCoreVersion := info.captiveCoreVersion
  observedAtUnixSeconds := some observedAt

/-- `context_from_network_info`. [SRC main.rs:619-636] -/
def contextFromNetworkInfo (network : String) (json : List UInt8) (observedAt : UInt64) :
    Except CliError ValidationContext :=
  match NetworkInfo.fromJson libraries.json json with
  | some info => .ok (info.toContext network observedAt)
  | none => withContext s!"parsing Stellar CLI network info for `{network}`" (.error .json)

/-- Query the network, then read the clock. [SRC main.rs:592-617] -/
def resolveLiveNetwork (network : String) : Except CliError ValidationContext :=
  match environment.networkInfo network with
  | .missing =>
      withContext "running `stellar network info`. Install Stellar CLI or use --protocol-version for an explicit offline assertion"
        (.error .system)
  | .failed detail =>
      bail s!"live network query for `{network}` failed: {detail}. Configure that Stellar CLI network or use --protocol-version for an explicit offline assertion"
  | .finished stdout =>
      match environment.clock with
      | none => withContext "system clock is before the Unix epoch" (.error .system)
      | some now => contextFromNetworkInfo libraries network stdout now

/-- A given protocol version is an offline assertion; otherwise the network is queried.
[SRC main.rs:576-590] -/
def resolveValidationContext (network : Option String) (protocolVersion : Option UInt32) :
    Except CliError ValidationContext :=
  match network, protocolVersion with
  | some network, none => resolveLiveNetwork libraries environment network
  | network, some protocolVersion =>
      .ok { ValidationContext.default with
        targetProtocolVersion := some protocolVersion
        protocolSource := .offlineAssertion
        networkName := network }
  | none, none => .ok ValidationContext.default

/-- Fetch the executable of a contract and read it. [SRC main.rs:512-539] -/
def fetchContractArtifact (network contractId : String) : Except CliError Artifact :=
  match environment.contractFetch network contractId with
  | .missing =>
      withContext "running `stellar contract fetch`. Install Stellar CLI or use an offline plan"
        (.error .system)
  | .failed detail => bail s!"failed to fetch contract {contractId} from `{network}`: {detail}"
  | .finished stdout =>
      withContext s!"inspecting contract {contractId} fetched from `{network}`"
        (liftCore (Artifact.fromWasm libraries.primitives libraries.wasm stdout))

/-- The contract runs the expected executable. [SRC main.rs:496-510] -/
def makeSureCurrentContractMatches (network contractId expectedSha256 : String) :
    Except CliError Unit := do
  let artifact ← fetchContractArtifact libraries environment network contractId
  bailWhen (artifact.sha256 ≠ expectedSha256)
    s!"contract {contractId} on `{network}` runs {artifact.sha256}, but the source artifact is {expectedSha256}"

/-! ### Writing a plan -/

/-- `split_once('=')`: split a text at its first `=`. [SRC main.rs:383] -/
def splitOnce (value : String) : Option (String × String) :=
  match value.toList.span (· ≠ '=') with
  | (name, _ :: argument) => some (String.ofList name, String.ofList argument)
  | (_, []) => none

/-- Add one `NAME=VALUE` argument. The name must be valid and new. [SRC main.rs:383-395] -/
def addNamedArgument (arguments : StringMap String) (value : String) :
    Except CliError (StringMap String) :=
  match splitOnce value with
  | none => bail s!"migration argument `{value}` must use NAME=VALUE form"
  | some (name, argument) => do
      bailWhen (name.isEmpty = true ∨
          name.toList.all (fun character => isAsciiAlphanumeric character || character == '_')
            = false)
        s!"migration argument name `{name}` is invalid"
      bailWhen (arguments.contains name = true)
        s!"migration argument `{name}` was supplied more than once"
      .ok (arguments.insert name argument)

/-- `parse_named_arguments`. [SRC main.rs:380-398] -/
def parseNamedArguments (values : List String) : Except CliError (StringMap String) :=
  values.foldlM addNamedArgument ∅

/-- The options of the `plan` command. [SRC main.rs:80-125] -/
structure PlanArguments where
  source : String
  target : String
  sourceSchema : String
  targetSchema : String
  network : String
  contractId : String
  sourceIdentity : String
  migrationEntrypoint : Option String
  migrationArgs : List String
  invariantProgram : String
  invariantArgs : List String
  policy : Option String
  protocolVersion : Option UInt32
  schemaHistory : String
  out : Option String
  force : Bool

/-- The paths as they were given. [SRC main.rs:249-260] -/
def PlanArguments.inputs (arguments : PlanArguments) : PlanInputPaths where
  sourceWasm := arguments.source
  targetWasm := arguments.target
  sourceSchema := arguments.sourceSchema
  targetSchema := arguments.targetSchema
  schemaHistory := arguments.schemaHistory
  policy := arguments.policy

/-- The paths a plan is bound to. -/
def PlanInputPaths.paths (inputs : PlanInputPaths) : List String :=
  [inputs.sourceWasm, inputs.targetWasm, inputs.sourceSchema, inputs.targetSchema,
    inputs.schemaHistory] ++ inputs.policy.toList

/-- The migration that was asked for. [SRC main.rs:261-268] -/
def PlanArguments.migrationCall (arguments : PlanArguments) :
    Except CliError (Option MigrationCall) :=
  loadOptional (fun entrypoint => do
    let callArguments ← parseNamedArguments arguments.migrationArgs
    .ok { entrypoint := entrypoint, arguments := callArguments }) arguments.migrationEntrypoint

/-- A world in which a file has new contents. -/
def Environment.write (path : String) (bytes : List UInt8) : Environment :=
  { environment with
    files := fun other => if other = path then some bytes else environment.files other }

/-- Write a file. Without `force` it must not exist. Opening it leaves it empty, so a failure after
that leaves a first part of the text in it. [SRC main.rs:400-423] -/
def writeOutput (path : String) (bytes : List UInt8) (force : Bool) :
    Except CommandFailure Environment :=
  if environment.writable path && (force || (environment.files path).isNone) then
    match environment.writing path with
    | .complete => .ok (environment.write path bytes)
    | .interrupted kept =>
        .error ⟨.context s!"writing {path}" .system, environment.write path (bytes.take kept)⟩
    | .unsynced kept =>
        .error ⟨.context s!"syncing {path}" .system, environment.write path (bytes.take kept)⟩
  else if force then .error ⟨.context s!"opening {path} for replacement" .system, environment⟩
  else
    .error ⟨.context s!"creating {path}. Use --force to replace an existing file" .system,
      environment⟩

/-- `plan_status_label`. [SRC main.rs:325-330] -/
def planStatusLabel : PlanStatus → String
  | .offlineDraft => "offline draft"
  | .reviewReady => "ready for signer review"

/-- A live plan needs the source executable on the network. [SRC main.rs:246-248] -/
def makeSureDeployedMatches (arguments : PlanArguments) (report : ValidationReport) :
    Except CliError Unit :=
  if arguments.protocolVersion = none then
    makeSureCurrentContractMatches libraries environment arguments.network arguments.contractId
      report.source.sha256
  else .ok ()

/-- Print a plan or write it to its file. [SRC main.rs:283-292] -/
def emitPlan (arguments : PlanArguments) (plan : UpgradePlan) :
    Except CommandFailure CommandResult :=
  match arguments.out with
  | some out => do
      let written ← writeOutput environment out (printedBytes (encode plan)) arguments.force
      .ok {
        exitCode := 0
        environment := written
        output := [s!"Plan written: {out}", s!"Plan SHA-256: {plan.planSha256}",
          s!"Plan status: {planStatusLabel plan.status}"] }
  | none =>
      .ok {
        exitCode := 0
        environment := environment
        output := [String.ofList ((encode plan).pretty ++ ['\n'])] }

/-- The report that a plan is made from. [SRC main.rs:232-241] -/
def loadPlanReport (arguments : PlanArguments) : Except CliError ValidationReport := do
  let context ← resolveValidationContext libraries environment (some arguments.network)
    arguments.protocolVersion
  loadReport libraries environment arguments.source arguments.target
    (some arguments.sourceSchema) (some arguments.targetSchema) arguments.policy context
    (some arguments.schemaHistory)

/-- The plan of a safe report. [SRC main.rs:246-282] -/
def planSafeReport (arguments : PlanArguments) (report : ValidationReport) :
    Except CliError UpgradePlan := do
  makeSureDeployedMatches libraries environment arguments report
  let migration ← arguments.migrationCall
  liftCore (createPlanWithPaths libraries.primitives report arguments.network
    arguments.contractId arguments.sourceIdentity arguments.inputs
    { migration := migration
      invariantCheck := {
        program := arguments.invariantProgram
        arguments := arguments.invariantArgs } })

/-- The `plan` command. An unsafe upgrade ends it with the report. [SRC main.rs:214-294] -/
def planCommand (arguments : PlanArguments) : Except CommandFailure CommandResult := do
  let report ← environment.unchanged (loadPlanReport libraries environment arguments)
  if report.safe = false then
    .ok { exitCode := 2, environment := environment, output := printReport report }
  else do
    let plan ← environment.unchanged (planSafeReport libraries environment arguments report)
    emitPlan environment arguments plan

/-! ### Verifying a plan -/

/-- One artifact file against the plan: its hash, then all that is read of it.
[SRC main.rs:440-454] -/
def makeSureArtifactMatches (label path expectedHash : String) (expectedArtifact : Artifact) :
    Except CliError Unit := do
  let artifact ← loadArtifact libraries environment path
  bailWhen (artifact.sha256 ≠ expectedHash)
    s!"{label} artifact {path} hashes to {artifact.sha256}, but the plan requires {expectedHash}"
  bailWhen (artifact ≠ expectedArtifact)
    s!"{label} artifact {path} does not match the parsed artifact evidence in the plan"

/-- Both artifact files against the plan. [SRC main.rs:425-457] -/
def makeSurePlanArtifactsMatch (plan : UpgradePlan) : Except CliError Unit := do
  makeSureArtifactMatches libraries environment "source" plan.inputs.sourceWasm
    plan.sourceWasmSha256 plan.validation.source
  makeSureArtifactMatches libraries environment "target" plan.inputs.targetWasm
    plan.targetWasmSha256 plan.validation.target

/-- The schemas, the history and the policy against the plan. [SRC main.rs:459-480] -/
def makeSurePlanDeclarationsMatch (plan : UpgradePlan) : Except CliError Unit := do
  let sourceSchema ← loadSchema libraries environment plan.inputs.sourceSchema
  let targetSchema ← loadSchema libraries environment plan.inputs.targetSchema
  let history ← loadSchemaHistory libraries environment plan.inputs.schemaHistory
  let policy ← loadPolicy libraries environment plan.inputs.policy
  bailWhen (plan.validation.sourceSchema ≠ some sourceSchema)
    "source schema file does not match the evidence in the plan"
  bailWhen (plan.validation.targetSchema ≠ some targetSchema)
    "target schema file does not match the evidence in the plan"
  bailWhen (plan.validation.schemaHistory ≠ some history)
    "schema history file does not match the evidence in the plan"
  bailWhen (plan.validation.policy ≠ policy)
    "policy file does not match the evidence in the plan"

/-- The network still has the identity, passphrase and protocol of the plan.
[SRC main.rs:482-494] -/
def makeSurePlanNetworkMatches (plan : UpgradePlan) : Except CliError Unit := do
  let current ← resolveLiveNetwork libraries environment plan.network
  let planned := plan.validation.context
  bailWhen (current.networkId ≠ planned.networkId ∨
      current.networkPassphrase ≠ planned.networkPassphrase ∨
      current.targetProtocolVersion ≠ planned.targetProtocolVersion)
    "live network identity or protocol changed after plan creation. Create and review a new plan"

/-- The checks that `--offline` skips. [SRC main.rs:308-316] -/
def makeSurePlanIsLive (plan : UpgradePlan) : Except CliError Unit := do
  bailWhen (plan.status ≠ .reviewReady)
    "plan is an offline draft. Create a new plan with live network evidence"
  makeSurePlanNetworkMatches libraries environment plan
  makeSureCurrentContractMatches libraries environment plan.network plan.contractId
    plan.sourceWasmSha256

/-- The checks of a plan that has been read. [SRC main.rs:299-319] -/
def verifyLoadedPlan (plan : UpgradePlan) (offline : Bool) : Except CliError (List String) := do
  let genuine ← liftCore (verifyPlanDigest libraries.primitives plan)
  bailWhen (genuine = false) "upgrade plan digest mismatch"
  makeSurePlanArtifactsMatch libraries environment plan
  makeSurePlanDeclarationsMatch libraries environment plan
  if offline then
    .ok ["Plan structure, digest, and local artifacts verified.",
      "Network evidence not checked: offline mode.", s!"Plan SHA-256: {plan.planSha256}"]
  else do
    makeSurePlanIsLive libraries environment plan
    .ok ["Plan, local artifacts, network, and current executable verified.",
      s!"Plan SHA-256: {plan.planSha256}"]

/-- The `verify-plan` command. [SRC main.rs:295-321] -/
def verifyPlanCommand (path : String) (offline : Bool) : Except CliError (List String) := do
  let plan ← loadPlan libraries environment path
  verifyLoadedPlan libraries environment plan offline

end Commands

end SorobanUpgrades
