/-
Module: SorobanUpgrades.Core.Plan
Purpose: The construction of an upgrade plan from a safe report, its digest, and
  the verification of a plan by building it again.
Trusted boundary: human-reviewed spec
Main exports: renderCommand, planSteps, createPlanWithPaths, planDigestBytes,
  calculatePlanSha256, validatePlanStructure, verifyPlanDigest
-/
import SorobanUpgrades.Library.Sha256
import SorobanUpgrades.Core.Validate

namespace SorobanUpgrades

/-! ### Commands -/

/-- `char::is_ascii_alphanumeric`. -/
def isAsciiAlphanumeric (character : Char) : Bool := character.isAlphanum

/-- The characters that need no quotes. [SRC lib.rs:2464-2467] -/
def isShellPlain (character : Char) : Bool :=
  isAsciiAlphanumeric character || "_+-./:=@".toList.contains character

/-- A quotation mark inside single quotes: close, quote it, open again. [SRC lib.rs:2471] -/
def quoteEscape (character : Char) : List Char :=
  if character = '\'' then ['\'', '"', '\'', '"', '\''] else [character]

/-- A word as it is when it is plain, and single-quoted otherwise. [SRC lib.rs:2463-2473] -/
def shellQuote (value : String) : String :=
  if !value.isEmpty && value.toList.all isShellPlain then value
  else String.ofList ('\'' :: (value.toList.flatMap quoteEscape ++ ['\'']))

/-- The program and its arguments as one shell command. [SRC lib.rs:2455-2461] -/
def renderCommand (program : String) (arguments : List String) : String :=
  " ".intercalate ((program :: arguments).map shellQuote)

/-- `PlanStep::new`: a step with its rendered command. [SRC lib.rs:2436-2452] -/
def PlanStep.new (position : UInt32) (kind : PlanStepKind) (program : String)
    (arguments : List String) (expected : String) : PlanStep where
  position := position
  kind := kind
  program := program
  arguments := arguments
  command := renderCommand program arguments
  expected := expected

/-! ### Request checks -/

/-- Refuse a plan with a message when the condition holds. -/
def refuse (condition : Prop) [Decidable condition] (message : String) : Except Error Unit :=
  if condition then .error (.plan message) else .ok ()

@[simp] theorem refuse_eq_ok_iff {condition : Prop} [Decidable condition] {message : String} :
    refuse condition message = .ok () ↔ ¬ condition := by
  unfold refuse
  split <;> simp_all

section Requests

variable (primitives : Primitives)

/-- The secret scan of a text. [SRC lib.rs:2974-2986] -/
def containsSecret (value : String) : Bool := containsStellarPrivateKey primitives value.toList

/-- A text is non-empty, short, printable and free of private keys. [SRC lib.rs:2958-2970] -/
def validatePlanString (label value : String) (maximumBytes : Nat) : Except Error Unit := do
  refuse (value.isEmpty = true ∨ maximumBytes < byteLength value ∨
      value.toList.any isControl = true)
    s!"{label} must be non-empty, contain no control characters, and stay within {maximumBytes} bytes"
  refuse (containsSecret primitives value = true)
    s!"{label} must not contain a Stellar private key"

/-- The same for each of the paths. No file name is reserved for the steps.
[SRC lib.rs:2941-2956] -/
def validatePlanInputPaths (paths : PlanInputPaths) : Except Error Unit := do
  validatePlanString primitives "source WASM path" paths.sourceWasm 4096
  validatePlanString primitives "target WASM path" paths.targetWasm 4096
  validatePlanString primitives "source schema path" paths.sourceSchema 4096
  validatePlanString primitives "target schema path" paths.targetSchema 4096
  validatePlanString primitives "schema history path" paths.schemaHistory 4096
  paths.policy.forM fun path => validatePlanString primitives "policy path" path 4096

/-- A source identity is a short word without white space. [SRC lib.rs:3077-3096] -/
def validateSourceIdentity (sourceIdentity : String) : Except Error Unit := do
  refuse (sourceIdentity.isEmpty = true ∨ 128 < byteLength sourceIdentity ∨
      sourceIdentity.toList.any (fun character => isControl character || isWhitespace character)
        = true)
    "source identity must be a non-empty Stellar CLI alias or public account without whitespace"
  refuse (containsSecret primitives sourceIdentity = true)
    "source identity must not contain a private key. Use a Stellar CLI alias or public account"

/-- One argument of the invariant check. [SRC lib.rs:2925-2937] -/
def validateInvariantArgument (argument : String) : Except Error Unit := do
  refuse (4096 < byteLength argument ∨ argument.toList.any isControl = true)
    "invariant arguments must not contain control characters or exceed 4096 bytes"
  refuse (containsSecret primitives argument = true)
    "invariant arguments must not contain private keys"

/-- The program is a short word without white space, and the arguments are printable.
[SRC lib.rs:2908-2939] -/
def validateInvariantCheck (check : InvariantCheck) : Except Error Unit := do
  refuse (check.program.isEmpty = true ∨ 256 < byteLength check.program ∨
      check.program.toList.any (fun character => isControl character || isWhitespace character)
        = true)
    "invariant program must be a non-empty command name without whitespace"
  refuse (containsSecret primitives check.program = true)
    "invariant program must not contain a private key"
  check.arguments.forM (validateInvariantArgument primitives)

/-- The declared inputs of a function, as the contract specification lists them.
[SRC lib.rs:3044-3047] -/
def InterfaceEntry.inputs (function : InterfaceEntry) : Option (List Json) :=
  (function.canonical.json.pointer ["function_v0", "inputs"]).bind Json.asArray

/-- The declared name of an input. [SRC lib.rs:3052-3055] -/
def inputName (input : Json) : Option String := (input.get? "name").bind Json.asStr

/-- The names of a function's inputs. Every input must name itself. [SRC lib.rs:3049-3058] -/
def inputNames (entrypoint : String) (inputs : List Json) : Except Error StringSet :=
  match inputs.mapM inputName with
  | some names => .ok (Std.ExtTreeSet.ofList names compare)
  | none => .error (.plan s!"cannot read an argument for `{entrypoint}`")

/-- The declared inputs of a function, which must be readable. [SRC lib.rs:3044-3048] -/
def readInputs (entrypoint : String) (function : InterfaceEntry) : Except Error (List Json) :=
  match function.inputs with
  | some inputs => .ok inputs
  | none => .error (.plan s!"cannot read arguments for `{entrypoint}`")

/-- A call supplies exactly the declared inputs, and no value holds a private key.
[SRC lib.rs:3033-3075] -/
def validateCallArguments (target : Artifact) (entrypoint : String)
    (arguments : StringMap String) (callKind : String) : Except Error Unit := do
  let function ← match target.functions[entrypoint]? with
    | some function => .ok function
    | none => .error (.plan
        s!"{callKind} entrypoint `{entrypoint}` is not exported by the target WASM")
  let inputs ← readInputs entrypoint function
  let expected ← inputNames entrypoint inputs
  let supplied := Std.ExtTreeSet.ofList arguments.keys compare
  let expectedText := joined expected.toList
  let suppliedText := joined supplied.toList
  refuse (expected ≠ supplied)
    s!"{callKind} entrypoint `{entrypoint}` requires arguments [{expectedText}], but the plan supplies [{suppliedText}]"
  refuse (arguments.toList.any (fun (_, value) => containsSecret primitives value) = true)
    "plan arguments must not contain private keys"

/-- The type `BytesN<32>`. [SRC lib.rs:3009] -/
def wasmHashType : Value :=
  Json.toValue (.object [("bytes_n", .object [("n", .number (.integer 32))])])

/-- The type `Address`. [SRC lib.rs:3010] -/
def addressType : Value := Json.toValue (.string "address")

/-- The `upgrade` entrypoint has the two standard inputs and reaches the host function.
[SRC lib.rs:2988-3031] -/
def validateStandardUpgradeEntrypoint (target : Artifact) : Except Error Unit := do
  validateCallArguments primitives target "upgrade"
    (Std.ExtTreeMap.ofList [("new_wasm_hash", ""), ("operator", "")] compare)
    "OpenZeppelin-compatible upgrade"
  let inputs ← match target.functions["upgrade"]?.bind InterfaceEntry.inputs with
    | some inputs => .ok inputs
    | none => .error (.plan "cannot read arguments for `upgrade`")
  let types := Std.ExtTreeMap.ofList (inputs.filterMap structField) compare
  refuse (types["new_wasm_hash"]? ≠ some wasmHashType ∨ types["operator"]? ≠ some addressType)
    "the `upgrade` entrypoint must use `new_wasm_hash: BytesN<32>` and `operator: Address`"
  refuse (target.reachesUpdate = false)
    "the `upgrade` entrypoint must reach Stellar `update_current_contract_wasm`"

/-- The migration entrypoints the target schema declares. [SRC lib.rs:2610-2617] -/
def declaredEntrypoints (schema : Option StorageSchema) : StringSet :=
  Std.ExtTreeSet.ofList ((schema.elim [] (·.entries)).filterMap fun entry =>
    entry.migration.bind (·.entrypoint)) compare

/-- The entrypoint of the selected migration call. [SRC lib.rs:2618-2621] -/
def selectedEntrypoints (migration : Option MigrationCall) : StringSet :=
  Std.ExtTreeSet.ofList (migration.toList.map (·.entrypoint)) compare

/-- The report contains a layout change that needs a migration. [SRC lib.rs:2600-2603] -/
def ValidationReport.storageMigrationRequired (report : ValidationReport) : Bool :=
  report.findings.any (·.code == "STO002")

/-- A required migration is selected, and is the only one that the target schema declares.
[SRC lib.rs:2604-2629] -/
def validateMigrationSelection (report : ValidationReport) (migration : Option MigrationCall) :
    Except Error Unit := do
  let declared := declaredEntrypoints report.targetSchema
  let selected := selectedEntrypoints migration
  let selectedText := joined selected.toList
  let declaredText := joined declared.toList
  refuse (report.storageMigrationRequired = true ∧ migration = none)
    "storage layout changed but no migration entrypoint was selected"
  refuse (report.storageMigrationRequired = true ∧ declared ≠ selected)
    s!"selected migration [{selectedText}] does not match declared entrypoints [{declaredText}]"

/-- The arguments of the selected migration call. [SRC lib.rs:2634-2641] -/
def validateMigrationCall (target : Artifact) : Option MigrationCall → Except Error Unit
  | some migration =>
      validateCallArguments primitives target migration.entrypoint migration.arguments "migration"
  | none => .ok ()

/-- The protocol is pinned, for the network of the plan. [SRC lib.rs:2566-2586] -/
def validateProtocolEvidence (report : ValidationReport) (network : String) :
    Except Error Unit := do
  refuse (report.context.targetProtocolVersion = none ∨
      report.context.protocolSource = .unpinned)
    "target protocol and its evidence source are not pinned in the validation report"
  match report.context.networkName with
  | some evidenceNetwork =>
      refuse (evidenceNetwork ≠ network)
        s!"plan network `{network}` does not match protocol evidence for `{evidenceNetwork}`"
  | none => .error (.plan "protocol evidence is not bound to the plan network")

/-- The contract id is a contract strkey. [SRC lib.rs:2551-2553] -/
def validateContractId (contractId : String) : Except Error Unit :=
  if primitives.contractFromString contractId then .ok () else .error (.invalidContractId contractId)

/-- The checks a plan request passes before the plan is assembled. [SRC lib.rs:2549-2642] -/
def validatePlanRequest (report : ValidationReport) (network contractId sourceIdentity : String)
    (inputs : PlanInputPaths) (operations : PlanOperations) : Except Error Unit := do
  validatePlanInputPaths primitives inputs
  validatePlanString primitives "network" network 256
  validateContractId primitives contractId
  refuse (report.safe = false ∨ report.findings.any (·.isError) = true)
    "validation report contains release-blocking findings"
  validateProtocolEvidence report network
  refuse (report.storageSchemaChecked = false)
    "storage schemas were not checked in the validation report"
  refuse (report.schemaHistoryChecked = false ∨ report.schemaHistorySha256 = none)
    "cumulative schema history was not checked in the validation report"
  validateSourceIdentity primitives sourceIdentity
  validateMigrationSelection report operations.migration
  validateStandardUpgradeEntrypoint primitives report.source
  validateStandardUpgradeEntrypoint primitives report.target
  validateMigrationCall primitives report.target operations.migration
  validateInvariantCheck primitives operations.invariantCheck

end Requests

/-! ### Steps -/

/-- `stellar contract fetch` into a file. [SRC lib.rs:2651-2660] -/
def fetchArguments (contractId network outFile : String) : List String :=
  ["contract", "fetch", "--id", contractId, "--network", network, "--out-file", outFile]

/-- `stellar contract upload` of the target path. [SRC lib.rs:2667-2677] -/
def uploadArguments (targetWasm sourceIdentity network : String) : List String :=
  ["contract", "upload", "--wasm", targetWasm, "--optimize=false",
    "--source-account", sourceIdentity, "--network", network]

/-- `stellar contract invoke` of `upgrade` without sending. [SRC lib.rs:2684-2701] -/
def simulateArguments (contractId sourceIdentity network targetHash : String) : List String :=
  ["contract", "invoke", "--id", contractId, "--source-account", sourceIdentity,
    "--network", network, "--send", "no", "--", "upgrade",
    "--new_wasm_hash", targetHash, "--operator", sourceIdentity]

/-- `stellar contract invoke` of `upgrade`. [SRC lib.rs:2708-2723] -/
def executeArguments (contractId sourceIdentity network targetHash : String) : List String :=
  ["contract", "invoke", "--id", contractId, "--source-account", sourceIdentity,
    "--network", network, "--", "upgrade",
    "--new_wasm_hash", targetHash, "--operator", sourceIdentity]

/-- `stellar contract invoke` of the migration, with its arguments by name.
[SRC lib.rs:2729-2744] -/
def migrationArguments (contractId sourceIdentity network : String) (migration : MigrationCall) :
    List String :=
  ["contract", "invoke", "--id", contractId, "--source-account", sourceIdentity,
    "--network", network, "--", migration.entrypoint] ++
  (migration.arguments.toList.flatMap fun (name, value) => [s!"--{name}", value])

/-- The step that runs the migration, when there is one. [SRC lib.rs:2728-2752] -/
def migrationSteps (contractId sourceIdentity network : String)
    (migration : Option MigrationCall) : List PlanStep :=
  migration.toList.map fun migration =>
    .new 5 .executeMigration "stellar"
      (migrationArguments contractId sourceIdentity network migration)
      "Migration succeeds once and records the new schema version"

/-- Fetch and compare, upload, simulate, execute, migrate if asked, fetch again, check the
invariants. [SRC lib.rs:2644-2776] -/
def planSteps (report : ValidationReport) (network contractId sourceIdentity : String)
    (inputs : PlanInputPaths) (operations : PlanOperations) : List PlanStep :=
  let sourceHash := report.source.sha256
  let targetHash := report.target.sha256
  let steps := [
    .new 1 .verifyCurrentExecutable "stellar" (fetchArguments contractId network "current.wasm")
      s!"Fetched WASM SHA-256 equals {sourceHash}",
    .new 2 .uploadTargetWasm "stellar" (uploadArguments inputs.targetWasm sourceIdentity network)
      s!"WASM hash {targetHash}",
    .new 3 .simulateUpgrade "stellar"
      (simulateArguments contractId sourceIdentity network targetHash)
      "Successful simulation with expected authorization and resource footprint",
    .new 4 .executeUpgrade "stellar"
      (executeArguments contractId sourceIdentity network targetHash)
      "Successful executable_update system event"] ++
    migrationSteps contractId sourceIdentity network operations.migration
  let next := UInt32.ofNat steps.length + 1
  steps ++ [
    .new next .verifyExecutable "stellar" (fetchArguments contractId network "deployed.wasm")
      s!"Fetched WASM SHA-256 equals {targetHash}",
    .new (next + 1) .verifyInvariants operations.invariantCheck.program
      operations.invariantCheck.arguments
      "The application-specific post-upgrade invariants pass"]

/-! ### Plans -/

/-- The plan before its digest is filled in. [SRC lib.rs:2778-2799] -/
def assemblePlan (report : ValidationReport) (network contractId sourceIdentity : String)
    (inputs : PlanInputPaths) (operations : PlanOperations) : UpgradePlan where
  formatVersion := 3
  planSha256 := ""
  status :=
    if report.context.protocolSource = .stellarCliNetworkInfo then .reviewReady else .offlineDraft
  network := network
  contractId := contractId
  sourceIdentity := sourceIdentity
  inputs := inputs
  sourceWasmSha256 := report.source.sha256
  targetWasmSha256 := report.target.sha256
  rollbackWasmSha256 := report.source.sha256
  fromVersion := report.source.version
  toVersion := report.target.version
  migration := operations.migration
  invariantCheck := operations.invariantCheck
  validation := report
  steps := planSteps report network contractId sourceIdentity inputs operations

/-- The bytes the plan digest covers: the sorted plan without its digest. [SRC lib.rs:2815-2820] -/
def planDigestBytes (plan : UpgradePlan) : Except Error (List UInt8) :=
  match (encode plan).normalize with
  | .object members =>
      .ok (utf8 (Json.object (members.filter (·.1 ≠ "planSha256"))).compact)
  | _ => .error (.plan "serialized plan is not a JSON object")

section Plans

variable (primitives : Primitives)

/-- The hex digest of the plan without its digest. [SRC lib.rs:2814-2822] -/
def calculatePlanSha256 (plan : UpgradePlan) : Except Error String := do
  let bytes ← planDigestBytes plan
  .ok (primitives.hexEncode (primitives.sha256 bytes))

/-- The plan of a safe report: the request is checked, the plan is assembled, scanned for private
keys as a whole, and digested. [SRC lib.rs:2537-2808] -/
def createPlanWithPaths (report : ValidationReport) (network contractId sourceIdentity : String)
    (inputs : PlanInputPaths) (operations : PlanOperations) : Except Error UpgradePlan := do
  validatePlanRequest primitives report network contractId sourceIdentity inputs operations
  let plan := assemblePlan report network contractId sourceIdentity inputs operations
  refuse (containsStellarPrivateKey primitives (encode plan).compact = true)
    "plan evidence must not contain a Stellar private key"
  let planSha256 ← calculatePlanSha256 primitives plan
  .ok { plan with planSha256 }

/-- `create_plan`: the plan under fixed file names, with the source identity as the operator of the
migration. [SRC lib.rs:2502-2535] -/
def createPlan (report : ValidationReport) (network contractId sourceIdentity : String)
    (targetWasmPath : String) (migrationEntrypoint : Option String) :
    Except Error UpgradePlan :=
  createPlanWithPaths primitives report network contractId sourceIdentity
    { sourceWasm := "source.wasm"
      targetWasm := targetWasmPath
      sourceSchema := "source.schema.json"
      targetSchema := "target.schema.json"
      schemaHistory := "schema-history.json"
      policy := none }
    { migration := migrationEntrypoint.map fun entrypoint =>
        { entrypoint := entrypoint
          arguments := Std.ExtTreeMap.ofList [("operator", sourceIdentity)] compare }
      invariantCheck := { program := "cargo", arguments := ["test", "--workspace"] } }

/-! ### Verification -/

/-- The argument that follows the first occurrence of a flag. [SRC lib.rs:3098-3101] -/
def argumentAfter (arguments : List String) (flag : String) : Option String :=
  (arguments.dropWhile (· ≠ flag))[1]?

/-- The steps of one kind, in order. -/
def UpgradePlan.stepsOfKind (plan : UpgradePlan) (kind : PlanStepKind) : List PlanStep :=
  plan.steps.filter (·.kind = kind)

/-- The validation of the evidence a plan embeds. [SRC lib.rs:2837-2845] -/
def revalidate (plan : UpgradePlan) : ValidationReport :=
  validateWithHistory primitives plan.validation.source plan.validation.target
    plan.validation.sourceSchema plan.validation.targetSchema plan.validation.policy
    plan.validation.context plan.validation.schemaHistory

/-- There is one upload step, and it names the target path of the inputs. [SRC lib.rs:2852-2868] -/
def validateUploadStep (plan : UpgradePlan) : Except Error Unit :=
  match plan.stepsOfKind .uploadTargetWasm with
  | [upload] =>
      match argumentAfter upload.arguments "--wasm" with
      | none => .error (.plan "upload step has no `--wasm` argument")
      | some targetWasmPath =>
          refuse (targetWasmPath ≠ plan.inputs.targetWasm)
            "upload step target does not match the plan input path"
  | _ => .error (.plan "plan must contain exactly one target-WASM upload step")

/-- There is one migration step for a migration and none without. [SRC lib.rs:2870-2884] -/
def validateMigrationSteps (plan : UpgradePlan) : Except Error Unit := do
  refuse (1 < (plan.stepsOfKind .executeMigration).length)
    "plan contains more than one migration step"
  refuse ((plan.stepsOfKind .executeMigration).length ≠ plan.migration.isSome.toNat)
    "migration metadata and migration steps do not match"

/-- A plan is what a fresh plan of its own evidence is, up to the digest. [SRC lib.rs:2829-2906] -/
def validatePlanStructure (plan : UpgradePlan) : Except Error Unit := do
  refuse (plan.formatVersion ≠ 3)
    s!"unsupported plan format version {plan.formatVersion}. This build supports version 3"
  refuse (revalidate primitives plan ≠ plan.validation)
    "embedded validation report does not match a fresh validation of its evidence"
  validateUploadStep plan
  validateMigrationSteps plan
  let expected ← createPlanWithPaths primitives plan.validation plan.network plan.contractId
    plan.sourceIdentity plan.inputs
    { migration := plan.migration, invariantCheck := plan.invariantCheck }
  refuse ({ plan with planSha256 := "" } ≠ { expected with planSha256 := "" })
    "plan fields or commands do not match the canonical validation-derived plan"

/-- The plan has the structure of a created plan, and its digest is right. [SRC lib.rs:2824-2827] -/
def verifyPlanDigest (plan : UpgradePlan) : Except Error Bool := do
  validatePlanStructure primitives plan
  let planSha256 ← calculatePlanSha256 primitives plan
  .ok (plan.planSha256 == planSha256)

end Plans

/-! ### A sample upgrade

The helpers of the repository's own tests: a contract with an upgrade entrypoint,
its next release and their safe report. -/

namespace Sample

/-- A contract id of the tests. [SRC lib.rs:3107] -/
def contractId : String := "CAAAAAAAAAAAAAAAAAAAAAAAAAAAAAAAAAAAAAAAAAAAAAAAAAAABSC4"

/-- Lower-case hex digits. -/
def hexEncode (bytes : List UInt8) : String :=
  String.ofList (bytes.flatMap fun byte => [hexDigit (byte.toNat / 16), hexDigit (byte.toNat % 16)])

/-- The versions that the samples use. -/
def parseVersion : String → Option Version
  | "1.0.0" => some ⟨1, 0, 0, [], []⟩
  | "2.0.0" => some ⟨2, 0, 0, [], []⟩
  | "3.0.0" => some ⟨3, 0, 0, [], []⟩
  | _ => none

/-- A schema with one key. -/
def schema (version : UInt32) (valueType : String) (migration : Option Migration) :
    StorageSchema where
  formatVersion := 1
  complete := true
  schemaVersion := version
  contractVersion := s!"{version}.0.0"
  entries := [{
    key := "Config"
    durability := .instanceStorage
    valueType := valueType
    migration := migration }]

/-- The third-party functions on the few inputs the samples give them. No text
of a sample holds a private key. -/
def primitives : Primitives where
  sha256 := sha256
  hexEncode := hexEncode
  contractFromString text := text == contractId
  privateKeyFromString _ := false
  parseVersion := parseVersion

theorem isLowerHex_hexEncode (bytes : List UInt8) :
    (hexEncode bytes).toList.all isLowerHex = true := by
  have lower : ∀ value, isLowerHex (hexDigit value) = true := by
    intro value
    rw [isLowerHex, decide_eq_true_eq, hexDigit, List.getD_eq_getElem?_getD]
    cases found : hexDigits[value]? with
    | none => decide
    | some digit => exact List.mem_of_getElem? found
  simp [hexEncode, lower]

theorem lawful : primitives.Lawful where
  privateKey_base32 text key := by cases key
  hexEncode_lower := isLowerHex_hexEncode

/-- The entry of a function. `upgrade` and `migrate` have their standard inputs. -/
def functionEntry (name : String) : InterfaceEntry where
  kind := "function"
  name := name
  canonical :=
    match name with
    | "upgrade" => Json.toValue (.object [("function_v0", .object [
        ("name", .string "upgrade"),
        ("inputs", .array [
          .object [("name", .string "new_wasm_hash"),
            ("type_", .object [("bytes_n", .object [("n", .number (.integer 32))])])],
          .object [("name", .string "operator"), ("type_", .string "address")]]),
        ("outputs", .array [])])])
    | "migrate" => Json.toValue (.object [("function_v0", .object [
        ("name", .string "migrate"),
        ("inputs", .array [.object [("name", .string "operator"), ("type_", .string "address")]]),
        ("outputs", .array [])])])
    | _ => Json.toValue (.object [])

/-- An export that reaches the host function. -/
def callEvidence (name : String) : ExportCallEvidence where
  hostImports :=
    if name = "upgrade" then Std.ExtTreeSet.ofList [updateCurrentContractWasmImport] compare else ∅
  dynamicDispatchReachable := false

/-- The entry of a struct. -/
def structEntry (name : String) (fields : List (String × Json)) : InterfaceEntry where
  kind := "struct"
  name := name
  canonical := Json.toValue (.object [("udt_struct_v0", .object [
    ("name", .string name),
    ("lib", .string ""),
    ("fields", .array (fields.map fun (fieldName, fieldType) =>
      .object [("name", .string fieldName), ("type_", fieldType)]))])])

/-- An artifact with the given functions, all of them exported. -/
def artifact (version : String) (functions : List String) : Artifact where
  formatVersion := 1
  sha256 := String.ofList (List.replicate 64 '0')
  sizeBytes := 1
  envProtocolVersion := 27
  envPreRelease := 0
  metadata := Std.ExtTreeMap.ofList [("binver", version)] compare
  hostImports := ∅
  functions := Std.ExtTreeMap.ofList (functions.map fun name => (name, functionEntry name)) compare
  events := ∅
  userTypes := ∅
  publicTypeBoundaries := []
  typeReferences := []
  exportCallEvidence :=
    Std.ExtTreeMap.ofList (functions.map fun name => (name, callEvidence name)) compare

/-- An offline protocol assertion for a test network. -/
def context : ValidationContext :=
  { ValidationContext.default with
    targetProtocolVersion := some 27
    protocolSource := .offlineAssertion
    networkName := some "testnet" }

/-- A history without structs, complete. -/
def history : SchemaHistory where
  formatVersion := 1
  complete := true
  types := ∅
  sourceSha256 := String.ofList (List.replicate 64 '1')

/-- The report of an upgrade that changes nothing but its version. -/
def safeReport : ValidationReport :=
  validateWithHistory primitives (artifact "1.0.0" ["upgrade"])
    (artifact "2.0.0" ["upgrade", "migrate"]) (some (schema 1 "u32" none))
    (some (schema 2 "u32" none)) Policy.default context (some history)

/-- The files of the samples. -/
def inputs : PlanInputPaths where
  sourceWasm := "source.wasm"
  targetWasm := "target.wasm"
  sourceSchema := "source.schema.json"
  targetSchema := "target.schema.json"
  schemaHistory := "schema-history.json"
  policy := none

/-- No migration, and an invariant check. -/
def operations : PlanOperations where
  migration := none
  invariantCheck := { program := "cargo", arguments := ["test", "--workspace"] }

end Sample

end SorobanUpgrades
