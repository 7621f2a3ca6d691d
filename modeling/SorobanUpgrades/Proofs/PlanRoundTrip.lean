/-
Module: SorobanUpgrades.Proofs.PlanRoundTrip
Purpose: A written plan is accepted by the offline verification exactly when its
  file is within the size and nesting limits of the plan reader.
Trusted boundary: none
Main exports: loadPlan_printed_iff, writtenPlan_verified_iff
-/
import SorobanUpgrades.Proofs.Commands
import SorobanUpgrades.Proofs.EntrypointExports

namespace SorobanUpgrades

open Outcome (bind_eq_ok_iff)

section Plans

variable {libraries : Libraries} {environment : Environment}

/-- The plan reader limits the size and the nesting of a printed plan. -/
def Readable (json : JsonReader) (plan : UpgradePlan) : Prop :=
  (printedBytes (encode plan)).length ≤ maxJsonInputSizeBytes ∧
    (encode plan).depth ≤ json.recursionLimit

/-- A printed plan is read back exactly within the limits of the reader. -/
theorem loadPlan_printed_iff (lawful : libraries.json.Lawful) {path : String}
    {plan other : UpgradePlan}
    (printed : environment.files path = some (printedBytes (encode plan))) :
    loadPlan libraries environment path = .ok other ↔
      Readable libraries.json plan ∧ plan = other := by
  rw [loadPlan, bind_eq_ok_iff]
  simp only [readBounded_eq_ok_iff, printed, Option.some.injEq, withContext_eq_ok_iff,
    liftCore_eq_ok_iff, UpgradePlan.fromJson]
  constructor
  · rintro ⟨_, ⟨rfl, small⟩, parsed⟩
    obtain ⟨shallow, same⟩ := (parseJsonStrict_printed lawful).1 parsed
    exact ⟨⟨small, shallow⟩, same⟩
  · rintro ⟨⟨small, shallow⟩, same⟩
    exact ⟨_, ⟨rfl, small⟩, (parseJsonStrict_printed lawful).2 ⟨shallow, same⟩⟩

/-- A command that writes a plan leaves the printed plan in its file, and its
evidence next to it. -/
theorem writtenPlan_of_planCommand {arguments : PlanArguments} {result : CommandResult}
    {out : String} (ran : planCommand libraries environment arguments = .ok result)
    (succeeded : result.exitCode = 0) (chosen : arguments.out = some out)
    (apart : out ∉ arguments.inputs.paths) :
    ∃ plan : UpgradePlan, result.environment.files out = some (printedBytes (encode plan)) ∧
      ∃ lines, verifyLoadedPlan libraries result.environment plan true = .ok lines := by
  obtain ⟨context, evidence, migration, plan, _, loads, _, _, created, emitted⟩ :=
    planCommand_succeeds_iff.1 ⟨ran, succeeded⟩
  obtain ⟨_, ⟨absent, _⟩ | ⟨other, given, _, written⟩⟩ := emitPlan_eq_ok emitted
  · cases chosen.symm.trans absent
  · obtain rfl : out = other := Option.some.inj (chosen.symm.trans given)
    rw [written]
    exact ⟨plan, Environment.write_files,
      verifyLoadedPlan_offline_of_created (loads.write apart _) created⟩

/-- The digest does not nest. -/
theorem depth_encode_setDigest (plan : UpgradePlan) (digest : String) :
    (encode (plan.setDigest digest)).depth = (encode plan).depth := by
  have replaced : ∀ (first : Member) (key before after : String) (rest : List Member),
      (Json.object (first :: (key, .string after) :: rest)).depth =
        (Json.object (first :: (key, .string before) :: rest)).depth := by
    intro first key before after rest
    simp [Json.depth, Json.depthMembers]
  exact replaced _ _ _ _ _

/-- What `plan` writes, `verify-plan` accepts offline exactly within the limits of
the plan reader. -/
theorem writtenPlan_verified_iff (libraries : Libraries) (environment : Environment)
    (lawful : libraries.json.Lawful) (arguments : PlanArguments) (result : CommandResult)
    (out : String) (ran : planCommand libraries environment arguments = .ok result)
    (succeeded : result.exitCode = 0) (chosen : arguments.out = some out)
    (apart : out ∉ arguments.inputs.paths) :
    ∃ plan : UpgradePlan, result.environment.files out = some (printedBytes (encode plan)) ∧
      ((∃ lines, verifyPlanCommand libraries result.environment out true = .ok lines) ↔
        (printedBytes (encode plan)).length ≤ maxJsonInputSizeBytes ∧
          (encode plan).depth ≤ libraries.json.recursionLimit) := by
  obtain ⟨plan, printed, verified⟩ := writtenPlan_of_planCommand ran succeeded chosen apart
  refine ⟨plan, printed, ?_⟩
  simp only [verifyPlanCommand, bind_eq_ok_iff, loadPlan_printed_iff lawful printed]
  constructor
  · rintro ⟨_, _, ⟨readable, _⟩, _⟩
    exact readable
  · intro readable
    obtain ⟨lines, accepted⟩ := verified
    exact ⟨lines, plan, ⟨readable, rfl⟩, accepted⟩

end Plans

/-! ### A plan the verifier cannot read -/

namespace Sample

open Classical in
/-- The printed document of at most the given depth that the bytes spell. -/
noncomputable def readPrinted (limit : Nat) (bytes : List UInt8) : Option Json :=
  if printed : ∃ tree : Json, printedBytes tree = bytes ∧ tree.depth ≤ limit then
    some printed.choose
  else none

/-- A reader that counts as `serde_json` does: its limit of 128 levels is reached by the
128th, so 127 are read. -/
noncomputable def printedReader : JsonReader where
  read := readPrinted 127
  recursionLimit := 127

theorem printedBytes_injective {left right : Json}
    (same : printedBytes left = printedBytes right) : left = right :=
  Json.pretty_injective (List.append_cancel_right (utf8_injective same))

theorem printedReader_lawful : printedReader.Lawful where
  read_printed tree := by
    change readPrinted 127 (printedBytes tree) = if tree.depth ≤ 127 then some tree else none
    by_cases shallow : tree.depth ≤ 127
    · have printed : ∃ other : Json, printedBytes other = printedBytes tree ∧ other.depth ≤ 127 :=
        ⟨tree, rfl, shallow⟩
      rw [readPrinted, dif_pos printed, if_pos shallow,
        printedBytes_injective printed.choose_spec.1]
    · have absent : ¬ ∃ other : Json, printedBytes other = printedBytes tree ∧
          other.depth ≤ 127 := by
        rintro ⟨other, same, inside⟩
        exact shallow (printedBytes_injective same ▸ inside)
      rw [readPrinted, dif_neg absent, if_neg shallow]

noncomputable def libraries : Libraries where
  primitives := Sample.primitives
  wasm := releaseReaders
  json := printedReader

/-- The files of an upgrade between two modules, on a network that runs the first. -/
def environment (source target : WasmModule) : Environment where
  files
    | "source.wasm" => some source.bytes
    | "target.wasm" => some target.bytes
    | "source.schema.json" => some (printedBytes (encode (schema 1 "u32" none)))
    | "target.schema.json" => some (printedBytes (encode (schema 2 "u32" none)))
    | "schema-history.json" => some (printedBytes (encode history))
    | _ => none
  writable _ := true
  writing _ := .complete
  networkInfo _ := .finished (printedBytes (.object [
    ("id", .string "cee0302d59844d32bdca915c8203dd44b33fbb7edc19051ea37abedf28ecd472"),
    ("version", .string "27.0.0"),
    ("captive_core_version", .string "stellar-core 27.0.0"),
    ("protocol_version", .number (.integer 27)),
    ("passphrase", .string "Test SDF Network ; September 2015")]))
  contractFetch _ _ := .finished source.bytes
  clock := some 1750000000

/-- The evidence in these files. -/
def evidence (source target : WasmModule) : Evidence where
  source := source.artifact
  target := target.artifact
  sourceSchema := schema 1 "u32" none
  targetSchema := schema 2 "u32" none
  policy := Policy.default
  history := { history with
    sourceSha256 := hexEncode (sha256 (printedBytes (encode history))) }

theorem small_module : ∀ module ∈ releaseModules, module.bytes.length ≤ maxArtifactSizeBytes := by
  decide +kernel

theorem loadSchema_printed {world : Environment} {path : String} (declared : StorageSchema)
    (printed : world.files path = some (printedBytes (encode declared)))
    (small : (printedBytes (encode declared)).length ≤ maxJsonInputSizeBytes)
    (shallow : (encode declared).depth ≤ 127) :
    loadSchema libraries world path = .ok declared := by
  rw [loadSchema, bind_eq_ok_iff]
  exact ⟨_, readBounded_eq_ok_iff.2 ⟨printed, small⟩, withContext_eq_ok_iff.2
    (liftCore_eq_ok_iff.2 ((parseJsonStrict_printed printedReader_lawful).2 ⟨shallow, rfl⟩))⟩

theorem loads {source target : WasmModule} (sourceListed : source ∈ releaseModules)
    (targetListed : target ∈ releaseModules) :
    Loads libraries (environment source target) inputs (evidence source target) where
  source := by
    rw [loadArtifact, bind_eq_ok_iff]
    exact ⟨_, readBounded_eq_ok_iff.2 ⟨rfl, small_module source sourceListed⟩,
      withContext_eq_ok_iff.2 (liftCore_eq_ok_iff.2 (fromWasm_module source sourceListed))⟩
  target := by
    rw [loadArtifact, bind_eq_ok_iff]
    exact ⟨_, readBounded_eq_ok_iff.2 ⟨rfl, small_module target targetListed⟩,
      withContext_eq_ok_iff.2 (liftCore_eq_ok_iff.2 (fromWasm_module target targetListed))⟩
  sourceSchema := loadSchema_printed (schema 1 "u32" none) rfl (by decide +kernel)
    (by decide)
  targetSchema := loadSchema_printed (schema 2 "u32" none) rfl (by decide +kernel)
    (by decide)
  policy := rfl
  history := by
    rw [loadSchemaHistory, bind_eq_ok_iff]
    refine ⟨_, readBounded_eq_ok_iff.2 ⟨rfl, by decide +kernel⟩, withContext_eq_ok_iff.2
      (liftCore_eq_ok_iff.2 ?_)⟩
    rw [SchemaHistory.fromJson, bind_eq_ok_iff]
    exact ⟨history, (parseJsonStrict_printed printedReader_lawful).2 ⟨by decide, rfl⟩, rfl⟩

/-- Plan between the files of `environment`, offline or live. -/
def planArguments (protocolVersion : Option UInt32) : PlanArguments where
  source := inputs.sourceWasm
  target := inputs.targetWasm
  sourceSchema := inputs.sourceSchema
  targetSchema := inputs.targetSchema
  network := "testnet"
  contractId := contractId
  sourceIdentity := "deployer"
  migrationEntrypoint := none
  migrationArgs := []
  invariantProgram := "cargo"
  invariantArgs := ["test", "--workspace"]
  policy := none
  protocolVersion := protocolVersion
  schemaHistory := inputs.schemaHistory
  out := some "plan.json"
  force := false

/-- The plan that the arguments lead to, before its digest is filled in. -/
def planned (source target : WasmModule) (context : ValidationContext) : UpgradePlan :=
  assemblePlan ((evidence source target).report Sample.primitives context) "testnet" contractId
    "deployer" inputs operations

/-- The output file is new, so the plan is written to it. -/
theorem emitPlan_written (source target : WasmModule) (protocolVersion : Option UInt32)
    (plan : UpgradePlan) :
    ∃ result, emitPlan (environment source target) (planArguments protocolVersion) plan = .ok result ∧
      result.environment =
        (environment source target).write "plan.json" (printedBytes (encode plan)) :=
  ⟨_, rfl, rfl⟩

/-- An accepted request leads to the plan. -/
theorem planned_created {source target : WasmModule} {context : ValidationContext}
    (accepted : validatePlanRequest Sample.primitives
      ((evidence source target).report Sample.primitives context) "testnet" contractId "deployer"
      inputs operations = .ok ()) :
    ∃ digest, createPlanWithPaths Sample.primitives
      ((evidence source target).report Sample.primitives context) "testnet" contractId "deployer"
      inputs operations = .ok ((planned source target context).setDigest digest) :=
  created_of_accepted accepted

/-- The command writes the plan when the request is accepted. -/
theorem planCommand_planned {source target : WasmModule} {context : ValidationContext}
    {protocolVersion : Option UInt32} (sourceListed : source ∈ releaseModules)
    (targetListed : target ∈ releaseModules)
    (resolved : resolveValidationContext libraries (environment source target) (some "testnet")
      protocolVersion = .ok context)
    (deployed : makeSureDeployedMatches libraries (environment source target)
      (planArguments protocolVersion)
      ((evidence source target).report Sample.primitives context) = .ok ())
    (accepted : validatePlanRequest Sample.primitives
      ((evidence source target).report Sample.primitives context) "testnet" contractId "deployer"
      inputs operations = .ok ()) :
    ∃ digest result,
      planCommand libraries (environment source target) (planArguments protocolVersion)
        = .ok result ∧ result.exitCode = 0 ∧
      result.environment = (environment source target).write "plan.json"
        (printedBytes (encode ((planned source target context).setDigest digest))) := by
  obtain ⟨digest, created⟩ := planned_created accepted
  obtain ⟨result, emitted, written⟩ := emitPlan_written source target protocolVersion
    ((planned source target context).setDigest digest)
  have ran := planCommand_succeeds_iff.2 ⟨context, evidence source target, none, _, resolved,
    loads sourceListed targetListed, deployed, rfl, created, emitted⟩
  exact ⟨digest, result, ran.1, ran.2, written⟩

/-- Without a live network the protocol is taken from the arguments. -/
theorem planCommand_offline {source target : WasmModule} (sourceListed : source ∈ releaseModules)
    (targetListed : target ∈ releaseModules)
    (accepted : validatePlanRequest Sample.primitives
      ((evidence source target).report Sample.primitives context) "testnet" contractId "deployer"
      inputs operations = .ok ()) :
    ∃ digest result,
      planCommand libraries (environment source target) (planArguments (some 27)) = .ok result ∧
      result.exitCode = 0 ∧
      result.environment = (environment source target).write "plan.json"
        (printedBytes (encode ((planned source target context).setDigest digest))) :=
  planCommand_planned sourceListed targetListed rfl (if_neg nofun) accepted

theorem deepRequest_accepted : validatePlanRequest Sample.primitives
    ((evidence (deepModule "1.0.0") (deepModule "2.0.0")).report Sample.primitives context)
    "testnet" contractId "deployer" inputs operations = .ok () := by
  decide +kernel

/-- The types of the deep releases nest more deeply in a plan than the reader allows. -/
theorem deepPlan_deep :
    127 < (encode (planned (deepModule "1.0.0") (deepModule "2.0.0") context)).depth := by
  decide +kernel

end Sample

/-- The plan of two releases with a deep type is written and cannot be read. -/
theorem writtenPlan_not_readable :
    ¬ ∀ (libraries : Libraries) (environment : Environment) (arguments : PlanArguments)
      (result : CommandResult) (out : String), libraries.json.Lawful →
      libraries.json.recursionLimit = 127 →
      planCommand libraries environment arguments = .ok result → result.exitCode = 0 →
      arguments.out = some out → out ∉ arguments.inputs.paths →
      ∃ lines, verifyPlanCommand libraries result.environment out true = .ok lines := by
  intro readable
  have sourceListed : Sample.deepModule "1.0.0" ∈ Sample.releaseModules := by
    simp [Sample.releaseModules]
  have targetListed : Sample.deepModule "2.0.0" ∈ Sample.releaseModules := by
    simp [Sample.releaseModules]
  obtain ⟨digest, result, ran, succeeded, written⟩ :=
    Sample.planCommand_offline sourceListed targetListed Sample.deepRequest_accepted
  obtain ⟨lines, verified⟩ := readable Sample.libraries _ _ result "plan.json"
    Sample.printedReader_lawful rfl ran succeeded rfl (by decide)
  obtain ⟨plan, loaded, _⟩ := bind_eq_ok_iff.1 verified
  rw [written] at loaded
  obtain ⟨⟨_, shallow⟩, _⟩ :=
    (loadPlan_printed_iff Sample.printedReader_lawful Environment.write_files).1 loaded
  rw [depth_encode_setDigest] at shallow
  exact absurd shallow (Nat.not_le_of_lt Sample.deepPlan_deep)

namespace Sample

theorem release_accepted : validatePlanRequest Sample.primitives
    ((evidence sourceModule targetModule).report Sample.primitives context)
    "testnet" contractId "deployer" inputs operations = .ok () := by
  decide +kernel

end Sample

/-- The plan of a small upgrade, written and read back. -/
theorem sampleWrittenPlan_verified_iff :
    ∃ (result : CommandResult) (plan : UpgradePlan),
      planCommand Sample.libraries (Sample.environment Sample.sourceModule Sample.targetModule)
        (Sample.planArguments (some 27)) = .ok result ∧
      ((∃ lines, verifyPlanCommand Sample.libraries result.environment "plan.json" true = .ok lines) ↔
        (printedBytes (encode plan)).length ≤ maxJsonInputSizeBytes ∧
          (encode plan).depth ≤ Sample.libraries.json.recursionLimit) := by
  obtain ⟨digest, result, ran, succeeded, _⟩ :=
    Sample.planCommand_offline Sample.sourceModule_listed Sample.targetModule_listed Sample.release_accepted
  obtain ⟨plan, _, readable⟩ := writtenPlan_verified_iff Sample.libraries _
    Sample.printedReader_lawful _ result "plan.json" ran succeeded rfl (by decide)
  exact ⟨result, plan, ran, readable⟩

end SorobanUpgrades
