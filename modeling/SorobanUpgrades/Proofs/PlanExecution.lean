/-
Module: SorobanUpgrades.Proofs.PlanExecution
Purpose: The execution of the steps of a plan in a workspace, and the evidence
  files it leaves as they were.
Trusted boundary: human-reviewed spec
Main exports: Workspace, executeStep, execute, PreservesEvidence,
  execution_preserves_evidence_iff
-/
import SorobanUpgrades.Proofs.StepCommands
import SorobanUpgrades.Proofs.PlanRoundTrip

namespace SorobanUpgrades

open Outcome (bind_eq_ok_iff seq_eq_ok_iff)

/-! ### Execution

A path is resolved to the file it names, so two paths may name one file. A step with
an output file writes what it receives there, and the upload sends the file it names. -/

/-- The files of the release workspace and the modules sent to the network. -/
structure Workspace (File : Type) where
  files : File → Option (List UInt8)
  uploaded : List (List UInt8)

/-- The value of an option in a list of options with values. -/
def optionValue (name : String) : List String → Option String
  | option :: value :: rest => if option = name then some value else optionValue name rest
  | _ => none

/-- The words that follow an occurrence of a flag. -/
def wordsAfter (flag : String) : List String → List String
  | word :: next :: rest =>
      if word = flag then next :: wordsAfter flag (next :: rest) else wordsAfter flag (next :: rest)
  | _ => []

/-- The files a step writes with `--out-file`. A fetch takes options with values. The
command line of an invariant check is free. What an invocation passes behind `--`
belongs to the contract. -/
def PlanStep.outFiles (step : PlanStep) : List String :=
  match step.kind with
  | .verifyCurrentExecutable | .verifyExecutable =>
      (optionValue "--out-file" (step.arguments.drop 2)).toList
  | .verifyInvariants => wordsAfter "--out-file" step.arguments
  | .uploadTargetWasm | .simulateUpgrade | .executeUpgrade | .executeMigration => []

/-- The file the upload step sends. -/
def PlanStep.uploadFile (step : PlanStep) : Option String :=
  if step.kind = .uploadTargetWasm then argumentAfter step.arguments "--wasm" else none

section Execution

variable {File : Type} [DecidableEq File] (locate : String → File)
  (fetched : UInt32 → List UInt8)

/-- Run one step. The step at a position receives `fetched position`. -/
def executeStep (workspace : Workspace File) (step : PlanStep) : Workspace File where
  files := fun file =>
    if file ∈ step.outFiles.map locate then some (fetched step.position) else workspace.files file
  uploaded := workspace.uploaded ++
    (step.uploadFile.bind fun path => workspace.files (locate path)).toList

/-- The workspace after the steps. -/
def execute (files : File → Option (List UInt8)) (steps : List PlanStep) : Workspace File :=
  steps.foldl (executeStep locate fetched) ⟨files, []⟩

variable {locate fetched} {steps : List PlanStep} {workspace : Workspace File} {file : File}

theorem executeStep_files (step : PlanStep) :
    (executeStep locate fetched workspace step).files file =
      if file ∈ step.outFiles.map locate then some (fetched step.position)
      else workspace.files file := rfl

/-- A file that no step writes keeps its contents. -/
theorem files_foldl_of_unwritten
    (unwritten : ∀ step ∈ steps, ∀ path ∈ step.outFiles, locate path ≠ file) :
    (steps.foldl (executeStep locate fetched) workspace).files file = workspace.files file := by
  induction steps generalizing workspace with
  | nil => rfl
  | cons step steps inductionHypothesis =>
      obtain ⟨first, rest⟩ := List.forall_mem_cons.1 unwritten
      have outside : file ∉ step.outFiles.map locate := by
        intro written
        obtain ⟨path, listed, same⟩ := List.mem_map.1 written
        exact first path listed same
      rw [List.foldl_cons, inductionHypothesis rest, executeStep_files, if_neg outside]

/-- When every step receives one answer, a written file holds it. -/
theorem files_foldl_of_written {answer : List UInt8}
    (written : workspace.files file = some answer ∨
      ∃ step ∈ steps, ∃ path ∈ step.outFiles, locate path = file) :
    (steps.foldl (executeStep locate fun _ => answer) workspace).files file = some answer := by
  induction steps generalizing workspace with
  | nil =>
      rcases written with already | ⟨step, listed, _⟩
      · exact already
      · cases listed
  | cons step steps inductionHypothesis =>
      rw [List.foldl_cons]
      apply inductionHypothesis
      by_cases here : file ∈ step.outFiles.map locate
      · left
        rw [executeStep_files, if_pos here]
      · rcases written with already | ⟨writer, listed, path, named, located⟩
        · left
          rw [executeStep_files, if_neg here]
          exact already
        · right
          rcases List.mem_cons.1 listed with rfl | later
          · exact absurd (List.mem_map.2 ⟨path, named, located⟩) here
          · exact ⟨writer, later, path, named, located⟩

/-- Uploads from a file that no step writes send its contents. -/
theorem uploaded_foldl_of_unwritten {path : String} {bytes : List UInt8}
    (stored : workspace.files (locate path) = some bytes)
    (source : ∀ step ∈ steps, ∀ other, step.uploadFile = some other → other = path)
    (unwritten : ∀ step ∈ steps, ∀ other ∈ step.outFiles, locate other ≠ locate path) :
    (steps.foldl (executeStep locate fetched) workspace).uploaded =
      workspace.uploaded ++ (steps.filterMap (·.uploadFile)).map fun _ => bytes := by
  induction steps generalizing workspace with
  | nil => simp
  | cons step steps inductionHypothesis =>
      obtain ⟨firstSource, restSource⟩ := List.forall_mem_cons.1 source
      obtain ⟨first, rest⟩ := List.forall_mem_cons.1 unwritten
      have kept : (executeStep locate fetched workspace step).files (locate path) = some bytes := by
        rw [← stored]
        change ([step].foldl (executeStep locate fetched) workspace).files (locate path) = _
        exact files_foldl_of_unwritten (by simpa using first)
      rw [List.foldl_cons, inductionHypothesis kept restSource rest]
      cases sends : step.uploadFile with
      | none => simp [executeStep, sends]
      | some other =>
          obtain rfl := firstSource other sends
          simp [executeStep, sends, stored]

end Execution

/-! ### The files the steps of a plan touch -/

section Steps

variable {report : ValidationReport} {network contractId sourceIdentity : String}
  {inputs : PlanInputPaths} {operations : PlanOperations}

/-- The two files the planner names itself, and the output files of the invariant check. -/
def writtenFiles (operations : PlanOperations) : List String :=
  ["current.wasm", "deployed.wasm"] ++
    wordsAfter "--out-file" operations.invariantCheck.arguments

variable (report network contractId sourceIdentity inputs operations) in
/-- The steps write these files in this order. -/
theorem flatMap_outFiles_planSteps :
    (planSteps report network contractId sourceIdentity inputs operations).flatMap (·.outFiles) =
      writtenFiles operations := by
  have fetch : ∀ outFile,
      optionValue "--out-file" ((fetchArguments contractId network outFile).drop 2) =
        some outFile := by
    intro outFile
    simp [fetchArguments, optionValue]
  cases migration : operations.migration <;>
    simp [planSteps, migrationSteps, PlanStep.new, PlanStep.outFiles, writtenFiles, migration,
      fetch, -List.drop_succ_cons]

theorem forall_outFiles_planSteps_iff (property : String → Prop) :
    (∀ step ∈ planSteps report network contractId sourceIdentity inputs operations,
      ∀ path ∈ step.outFiles, property path) ↔
    ∀ path ∈ writtenFiles operations, property path := by
  rw [← flatMap_outFiles_planSteps report network contractId sourceIdentity inputs operations]
  simp only [List.mem_flatMap, forall_exists_index, and_imp]
  exact ⟨fun every path step planned written => every step planned path written,
    fun every step planned path written => every path step planned written⟩

variable (report network contractId sourceIdentity inputs operations) in
/-- The plan uploads once, from the target path. -/
theorem filterMap_uploadFile_planSteps :
    (planSteps report network contractId sourceIdentity inputs operations).filterMap
      (·.uploadFile) = [inputs.targetWasm] := by
  have named : argumentAfter (uploadArguments inputs.targetWasm sourceIdentity network) "--wasm" =
      some inputs.targetWasm := rfl
  cases migration : operations.migration <;>
    simp [planSteps, migrationSteps, PlanStep.new, PlanStep.uploadFile, migration, named]

end Steps

/-! ### The evidence of a plan -/

section Evidence

variable {File : Type} [DecidableEq File] (primitives : Primitives) (locate : String → File)
  (files : File → Option (List UInt8)) (plan : UpgradePlan)

/-- The workspace holds the evidence the plan is bound to. -/
structure MatchesPlan : Prop where
  present : ∀ path ∈ plan.inputs.paths, files (locate path) ≠ none
  source : ∃ bytes, files (locate plan.inputs.sourceWasm) = some bytes ∧
    primitives.hexEncode (primitives.sha256 bytes) = plan.sourceWasmSha256
  target : ∃ bytes, files (locate plan.inputs.targetWasm) = some bytes ∧
    primitives.hexEncode (primitives.sha256 bytes) = plan.targetWasmSha256

/-- Executing the plan leaves its evidence alone, uploads the target module and
keeps the rollback candidate. -/
structure PreservesEvidence (fetched : UInt32 → List UInt8) : Prop where
  unchanged : ∀ path ∈ plan.inputs.paths,
    (execute locate fetched files plan.steps).files (locate path) = files (locate path)
  uploadsTarget : ∃ bytes, (execute locate fetched files plan.steps).uploaded = [bytes] ∧
    primitives.hexEncode (primitives.sha256 bytes) = plan.targetWasmSha256
  keepsRollback : ∃ bytes,
    (execute locate fetched files plan.steps).files (locate plan.inputs.sourceWasm) =
      some bytes ∧
    primitives.hexEncode (primitives.sha256 bytes) = plan.rollbackWasmSha256

end Evidence

/-- Whatever the network answers, executing a created plan preserves its evidence
exactly when no path of the plan names a file that a step writes. -/
theorem execution_preserves_evidence_iff {File : Type} [DecidableEq File]
    (primitives : Primitives) (report : ValidationReport)
    (network contractId sourceIdentity : String) (inputs : PlanInputPaths)
    (operations : PlanOperations) (plan : UpgradePlan)
    (created : createPlanWithPaths primitives report network contractId sourceIdentity inputs
      operations = .ok plan)
    (locate : String → File) (files : File → Option (List UInt8))
    (matching : MatchesPlan primitives locate files plan) :
    (∀ fetched, PreservesEvidence primitives locate files plan fetched) ↔
    ∀ path ∈ inputs.paths, ∀ written ∈ writtenFiles operations,
      locate path ≠ locate written := by
  obtain ⟨_, _, digest, _, rfl⟩ := createPlanWithPaths_eq_ok_iff.1 created
  constructor
  · intro preserves path listed written writes same
    -- An answer that the overwritten file does not hold shows the loss.
    obtain ⟨bytes, stored⟩ := Option.ne_none_iff_exists'.1 (matching.present path listed)
    have kept := (preserves fun _ => 0 :: bytes).unchanged path listed
    rw [← flatMap_outFiles_planSteps report network contractId sourceIdentity inputs operations]
      at writes
    obtain ⟨step, planned, named⟩ := List.mem_flatMap.1 writes
    have lost : (execute locate (fun _ => 0 :: bytes) files (planSteps report network contractId
        sourceIdentity inputs operations)).files (locate path) = some (0 :: bytes) :=
      files_foldl_of_written (Or.inr ⟨step, planned, written, named, same.symm⟩)
    have equal : some (0 :: bytes) = some bytes := lost.symm.trans (kept.trans stored)
    exact List.cons_ne_self _ _ (Option.some.inj equal)
  · intro apart fetched
    have unwritten : ∀ path ∈ inputs.paths,
        ∀ step ∈ planSteps report network contractId sourceIdentity inputs operations,
          ∀ other ∈ step.outFiles, locate other ≠ locate path := by
      intro path listed
      apply (forall_outFiles_planSteps_iff fun other => locate other ≠ locate path).2
      intro written writes same
      exact apart path listed written writes same.symm
    have unchanged : ∀ path ∈ inputs.paths,
        (execute locate fetched files (planSteps report network contractId sourceIdentity inputs
          operations)).files (locate path) = files (locate path) :=
      fun path listed => files_foldl_of_unwritten (unwritten path listed)
    have sourceListed : inputs.sourceWasm ∈ inputs.paths := by simp [PlanInputPaths.paths]
    have targetListed : inputs.targetWasm ∈ inputs.paths := by simp [PlanInputPaths.paths]
    obtain ⟨target, targetStored, targetHash⟩ := matching.target
    obtain ⟨source, sourceStored, sourceHash⟩ := matching.source
    have uploaded : (execute locate fetched files (planSteps report network contractId
        sourceIdentity inputs operations)).uploaded = [target] := by
      have uploads := filterMap_uploadFile_planSteps report network contractId sourceIdentity
        inputs operations
      rw [execute, uploaded_foldl_of_unwritten targetStored _ (unwritten _ targetListed), uploads]
      · rfl
      · intro step planned other sends
        have listed := List.mem_filterMap.2 ⟨step, planned, sends⟩
        rw [uploads] at listed
        exact List.mem_singleton.1 listed
    exact ⟨unchanged, ⟨target, uploaded, targetHash⟩,
      ⟨source, (unchanged _ sourceListed).trans sourceStored, sourceHash⟩⟩

namespace Sample

theorem hash_module {module : WasmModule} (listed : module ∈ releaseModules) :
    Sample.primitives.hexEncode (Sample.primitives.sha256 module.bytes) =
      module.artifact.sha256 := by
  obtain ⟨_, parts⟩ := artifactParts_of_fromWasm (fromWasm_module module listed)
  exact parts.hashed.symm

/-- The sample inputs with the target module at another path. -/
def inputsFrom (targetPath : String) : PlanInputPaths := { inputs with targetWasm := targetPath }

/-- The sample files with the target module at that path. -/
def directory (source target : WasmModule) (targetPath path : String) : Option (List UInt8) :=
  if path = targetPath then some target.bytes else (environment source target).files path

theorem matchesPlan {source target : WasmModule} (sourceListed : source ∈ releaseModules)
    (targetListed : target ∈ releaseModules) {targetPath : String}
    (apart : targetPath ≠ "source.wasm") (digest : String) :
    MatchesPlan Sample.primitives id (directory source target targetPath)
      ((assemblePlan ((evidence source target).report Sample.primitives context) "testnet"
        contractId "deployer" (inputsFrom targetPath) operations).setDigest digest) where
  present := by
    intro path listed
    change path ∈ (inputsFrom targetPath).paths at listed
    simp only [PlanInputPaths.paths, inputsFrom, inputs, Option.toList_none, List.append_nil,
      List.mem_cons, List.not_mem_nil, or_false] at listed
    change directory source target targetPath path ≠ none
    unfold directory
    split
    · exact Option.some_ne_none _
    · rcases listed with rfl | rfl | rfl | rfl | rfl
      · exact Option.some_ne_none _
      · contradiction
      · exact Option.some_ne_none _
      · exact Option.some_ne_none _
      · exact Option.some_ne_none _
  source := ⟨source.bytes, if_neg apart.symm, hash_module sourceListed⟩
  target := ⟨target.bytes, if_pos rfl, hash_module targetListed⟩

/-- A request that keeps the target module in the file of the first fetch. -/
theorem fetchedTarget_accepted : validatePlanRequest Sample.primitives
    ((evidence sourceModule targetModule).report Sample.primitives context)
    "testnet" contractId "deployer" (inputsFrom "current.wasm") operations = .ok () := by
  decide +kernel

end Sample

theorem sampleExecution_preserves_evidence : ∃ plan : UpgradePlan,
    ∀ fetched, PreservesEvidence Sample.primitives id
      (Sample.directory Sample.sourceModule Sample.targetModule "target.wasm") plan fetched := by
  obtain ⟨digest, created⟩ := Sample.planned_created Sample.release_accepted
  exact ⟨_, (execution_preserves_evidence_iff Sample.primitives _ _ _ _ _ _ _ created id _
    (Sample.matchesPlan Sample.sourceModule_listed Sample.targetModule_listed (by decide) digest)).2 (by decide)⟩

/-- A target module named `current.wasm` is overwritten with the deployed source
module, which the next step then uploads. -/
theorem fetch_overwrites_target : ¬ ∀ (plan : UpgradePlan) (fetched : UInt32 → List UInt8),
    createPlanWithPaths Sample.primitives
      ((Sample.evidence Sample.sourceModule Sample.targetModule).report Sample.primitives
        Sample.context) "testnet" Sample.contractId "deployer"
      (Sample.inputsFrom "current.wasm") Sample.operations = .ok plan →
    MatchesPlan Sample.primitives id
      (Sample.directory Sample.sourceModule Sample.targetModule "current.wasm") plan →
    PreservesEvidence Sample.primitives id
      (Sample.directory Sample.sourceModule Sample.targetModule "current.wasm") plan fetched := by
  intro every
  obtain ⟨digest, created⟩ := Sample.created_of_accepted Sample.fetchedTarget_accepted
  have kept := (every _ (fun _ => Sample.sourceModule.bytes) created
    (Sample.matchesPlan Sample.sourceModule_listed Sample.targetModule_listed (by decide) digest)).unchanged "current.wasm"
    (by simp [PlanInputPaths.paths, Sample.inputsFrom, UpgradePlan.setDigest, assemblePlan])
  have written : "current.wasm" ∈ writtenFiles Sample.operations := by simp [writtenFiles]
  rw [← flatMap_outFiles_planSteps
    ((Sample.evidence Sample.sourceModule Sample.targetModule).report Sample.primitives
      Sample.context) "testnet" Sample.contractId "deployer" (Sample.inputsFrom "current.wasm")
    Sample.operations] at written
  obtain ⟨step, planned, named⟩ := List.mem_flatMap.1 written
  have lost : (execute id (fun _ => Sample.sourceModule.bytes)
      (Sample.directory Sample.sourceModule Sample.targetModule "current.wasm") _).files
      "current.wasm" = some Sample.sourceModule.bytes :=
    files_foldl_of_written (Or.inr ⟨step, planned, "current.wasm", named, rfl⟩)
  have equal : some Sample.sourceModule.bytes = some Sample.targetModule.bytes :=
    lost.symm.trans (kept.trans (if_pos rfl))
  revert equal
  decide +kernel

end SorobanUpgrades
