/-
Module: SorobanUpgrades.Proofs.MigrationSteps
Purpose: A plan for a storage layout change runs the migration that the target
  manifest declares for every changed key.
Trusted boundary: none
Main exports: ChangedLayout, storageMigrationRequired_of_changed,
  layoutChange_runs_migration
-/
import SorobanUpgrades.Proofs.CanonicalInterfaces
import SorobanUpgrades.Proofs.SpecExtraction
import SorobanUpgrades.Proofs.SchemaVersions
import SorobanUpgrades.Proofs.StepCommands

namespace SorobanUpgrades

open Outcome (bind_eq_ok_iff seq_eq_ok_iff)

/-- The two manifests declare one key with different layouts. -/
structure ChangedLayout (before after : StorageSchema) (old new : StorageEntry) : Prop where
  oldListed : old ∈ before.entries
  newListed : new ∈ after.entries
  sameKey : new.key = old.key
  differs : ¬ SameLayout old new

section Report

variable {primitives : Primitives} {source target : Artifact} {before after : StorageSchema}
  {policy : Policy} {context : ValidationContext} {schemaHistory : Option SchemaHistory}
  {old new : StorageEntry}

/-- In a safe report a changed key declares a migration with an entrypoint. -/
theorem migration_of_changed
    (safe : (validateWithHistory primitives source target (some before) (some after) policy
      context schemaHistory).safe = true)
    (changed : ChangedLayout before after old new) :
    before.declared[old.key]? = some old ∧ after.declared[old.key]? = some new ∧
      ∃ migration entrypoint, new.migration = some migration ∧
        migration.entrypoint = some entrypoint := by
  rw [safe_iff_unblocked, unblocked_pushedFindings_iff] at safe
  obtain ⟨_, _, _, _, _, _, _, _, _, storage, _⟩ := safe
  rw [checkStorageEvidence, unblocked_append, unblocked_validateSchemaManifests_iff,
    unblocked_compareStorageSchemas_iff] at storage
  obtain ⟨⟨sourceManifest, targetManifest, migrations⟩, allowed, _⟩ := storage
  have oldDeclared :=
    (StorageSchema.declared_eq_some_iff sourceManifest.distinct).2 ⟨changed.oldListed, rfl⟩
  have newDeclared := (StorageSchema.declared_eq_some_iff targetManifest.distinct).2
    ⟨changed.newListed, changed.sameKey⟩
  obtain ⟨entry, found, layout⟩ := allowed old.key old oldDeclared
  rw [newDeclared, Option.some.injEq] at found
  subst found
  rcases layout with same | declared
  · exact absurd (layoutDiffers_eq_false_iff.1 same) changed.differs
  · obtain ⟨migration, present⟩ := Option.isSome_iff_exists.1 declared
    obtain ⟨entrypoint, named, _⟩ :=
      (migrations new changed.newListed migration present).callable
    exact ⟨oldDeclared, newDeclared, migration, entrypoint, present, named⟩

/-- A safe report of a changed key asks for a migration. -/
theorem storageMigrationRequired_of_changed
    (safe : (validateWithHistory primitives source target (some before) (some after) policy
      context schemaHistory).safe = true)
    (changed : ChangedLayout before after old new) :
    (validateWithHistory primitives source target (some before) (some after) policy context
      schemaHistory).storageMigrationRequired = true := by
  obtain ⟨oldDeclared, newDeclared, migration, _, present, _⟩ := migration_of_changed safe changed
  have differs : layoutDiffers old new = true := by
    rw [← Bool.not_eq_false, layoutDiffers_eq_false_iff]
    exact changed.differs
  obtain ⟨finding, warned, code⟩ : ∃ finding ∈ compareStorageEntry after.declared old.key old,
      finding.code = "STO002" := by
    rw [compareStorageEntry, newDeclared]
    simp only [differs, if_true, present, List.mem_singleton]
    exact ⟨_, rfl, rfl⟩
  have compared : finding ∈ compareStorageSchemas before after := by
    apply List.mem_append_left
    exact List.mem_flatMap.2 ⟨(old.key, old), OrderedMap.mem_toList_iff.2 oldDeclared, warned⟩
  rw [ValidationReport.storageMigrationRequired, List.any_eq_true]
  refine ⟨finding, mem_findings_iff.2 ?_, beq_iff_eq.2 code⟩
  simp only [pushedFindings, checkStorageEvidence, List.mem_append]
  exact Or.inl (Or.inr (Or.inr compared))

end Report

/-! ### The selected migration -/

/-- Where a migration is required, the selected call is the one that every entry declares. -/
theorem selected_of_required {report : ValidationReport} {migration : Option MigrationCall}
    (selected : validateMigrationSelection report migration = .ok ())
    (required : report.storageMigrationRequired = true) :
    ∃ call, migration = some call ∧ ∀ schema, report.targetSchema = some schema →
      ∀ entry ∈ schema.entries, ∀ declared, entry.migration = some declared →
        ∀ entrypoint, declared.entrypoint = some entrypoint → entrypoint = call.entrypoint := by
  rw [validateMigrationSelection] at selected
  simp only [seq_eq_ok_iff, refuse_eq_ok_iff, required, true_and, not_not] at selected
  obtain ⟨present, same⟩ := selected
  obtain ⟨call, rfl⟩ := Option.ne_none_iff_exists'.1 present
  refine ⟨call, rfl, fun schema given entry listed declared migrates entrypoint named => ?_⟩
  have member : entrypoint ∈ declaredEntrypoints report.targetSchema := by
    rw [declaredEntrypoints, OrderedSet.mem_ofList_iff, given]
    exact List.mem_filterMap.2 ⟨entry, listed, by simp [migrates, named]⟩
  rw [same, selectedEntrypoints, OrderedSet.mem_ofList_iff] at member
  simpa using member

/-- The inputs of a function, by the names its canonical value gives them. -/
def InterfaceEntry.inputNames (function : InterfaceEntry) : Option (List String) :=
  function.inputs.bind (·.mapM inputName)

/-- An accepted call supplies one argument for each input of the function. -/
theorem arguments_of_validateCallArguments {primitives : Primitives} {target : Artifact}
    {entrypoint callKind : String} {arguments : StringMap String}
    (accepted : validateCallArguments primitives target entrypoint arguments callKind = .ok ()) :
    ∃ function names, target.functions[entrypoint]? = some function ∧
      function.inputNames = some names ∧ ∀ name, name ∈ arguments.keys ↔ name ∈ names := by
  rw [validateCallArguments] at accepted
  cases stored : target.functions[entrypoint]? with
  | none =>
      rw [stored] at accepted
      cases accepted
  | some function =>
      rw [stored] at accepted
      simp only [↓bind_eq_ok_iff, Except.ok.injEq] at accepted
      obtain ⟨_, rfl, inputs, read, expected, named, _, same, _⟩ := accepted
      rw [refuse_eq_ok_iff, not_not] at same
      have listed : function.inputs = some inputs := by
        unfold readInputs at read
        split at read
        · rename_i present
          cases read
          exact present
        · cases read
      unfold inputNames at named
      split at named
      · rename_i names collected
        cases named
        refine ⟨function, names, rfl, ?_, fun name => ?_⟩
        · rw [InterfaceEntry.inputNames, listed]
          exact collected
        · rw [← OrderedSet.mem_ofList_iff, ← same, OrderedSet.mem_ofList_iff]
      · cases named

/-- A function input is named in its canonical value. -/
theorem inputName_canonical (texts : XdrTexts) (doc name : XdrString) (type : ScSpecTypeDef) :
    inputName (stripDocumentation (encodeTypedMember texts doc name type)).normalize =
      some (texts.escaped name) := by
  rw [inputName, stripped_typedMember, Json.get?_normalize_object (by simp),
    List.lookup_cons_self]
  rfl

/-- The canonical value of a function names the inputs of its specification entry. -/
theorem inputNames_interfaceEntry (texts : XdrTexts) (function : ScSpecFunctionV0) :
    (ScSpecEntry.interfaceEntry texts (.functionV0 function)).inputNames =
      some (function.inputs.map (texts.escaped ·.name)) := by
  have inputs : (ScSpecEntry.interfaceEntry texts (.functionV0 function)).inputs =
      some (function.inputs.map fun input => (stripDocumentation
        (encodeTypedMember texts input.doc input.name input.type)).normalize) := by
    rw [InterfaceEntry.inputs, ScSpecEntry.interfaceEntry, canonicalizeSpecEntry_eq,
      Json.toValue_json, stripped_function, Json.pointer_normalize_object (by simp),
      List.lookup_cons_self, Option.bind_some, Json.pointer_normalize_object (by simp)]
    simp [List.lookup, Json.pointer, Json.normalize_array, Json.asArray]
  rw [InterfaceEntry.inputNames, inputs, Option.bind_some, List.mapM_map]
  exact Outcome.mapM_eq_some_map fun input _ =>
    inputName_canonical texts input.doc input.name input.type

/-! ### The migration step -/

section Plans

variable {report : ValidationReport} {network contractId sourceIdentity : String}
  {inputs : PlanInputPaths} {operations : PlanOperations} {call : MigrationCall}

/-- The migration runs after the upgrade and before the new module is verified. -/
theorem kinds_of_migration (migrates : operations.migration = some call) :
    (planSteps report network contractId sourceIdentity inputs operations).map (·.kind) =
      [.verifyCurrentExecutable, .uploadTargetWasm, .simulateUpgrade, .executeUpgrade,
        .executeMigration, .verifyExecutable, .verifyInvariants] := by
  simp [planSteps, migrationSteps, PlanStep.new, migrates]

end Plans

/-- A plan for a layout change has one migration step, between the upgrade and the
verification. It calls the entrypoint that every changed key declares, with one
argument for each of its inputs. For an extracted target these are the inputs of
the function in the specification. -/
theorem layoutChange_runs_migration (primitives : Primitives) (source target : Artifact)
    (before after : StorageSchema) (policy : Policy) (context : ValidationContext)
    (schemaHistory : Option SchemaHistory) (network contractId sourceIdentity : String)
    (inputs : PlanInputPaths) (operations : PlanOperations) (plan : UpgradePlan)
    (created : createPlanWithPaths primitives
      (validateWithHistory primitives source target (some before) (some after) policy context
        schemaHistory)
      network contractId sourceIdentity inputs operations = .ok plan)
    (change : ∃ old new, ChangedLayout before after old new) :
    ∃ (call : MigrationCall) (function : InterfaceEntry) (names : List String) (step : PlanStep),
      plan.steps.map (·.kind) = [.verifyCurrentExecutable, .uploadTargetWasm, .simulateUpgrade,
        .executeUpgrade, .executeMigration, .verifyExecutable, .verifyInvariants] ∧
      plan.stepsOfKind .executeMigration = [step] ∧ step.program = "stellar" ∧
      step.arguments = ["contract", "invoke", "--id", plan.contractId,
        "--source-account", plan.sourceIdentity, "--network", plan.network,
        "--", call.entrypoint] ++
        (call.arguments.toList.flatMap fun (name, value) => [s!"--{name}", value]) ∧
      (∀ old new, ChangedLayout before after old new → ∃ declared,
        new.migration = some declared ∧ declared.entrypoint = some call.entrypoint) ∧
      target.functions[call.entrypoint]? = some function ∧
      function.inputNames = some names ∧ (∀ name, name ∈ call.arguments.keys ↔ name ∈ names) ∧
      ∀ texts spec inventory, extractSpec texts spec = .ok inventory →
        target.functions = inventory.functions →
        ∃ declared, .functionV0 declared ∈ spec ∧
          texts.toUtf8StringLossy declared.name = call.entrypoint ∧
          names = declared.inputs.map (texts.escaped ·.name) := by
  obtain ⟨accepted, _, digest, _, rfl⟩ := createPlanWithPaths_eq_ok_iff.1 created
  have safe : (validateWithHistory primitives source target (some before) (some after) policy
      context schemaHistory).safe = true := by
    have passed := accepted.safe
    rw [not_or, Bool.not_eq_false] at passed
    exact passed.1
  obtain ⟨_, _, changed⟩ := change
  obtain ⟨call, migrates, declares⟩ := selected_of_required accepted.migrationSelection
    (storageMigrationRequired_of_changed safe changed)
  have called := accepted.migrationCall
  rw [migrates] at called
  obtain ⟨function, names, exported, named, supplied⟩ := arguments_of_validateCallArguments called
  have steps := stepsOfKind_migration_assemblePlan (validateWithHistory primitives source target
    (some before) (some after) policy context schemaHistory) network contractId sourceIdentity
    inputs operations
  rw [migrates] at steps
  refine ⟨call, function, names, _, kinds_of_migration migrates, steps, rfl, rfl, ?_, exported,
    named, supplied, ?_⟩
  · intro old new other
    obtain ⟨_, _, declared, entrypoint, present, name⟩ := migration_of_changed safe other
    have same := declares after rfl new other.newListed declared present entrypoint name
    exact ⟨declared, present, same ▸ name⟩
  · intro texts spec inventory extracted same
    have inventoried : inventory.functions[call.entrypoint]? = some function := same ▸ exported
    obtain ⟨declared, listed, own, rfl⟩ := function_of_extracted extracted inventoried
    rw [inputNames_interfaceEntry, Option.some.injEq] at named
    exact ⟨declared, listed, own, named.symm⟩

namespace Sample

/-- The sample operations with the migration that the second release declares. -/
def migration : MigrationCall where
  entrypoint := "migrate"
  arguments := Std.ExtTreeMap.ofList [("operator", "deployer")] compare

def migratedReport : ValidationReport :=
  validateWithHistory primitives (migratedReleases 0) (migratedReleases 1)
    (some (migratedSchemas 2 0)) (some (migratedSchemas 2 1)) Policy.default context
    (some history)

theorem migration_created : ∃ digest, createPlanWithPaths primitives migratedReport "testnet"
    contractId "deployer" inputs { operations with migration := some migration } =
      .ok ((assemblePlan migratedReport "testnet" contractId "deployer" inputs
        { operations with migration := some migration }).setDigest digest) :=
  created_of_accepted (by decide +kernel)

end Sample

/-- The sample plan runs the migration of its changed key. -/
theorem sampleLayoutChange_runs_migration :
    ∃ plan : UpgradePlan, (∃ step, plan.stepsOfKind .executeMigration = [step]) ∧
      createPlanWithPaths Sample.primitives Sample.migratedReport "testnet" Sample.contractId
        "deployer" Sample.inputs { Sample.operations with migration := some Sample.migration } =
          .ok plan := by
  obtain ⟨_, created⟩ := Sample.migration_created
  obtain ⟨_, _, _, step, _, steps, _⟩ := layoutChange_runs_migration Sample.primitives
    (Sample.migratedReleases 0) (Sample.migratedReleases 1) (Sample.migratedSchemas 2 0)
    (Sample.migratedSchemas 2 1) Policy.default Sample.context (some Sample.history) "testnet"
    Sample.contractId "deployer" Sample.inputs
    { Sample.operations with migration := some Sample.migration } _ created
    ⟨_, _, List.mem_cons_self, List.mem_cons_self, rfl, by decide⟩
  exact ⟨_, ⟨step, steps⟩, created⟩

end SorobanUpgrades
