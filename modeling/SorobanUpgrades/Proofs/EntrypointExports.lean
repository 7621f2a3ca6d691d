/-
Module: SorobanUpgrades.Proofs.EntrypointExports
Purpose: Which entrypoints a safe report relies on, and when the target module
  exports them.
Trusted boundary: none
Main exports: artifactParts_of_fromWasm, contains_exportCallEvidence_iff, Relied,
  exists_safe_migration, reliedEntrypoints_exported_iff
-/
import SorobanUpgrades.Proofs.StrictParsing
import SorobanUpgrades.Proofs.DefaultPolicy

namespace SorobanUpgrades

open Outcome (bind_eq_ok_iff seq_eq_ok_iff mapM_eq_ok_iff)

variable {primitives : Primitives} {readers : WasmReaders}

/-! ### Reading an artifact -/

/-- The parts an artifact is read from. -/
structure ArtifactParts (primitives : Primitives) (readers : WasmReaders) (bytes : List UInt8)
    (payloads : List Payload) (artifact : Artifact) : Prop where
  small : bytes.length ≤ maxArtifactSizeBytes
  parsed : readers.parseAll bytes = some payloads
  hashed : artifact.sha256 = primitives.hexEncode (primitives.sha256 bytes)
  described : requireSingleContractSpecSection payloads = .ok ()
  environment : readContractEnvMetadata readers payloads =
    .ok (artifact.envProtocolVersion, artifact.envPreRelease)
  metadata : readContractMetadata readers payloads = .ok artifact.metadata
  hostImports : readHostImports payloads = .ok artifact.hostImports
  calls : inspectExportCallEvidence payloads = .ok artifact.exportCallEvidence
  extracted : ∃ spec inventory, readers.specFromWasm bytes = some spec ∧
    extractSpec readers.texts spec = .ok inventory ∧ artifact.functions = inventory.functions ∧
    artifact.events = inventory.events ∧ artifact.userTypes = inventory.userTypes ∧
    artifact.publicTypeBoundaries = inventory.publicTypeBoundaries.toList ∧
    artifact.typeReferences = inventory.typeReferences.toList

/-- A read artifact comes from a parsed module. -/
theorem artifactParts_of_fromWasm {bytes : List UInt8} {artifact : Artifact}
    (built : Artifact.fromWasm primitives readers bytes = .ok artifact) :
    ∃ payloads, ArtifactParts primitives readers bytes payloads artifact := by
  rw [Artifact.fromWasm, seq_eq_ok_iff] at built
  obtain ⟨small, built⟩ := built
  rw [bind_eq_ok_iff] at built
  obtain ⟨payloads, parsed, built⟩ := built
  rw [seq_eq_ok_iff] at built
  obtain ⟨described, built⟩ := built
  simp only [bind_eq_ok_iff, readOr_eq_ok_iff] at parsed built
  obtain ⟨⟨protocol, preRelease⟩, environment, spec, specified, metadata, read, hostImports,
    imported, calls, inspected, inventory, extracted, result⟩ := built
  cases result
  refine ⟨payloads, ?_, parsed, rfl, described, environment, read, imported, inspected,
    spec, inventory, specified, extracted, rfl, rfl, rfl, rfl, rfl⟩
  by_contra large
  rw [requireArtifactSize, if_pos (Nat.lt_of_not_le large)] at small
  cases small

/-! ### Exported functions -/

/-- The module exports a function under the name. -/
def Exports (payloads : List Payload) (name : String) : Prop :=
  (functionExports payloads).contains name = true

/-- The call evidence has one entry for each exported function. -/
theorem contains_exportCallEvidence_iff {payloads : List Payload}
    {evidence : StringMap ExportCallEvidence}
    (inspected : inspectExportCallEvidence payloads = .ok evidence) (name : String) :
    evidence.contains name = true ↔ Exports payloads name := by
  rw [inspectExportCallEvidence, bind_eq_ok_iff] at inspected
  obtain ⟨count, _, inspected⟩ := inspected
  rw [bind_eq_ok_iff] at inspected
  obtain ⟨result, collected, inspected⟩ := inspected
  cases inspected
  have names : (functionExports payloads).toList.map Prod.fst = result.map Prod.fst := by
    rw [← List.forall₂_eq_eq_eq, List.forall₂_map_left_iff, List.forall₂_map_right_iff]
    refine (mapM_eq_ok_iff.1 collected).imp fun item entry done => ?_
    obtain ⟨evidence, _, done⟩ := bind_eq_ok_iff.1 done
    cases done
    rfl
  rw [Std.ExtTreeMap.contains_ofList, ← names, Std.ExtTreeMap.map_fst_toList_eq_keys,
    Std.ExtTreeMap.contains_keys, Exports]

/-! ### Entrypoints a report relies on -/

/-- The upgrade relies on the entrypoint: the source specification offers it to callers,
or the target schema names it for a migration. -/
def Relied (source : Artifact) (targetSchema : Option StorageSchema) (name : String) : Prop :=
  source.hasFunction name = true ∨
    ∃ schema, targetSchema = some schema ∧ ∃ entry ∈ schema.entries,
      ∃ migration, entry.migration = some migration ∧ migration.entrypoint = some name

/-- The storage verdict of a safe report under the default policy. -/
theorem keptStorage_of_safe {source target : Artifact}
    {sourceSchema targetSchema : Option StorageSchema} {context : ValidationContext}
    {schemaHistory : Option SchemaHistory}
    (safe : (validateWithHistory primitives source target sourceSchema targetSchema
      Policy.default context schemaHistory).safe = true) :
    ∃ before after, sourceSchema = some before ∧ targetSchema = some after ∧
      KeptStorage primitives source target before after := by
  obtain ⟨_, _, _, _, _, _, _, _, _, storage, _⟩ :=
    unblocked_pushedFindings_iff.1 (safe_iff_unblocked.1 safe)
  cases sourceSchema with
  | none => cases targetSchema <;> simp [checkStorageEvidence, Policy.default] at storage
  | some before =>
      cases targetSchema with
      | none => simp [checkStorageEvidence] at storage
      | some after => exact ⟨before, after, rfl, rfl, unblocked_storagePair_iff.1 storage⟩

/-- A safe report has every entrypoint it relies on in the target specification. -/
theorem hasFunction_of_relied {source target : Artifact}
    {sourceSchema targetSchema : Option StorageSchema} {context : ValidationContext}
    {schemaHistory : Option SchemaHistory}
    (safe : (validateWithHistory primitives source target sourceSchema targetSchema
      Policy.default context schemaHistory).safe = true)
    {name : String} (relied : Relied source targetSchema name) :
    target.hasFunction name = true := by
  rcases relied with listed | ⟨schema, rfl, entry, listed, migration, declared, named⟩
  · obtain ⟨_, _, _, _, _, _, _, interfaces, _⟩ :=
      unblocked_pushedFindings_iff.1 (safe_iff_unblocked.1 safe)
    obtain ⟨functions, _, _⟩ := (unblocked_compareInterfaces_iff rfl rfl rfl rfl rfl).1 interfaces
    rw [Artifact.hasFunction, Std.ExtTreeMap.contains_eq_isSome_getElem?] at listed
    obtain ⟨old, present⟩ := Option.isSome_iff_exists.1 listed
    obtain ⟨new, kept, _⟩ := functions name old present
    rw [Artifact.hasFunction, Std.ExtTreeMap.contains_eq_isSome_getElem?, kept]
    rfl
  · obtain ⟨_, after, _, given, kept⟩ := keptStorage_of_safe safe
    cases given
    obtain ⟨entrypoint, entrypointNamed, callable⟩ :=
      (kept.migrations entry listed migration declared).callable
    rw [Option.some.inj (named.symm.trans entrypointNamed)]
    exact callable

/-! ### Declaring one more migration -/

/-- A new key with a migration. -/
def migratedEntry (key entrypoint : String) : StorageEntry where
  key := key
  durability := .instanceStorage
  valueType := "u32"
  migration := some { strategy := "eager", entrypoint := some entrypoint, notes := none }

theorem soundMigration_eager {target : Artifact} {entrypoint : String}
    (listed : target.hasFunction entrypoint = true) :
    SoundMigration target
      { strategy := "eager", entrypoint := some entrypoint, notes := none } where
  visible := ⟨'e', by simp, by decide⟩
  short := by
    change byteLength "eager" ≤ 128
    decide
  printable := by simp [isControl]
  callable := ⟨entrypoint, rfl, listed⟩

/-- New keys are not compared, so that a schema stays acceptable with one more key whose
migration names a listed function. -/
theorem KeptStorage.declare {source target : Artifact} {before after : StorageSchema}
    (kept : KeptStorage primitives source target before after) {key entrypoint : String}
    (fresh : key ∉ after.entries.map (·.key)) (listed : target.hasFunction entrypoint = true) :
    KeptStorage primitives source target before
      { after with entries := migratedEntry key entrypoint :: after.entries } := by
  obtain ⟨supported, complete, positive, readable, matching, distinct⟩ := kept.targetManifest
  refine ⟨kept.sourceManifest, ⟨supported, complete, positive, readable, matching, ?_⟩, ?_, ?_⟩
  · exact List.nodup_cons.2 ⟨fresh, distinct⟩
  · intro entry member migration declared
    rcases List.mem_cons.1 member with rfl | member
    · cases declared
      exact soundMigration_eager listed
    · exact kept.migrations entry member migration declared
  · intro old member
    obtain ⟨new, present, same⟩ := kept.layouts old member
    exact ⟨new, List.mem_cons_of_mem _ present, same⟩

/-- Whatever a target specification lists, some safe declaration for the same releases
names it for a migration. -/
theorem exists_safe_migration {source target : Artifact}
    {sourceSchema targetSchema : Option StorageSchema} {context : ValidationContext}
    {schemaHistory : Option SchemaHistory}
    (safe : (validateWithHistory primitives source target sourceSchema targetSchema
      Policy.default context schemaHistory).safe = true)
    {entrypoint : String} (listed : target.hasFunction entrypoint = true) :
    ∃ schema key, migratedEntry key entrypoint ∈ schema.entries ∧
      (validateWithHistory primitives source target sourceSchema (some schema)
        Policy.default context schemaHistory).safe = true := by
  obtain ⟨before, after, rfl, rfl, kept⟩ := keptStorage_of_safe safe
  obtain ⟨key, fresh⟩ :=
    Infinite.exists_notMem_finset (after.entries.map (·.key)).toFinset
  rw [List.mem_toFinset] at fresh
  refine ⟨{ after with entries := migratedEntry key entrypoint :: after.entries }, key,
    List.mem_cons_self, ?_⟩
  rw [safe_iff_unblocked, unblocked_pushedFindings_iff] at safe ⊢
  obtain ⟨policy, protocol, environment, sparse, upgrade, constructor, versions, interfaces,
    history, _, traced⟩ := safe
  exact ⟨policy, protocol, environment, sparse, upgrade, constructor, versions, interfaces,
    history, unblocked_storagePair_iff.2 (kept.declare fresh listed), traced⟩

/-! ### Exported entrypoints -/

/-- A target module under which every safe declaration relies on exported entrypoints
only is one that exports every function its specification lists. -/
theorem reliedEntrypoints_exported_iff (primitives : Primitives) (readers : WasmReaders)
    (targetBytes : List UInt8) (targetPayloads : List Payload) (source target : Artifact)
    (sourceSchema targetSchema : Option StorageSchema)
    (context : ValidationContext) (schemaHistory : Option SchemaHistory)
    (targetParsed : readers.parseAll targetBytes = some targetPayloads)
    (targetBuilt : Artifact.fromWasm primitives readers targetBytes = .ok target)
    (safe : (validateWithHistory primitives source target sourceSchema targetSchema
      Policy.default context schemaHistory).safe = true) :
    (∀ schemas : Option StorageSchema,
      (validateWithHistory primitives source target sourceSchema schemas
        Policy.default context schemaHistory).safe = true →
      (∀ name, source.hasFunction name = true → source.exportCallEvidence.contains name = true →
        target.exportCallEvidence.contains name = true) ∧
      ∀ schema, schemas = some schema → ∀ entry ∈ schema.entries, ∀ migration,
        entry.migration = some migration → ∀ name, migration.entrypoint = some name →
          target.exportCallEvidence.contains name = true) ↔
    ∀ name, target.hasFunction name = true → Exports targetPayloads name := by
  obtain ⟨_, parts⟩ := artifactParts_of_fromWasm targetBuilt
  obtain rfl := Option.some.inj (parts.parsed.symm.trans targetParsed)
  simp only [← contains_exportCallEvidence_iff parts.calls]
  constructor
  · intro callable name listed
    obtain ⟨schema, key, member, accepted⟩ := exists_safe_migration safe listed
    exact (callable (some schema) accepted).2 schema rfl _ member _ rfl name rfl
  · intro backed schemas accepted
    constructor
    · intro name listed _
      exact backed name (hasFunction_of_relied accepted (Or.inl listed))
    · intro schema given entry listed migration declared name named
      exact backed name (hasFunction_of_relied accepted
        (Or.inr ⟨schema, given, entry, listed, migration, declared, named⟩))

namespace Sample

/-- The readers find the specification of each module under its bytes. -/
theorem specFromWasm_readers {modules : List WasmModule}
    (distinct : (modules.map (·.bytes)).Nodup) : ∀ module ∈ modules,
      (Sample.readers modules).specFromWasm module.bytes = some (module.spec.map (·.1)) := by
  intro module listed
  have found : modules.find? (·.bytes == module.bytes) = some module := by
    obtain ⟨earlier, later, rfl⟩ := List.append_of_mem listed
    rw [List.map_append, List.map_cons] at distinct
    refine List.find?_eq_some_iff_append.2 ⟨by simp, earlier, later, rfl, ?_⟩
    intro other before
    have differs : other.bytes ≠ module.bytes := by
      intro same
      exact (List.nodup_append.1 distinct).2.2 _ (List.mem_map_of_mem before) _
        List.mem_cons_self same
    simpa using differs
  exact congrArg (Option.map _) found

/-- The artifact of a module, or an empty one. -/
def WasmModule.artifact (module : WasmModule) : Artifact :=
  match Artifact.fromWasm Sample.primitives releaseReaders module.bytes with
  | .ok artifact => artifact
  | .error _ => Sample.artifact module.binver []

theorem fromWasm_module : ∀ module ∈ releaseModules,
    Artifact.fromWasm Sample.primitives releaseReaders module.bytes = .ok module.artifact := by
  intro module listed
  have read : (Artifact.fromWasm Sample.primitives releaseReaders module.bytes).isOk = true := by
    revert module
    decide +kernel
  obtain ⟨artifact, built⟩ := Outcome.exists_of_isOk read
  rw [WasmModule.artifact, built]

theorem sourceModule_listed : sourceModule ∈ releaseModules := by
  simp [releaseModules]

theorem targetModule_listed : targetModule ∈ releaseModules := by
  simp [releaseModules]

/-- A layout change that the new release migrates. -/
def migratedSchema : StorageSchema :=
  schema 2 "u64" (some { strategy := "eager", entrypoint := some "migrate", notes := none })

theorem migratedReport_safe : ∀ target ∈ [targetModule, hollowModule],
    (validateWithHistory Sample.primitives sourceModule.artifact target.artifact
      (some (schema 1 "u32" none)) (some migratedSchema) Policy.default context
      (some history)).safe = true := by
  intro target listed
  rw [safe_iff_unblocked]
  revert target
  decide +kernel

end Sample

/-- A release that exports what its specification lists. -/
theorem sampleEntrypoints_exported :
    Sample.targetModule.artifact.exportCallEvidence.contains "migrate" = true := by
  have names : Sample.targetModule.artifact.functions.keys =
      (functionExports Sample.targetModule.payloads).keys := by
    decide +kernel
  have backed : ∀ name, Sample.targetModule.artifact.hasFunction name = true →
      Exports Sample.targetModule.payloads name := by
    intro name listed
    rw [Artifact.hasFunction, ← Std.ExtTreeMap.contains_keys, names] at listed
    rw [Exports, ← Std.ExtTreeMap.contains_keys]
    exact listed
  have safe := Sample.migratedReport_safe Sample.targetModule (by simp)
  exact ((reliedEntrypoints_exported_iff Sample.primitives Sample.releaseReaders
    Sample.targetModule.bytes Sample.targetModule.payloads Sample.sourceModule.artifact
    _ _ _ _ _ (by decide +kernel) (Sample.fromWasm_module _ Sample.targetModule_listed)
    safe).2 backed _ safe).1 "migrate" (by decide +kernel) (by decide +kernel)

/-- The specification of the hollow release keeps `migrate`, its module does not. -/
theorem reliedEntrypoint_not_exported :
    ¬ ∀ (primitives : Primitives) (readers : WasmReaders) (sourceBytes targetBytes : List UInt8)
      (source target : Artifact) (sourceSchema targetSchema : Option StorageSchema)
      (context : ValidationContext) (schemaHistory : Option SchemaHistory),
      Artifact.fromWasm primitives readers sourceBytes = .ok source →
      Artifact.fromWasm primitives readers targetBytes = .ok target →
      (validateWithHistory primitives source target sourceSchema targetSchema
        Policy.default context schemaHistory).safe = true →
      (∀ name, source.hasFunction name = true → source.exportCallEvidence.contains name = true →
        target.exportCallEvidence.contains name = true) ∧
      ∀ schema, targetSchema = some schema → ∀ entry ∈ schema.entries, ∀ migration,
        entry.migration = some migration → ∀ name, migration.entrypoint = some name →
          target.exportCallEvidence.contains name = true := by
  intro callable
  have exported := (callable Sample.primitives Sample.releaseReaders _ _ _ _ _ _ _ _
    (Sample.fromWasm_module _ Sample.sourceModule_listed)
    (Sample.fromWasm_module Sample.hollowModule (by simp [Sample.releaseModules]))
    (Sample.migratedReport_safe Sample.hollowModule (by simp))).1 "migrate"
    (by decide +kernel) (by decide +kernel)
  revert exported
  decide +kernel

end SorobanUpgrades
