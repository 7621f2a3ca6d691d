/-
Module: SorobanUpgrades.Proofs.DefaultPolicy
Purpose: A report under the default policy is safe exactly when the two releases
  pass every documented blocking check.
Trusted boundary: none
Main exports: SoundStorage, DefaultPass, safe_default_iff
-/
import SorobanUpgrades.Proofs.StorageVerdicts
import SorobanUpgrades.Proofs.HistoryVerdicts
import SorobanUpgrades.Core.Plan

namespace SorobanUpgrades

variable {primitives : Primitives} {source target : Artifact}

/-- Two sound manifests of the two releases. Every source key is kept, and its
layout stays or changes under a sound migration to a greater schema version. -/
structure SoundStorage (primitives : Primitives) (source target : Artifact)
    (before after : StorageSchema) : Prop where
  sourceManifest : SoundManifest primitives source before
  targetManifest : SoundManifest primitives target after
  sourceVersion : source.version = some before.contractVersion
  targetVersion : target.version = some after.contractVersion
  migrations : ∀ entry ∈ after.entries, ∀ migration, entry.migration = some migration →
    SoundMigration target migration
  layouts : ∀ old ∈ before.entries, ∃ new ∈ after.entries, new.key = old.key ∧
    ((new.durability = old.durability ∧ new.valueType = old.valueType) ∨
      ∃ migration, new.migration = some migration ∧ SoundMigration target migration ∧
        before.schemaVersion < after.schemaVersion)

/-- With readable versions the manifests name the versions of their artifacts. -/
theorem unblocked_storage_iff (versions : VersionIncreases primitives source target)
    {before after : StorageSchema} :
    Unblocked (validateSchemaManifests primitives source target before after ++
      compareStorageSchemas before after) ↔
    SoundStorage primitives source target before after := by
  obtain ⟨sourceText, targetText, _, _, sourceVersion, targetVersion, _⟩ := versions
  rw [unblocked_storagePair_iff]
  constructor
  · rintro ⟨sourceManifest, targetManifest, migrations, layouts⟩
    refine ⟨sourceManifest, targetManifest, ?_, ?_, migrations, layouts⟩
    · rw [sourceVersion, sourceManifest.matching _ sourceVersion]
    · rw [targetVersion, targetManifest.matching _ targetVersion]
  · rintro ⟨sourceManifest, targetManifest, _, _, migrations, layouts⟩
    exact ⟨sourceManifest, targetManifest, migrations, layouts⟩

/-- What a safe report under the default policy stands for. -/
structure DefaultPass (primitives : Primitives) (source target : Artifact)
    (sourceSchema targetSchema : Option StorageSchema) (context : ValidationContext)
    (schemaHistory : Option SchemaHistory) : Prop where
  sourceUpgradable : source.Upgradable
  targetUpgradable : target.Upgradable
  functions : Retained source.functions target.functions
  events : Retained source.events target.events
  userTypes : Retained source.userTypes target.userTypes
  versions : VersionIncreases primitives source target
  storage : ∃ before after, sourceSchema = some before ∧ targetSchema = some after ∧
    SoundStorage primitives source target before after
  history : ∃ history, schemaHistory = some history ∧
    SoundHistory primitives source target history
  protocol : EvidencedProtocol context
  environment : target.envPreRelease = 0 ∧
    ∀ protocol, context.targetProtocolVersion = some protocol →
      target.envProtocolVersion ≤ protocol
  sparse : SparseSupported target context
  traced : (tracePublicImpacts source target).2 = false

/-- The default policy is safe on exactly the upgrades that pass every check. -/
theorem safe_default_iff (primitives : Primitives) (source target : Artifact)
    (sourceSchema targetSchema : Option StorageSchema) (context : ValidationContext)
    (schemaHistory : Option SchemaHistory) :
    (validateWithHistory primitives source target sourceSchema targetSchema Policy.default context
      schemaHistory).safe = true ↔
    DefaultPass primitives source target sourceSchema targetSchema context schemaHistory := by
  have constructors : Unblocked (checkConstructor target Policy.default) := by
    simp only [checkConstructor, Policy.default]
    split <;> simp
  have histories : Unblocked (checkHistoryEvidence primitives source target Policy.default
      schemaHistory) ↔ ∃ history, schemaHistory = some history ∧
        SoundHistory primitives source target history := by
    cases schemaHistory with
    | none => simp [checkHistoryEvidence, Policy.default]
    | some history => simp [checkHistoryEvidence, unblocked_validateSchemaHistory_iff]
  have limits : Unblocked (checkImpactLimit (tracePublicImpacts source target).2) ↔
      (tracePublicImpacts source target).2 = false := by
    rw [checkImpactLimit, unblocked_error_iff, Bool.not_eq_true]
  have storages : VersionIncreases primitives source target →
      (Unblocked (checkStorageEvidence primitives source target Policy.default sourceSchema
        targetSchema) ↔
      ∃ before after, sourceSchema = some before ∧ targetSchema = some after ∧
        SoundStorage primitives source target before after) := by
    intro versions
    cases sourceSchema <;> cases targetSchema <;>
      simp [-unblocked_append, checkStorageEvidence, Policy.default,
        unblocked_storage_iff versions]
  rw [safe_iff_unblocked, unblocked_pushedFindings_iff, unblocked_checkPolicy_iff,
    unblocked_checkProtocolContext_iff, unblocked_checkEnvironmentCompatibility_iff,
    unblocked_checkCap0086_iff, unblocked_checkUpgradeEntrypoint_iff rfl,
    unblocked_checkVersions_iff rfl, unblocked_compareInterfaces_iff rfl rfl rfl rfl rfl,
    histories, limits]
  constructor
  · rintro ⟨_, protocol, environment, sparse, ⟨sourceUpgradable, targetUpgradable⟩, _, versions,
      ⟨functions, events, userTypes⟩, history, storage, traced⟩
    exact ⟨sourceUpgradable, targetUpgradable, functions, events, userTypes, versions,
      (storages versions).1 storage, history, protocol, environment, sparse, traced⟩
  · rintro ⟨sourceUpgradable, targetUpgradable, functions, events, userTypes, versions, storage,
      history, protocol, environment, sparse, traced⟩
    exact ⟨rfl, protocol, environment, sparse, ⟨sourceUpgradable, targetUpgradable⟩, constructors,
      versions, ⟨functions, events, userTypes⟩, history, (storages versions).2 storage, traced⟩

end SorobanUpgrades
