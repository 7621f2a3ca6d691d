/-
Module: SorobanUpgrades.Proofs.StorageOrder
Purpose: The verdict on two storage schemas does not depend on the order in
  which they declare their keys.
Trusted boundary: none
Main exports: StorageSchema.Rearranges, perm_pushedFindings,
  storageOrder_irrelevant
-/
import SorobanUpgrades.Proofs.CheckVerdicts
import SorobanUpgrades.Proofs.StorageVerdicts
import SorobanUpgrades.Core.Plan

namespace SorobanUpgrades

/-- Two schemas that list the same entries in some order. -/
structure StorageSchema.Rearranges (schema other : StorageSchema) : Prop where
  formatVersion : other.formatVersion = schema.formatVersion
  complete : other.complete = schema.complete
  schemaVersion : other.schemaVersion = schema.schemaVersion
  contractVersion : other.contractVersion = schema.contractVersion
  entries : other.entries.Perm schema.entries

section Rearranged

variable {primitives : Primitives} {source target : Artifact} {policy : Policy}
  {context : ValidationContext} {schemaHistory : Option SchemaHistory}
  {before after otherBefore otherAfter : StorageSchema}

/-- The keys of a schema are pairwise distinct. -/
def StorageSchema.DistinctKeys (schema : StorageSchema) : Prop :=
  (schema.entries.map (·.key)).Nodup

theorem StorageSchema.Rearranges.distinctKeys_iff {schema other : StorageSchema}
    (rearranges : schema.Rearranges other) : other.DistinctKeys ↔ schema.DistinctKeys :=
  (rearranges.entries.map StorageEntry.key).nodup_iff

/-- Distinct keys leave one map, whatever their order. -/
theorem StorageSchema.Rearranges.declared_eq {schema other : StorageSchema}
    (rearranges : schema.Rearranges other) (distinct : schema.DistinctKeys) :
    other.declared = schema.declared := by
  have otherDistinct : (other.entries.map (·.key)).Nodup :=
    rearranges.distinctKeys_iff.2 distinct
  apply Std.ExtTreeMap.ext_getElem?
  intro key
  apply Option.ext
  intro entry
  rw [StorageSchema.declared_eq_some_iff otherDistinct, StorageSchema.declared_eq_some_iff distinct,
    rearranges.entries.mem_iff]

theorem forEach_keyCounts_eq_nil {schema : StorageSchema} (distinct : schema.DistinctKeys)
    (side : String) : forEach schema.keyCounts (checkKeyCount side) = [] := by
  rw [forEach, List.flatMap_eq_nil_iff]
  rintro ⟨key, count⟩ listed
  have single := keyCounts_le_one_iff.2 distinct key count (OrderedMap.mem_toList_iff.1 listed)
  exact if_neg (Nat.not_lt.2 single)

theorem validateSchemaManifest_rearranged {schema other : StorageSchema}
    (rearranges : schema.Rearranges other) (distinct : schema.DistinctKeys) (side : String)
    (artifact : Artifact) :
    validateSchemaManifest primitives side artifact other =
      validateSchemaManifest primitives side artifact schema := by
  have version : checkManifestVersion side other = checkManifestVersion side schema := by
    funext artifactVersion
    rw [checkManifestVersion, checkManifestVersion, rearranges.contractVersion]
  rw [validateSchemaManifest, validateSchemaManifest, forEach_keyCounts_eq_nil distinct,
    forEach_keyCounts_eq_nil (rearranges.distinctKeys_iff.2 distinct), version,
    rearranges.formatVersion, rearranges.complete, rearranges.schemaVersion,
    rearranges.contractVersion]

theorem compareStorageSchemas_rearranged (source : before.Rearranges otherBefore)
    (target : after.Rearranges otherAfter) (sourceDistinct : before.DistinctKeys)
    (targetDistinct : after.DistinctKeys) :
    compareStorageSchemas otherBefore otherAfter = compareStorageSchemas before after := by
  rw [compareStorageSchemas, compareStorageSchemas, source.declared_eq sourceDistinct,
    target.declared_eq targetDistinct, source.schemaVersion, target.schemaVersion]

/-- Only the findings about migrations follow the order of the target schema. -/
theorem perm_pushedFindings (sources : before.Rearranges otherBefore)
    (targets : after.Rearranges otherAfter) (sourceDistinct : before.DistinctKeys)
    (targetDistinct : after.DistinctKeys) :
    (pushedFindings primitives source target (some otherBefore) (some otherAfter) policy context
      schemaHistory).Perm
    (pushedFindings primitives source target (some before) (some after) policy context
      schemaHistory) := by
  have manifests : (validateSchemaManifests primitives source target otherBefore otherAfter).Perm
      (validateSchemaManifests primitives source target before after) := by
    rw [validateSchemaManifests, validateSchemaManifests,
      validateSchemaManifest_rearranged sources sourceDistinct,
      validateSchemaManifest_rearranged targets targetDistinct]
    exact (targets.entries.flatMap_right _).append_left _
  apply List.Perm.append_right
  apply List.Perm.append_left
  rw [checkStorageEvidence, checkStorageEvidence,
    compareStorageSchemas_rearranged sources targets sourceDistinct targetDistinct]
  exact manifests.append_right _

/-- A repeated key blocks the release on either side. -/
theorem distinctKeys_of_unblocked
    (clear : Unblocked (pushedFindings primitives source target (some before) (some after) policy
      context schemaHistory)) : before.DistinctKeys ∧ after.DistinctKeys := by
  obtain ⟨_, _, _, _, _, _, _, _, _, storage, _⟩ := unblocked_pushedFindings_iff.1 clear
  rw [checkStorageEvidence, unblocked_append, unblocked_validateSchemaManifests_iff] at storage
  obtain ⟨⟨sourceManifest, targetManifest, _⟩, _⟩ := storage
  exact ⟨sourceManifest.distinct, targetManifest.distinct⟩

theorem unblocked_of_rearranged (sources : before.Rearranges otherBefore)
    (targets : after.Rearranges otherAfter)
    (clear : Unblocked (pushedFindings primitives source target (some before) (some after) policy
      context schemaHistory)) :
    Unblocked (pushedFindings primitives source target (some otherBefore) (some otherAfter) policy
      context schemaHistory) := by
  obtain ⟨sourceDistinct, targetDistinct⟩ := distinctKeys_of_unblocked clear
  intro finding found
  exact clear finding
    ((perm_pushedFindings sources targets sourceDistinct targetDistinct).mem_iff.1 found)

theorem StorageSchema.Rearranges.symm {schema other : StorageSchema}
    (rearranges : schema.Rearranges other) : other.Rearranges schema where
  formatVersion := rearranges.formatVersion.symm
  complete := rearranges.complete.symm
  schemaVersion := rearranges.schemaVersion.symm
  contractVersion := rearranges.contractVersion.symm
  entries := rearranges.entries.symm

end Rearranged

/-- Rearranged declarations give the same verdict, and with distinct keys the
same findings. -/
theorem storageOrder_irrelevant (primitives : Primitives) (source target : Artifact)
    (before after otherBefore otherAfter : StorageSchema) (policy : Policy)
    (context : ValidationContext) (schemaHistory : Option SchemaHistory)
    (sources : before.Rearranges otherBefore) (targets : after.Rearranges otherAfter) :
    (validateWithHistory primitives source target (some otherBefore) (some otherAfter) policy
      context schemaHistory).safe =
    (validateWithHistory primitives source target (some before) (some after) policy context
      schemaHistory).safe ∧
    (before.DistinctKeys → after.DistinctKeys →
      (validateWithHistory primitives source target (some otherBefore) (some otherAfter) policy
        context schemaHistory).findings.Perm
      (validateWithHistory primitives source target (some before) (some after) policy context
        schemaHistory).findings) := by
  constructor
  · rw [Bool.eq_iff_iff, safe_iff_unblocked, safe_iff_unblocked]
    exact ⟨unblocked_of_rearranged sources.symm targets.symm,
      unblocked_of_rearranged sources targets⟩
  · intro sourceDistinct targetDistinct
    exact (List.perm_insertionSort _ _).trans
      ((perm_pushedFindings sources targets sourceDistinct targetDistinct).trans
        (List.perm_insertionSort _ _).symm)

namespace Sample

def counterEntry : StorageEntry where
  key := "Counter"
  durability := .persistent
  valueType := "u32"
  migration := none

/-- The sample schema with a second key, before or after the first. -/
def wideSchema (version : UInt32) (first : Bool) : StorageSchema :=
  let schema := schema version "u32" none
  { schema with
    entries := if first then counterEntry :: schema.entries else schema.entries ++ [counterEntry] }

theorem wideSchema_rearranges (version : UInt32) :
    (wideSchema version false).Rearranges (wideSchema version true) where
  formatVersion := rfl
  complete := rfl
  schemaVersion := rfl
  contractVersion := rfl
  entries := List.Perm.swap _ _ _

theorem wideSchema_distinct (version : UInt32) : (wideSchema version false).DistinctKeys := by
  simp [StorageSchema.DistinctKeys, wideSchema, schema, counterEntry]

end Sample

/-- Two keys in either order are checked alike. -/
theorem sampleStorageOrder_irrelevant :
    (validateWithHistory Sample.primitives (Sample.artifact "1.0.0" ["upgrade"])
      (Sample.artifact "2.0.0" ["upgrade"]) (some (Sample.wideSchema 1 true))
      (some (Sample.wideSchema 2 true)) Policy.default Sample.context
      (some Sample.history)).findings.Perm
    (validateWithHistory Sample.primitives (Sample.artifact "1.0.0" ["upgrade"])
      (Sample.artifact "2.0.0" ["upgrade"]) (some (Sample.wideSchema 1 false))
      (some (Sample.wideSchema 2 false)) Policy.default Sample.context
      (some Sample.history)).findings :=
  (storageOrder_irrelevant Sample.primitives (Sample.artifact "1.0.0" ["upgrade"])
    (Sample.artifact "2.0.0" ["upgrade"]) (Sample.wideSchema 1 false) (Sample.wideSchema 2 false)
    (Sample.wideSchema 1 true) (Sample.wideSchema 2 true) Policy.default Sample.context
    (some Sample.history) (Sample.wideSchema_rearranges 1) (Sample.wideSchema_rearranges 2)).2
    (Sample.wideSchema_distinct 1) (Sample.wideSchema_distinct 2)

end SorobanUpgrades
