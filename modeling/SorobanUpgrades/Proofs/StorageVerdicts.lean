/-
Module: SorobanUpgrades.Proofs.StorageVerdicts
Purpose: What it means that the manifest checks and the layout comparison raise
  no error.
Trusted boundary: none
Main exports: SoundManifest, SoundMigration, LayoutAllowed, KeptStorage,
  unblocked_validateSchemaManifests_iff, unblocked_compareStorageSchemas_iff,
  unblocked_storagePair_iff, StorageSchema.declared_eq_some_iff
-/
import SorobanUpgrades.Proofs.CheckVerdicts

namespace SorobanUpgrades

variable {primitives : Primitives} {source target : Artifact}

/-! ### Manifests -/

/-- A supported, complete manifest with a readable version that matches its
artifact, and one declaration for each key. -/
structure SoundManifest (primitives : Primitives) (artifact : Artifact)
    (schema : StorageSchema) : Prop where
  supported : schema.formatVersion = 1
  complete : schema.complete = true
  positive : 0 < schema.schemaVersion
  readable : primitives.parseVersion schema.contractVersion ≠ none
  matching : ∀ artifactVersion, artifact.version = some artifactVersion →
    artifactVersion = schema.contractVersion
  distinct : (schema.entries.map (·.key)).Nodup

/-- No key is counted twice exactly when the keys are distinct. -/
theorem keyCounts_le_one_iff {schema : StorageSchema} :
    (∀ (key : String) (count : Nat), schema.keyCounts[key]? = some count → count ≤ 1) ↔
      (schema.entries.map (·.key)).Nodup := by
  rw [List.nodup_iff_count_le_one]
  constructor
  · intro single key
    rw [← getD_keyCounts, Std.ExtTreeMap.getD_eq_getD_getElem?]
    cases stored : schema.keyCounts[key]? with
    | none => exact Nat.zero_le _
    | some count => exact single key count stored
  · intro single key count stored
    have counted := single key
    rw [← getD_keyCounts, Std.ExtTreeMap.getD_eq_getD_getElem?, stored] at counted
    exact counted

theorem unblocked_validateSchemaManifest_iff {side : String} {artifact : Artifact}
    {schema : StorageSchema} :
    Unblocked (validateSchemaManifest primitives side artifact schema) ↔
      SoundManifest primitives artifact schema := by
  have versions : Unblocked (artifact.version.elim [] (checkManifestVersion side schema)) ↔
      ∀ artifactVersion, artifact.version = some artifactVersion →
        artifactVersion = schema.contractVersion := by
    cases artifact.version with
    | none => simp
    | some artifactVersion => simp [checkManifestVersion, unblocked_ite]
  have counts : Unblocked (forEach schema.keyCounts (checkKeyCount side)) ↔
      (schema.entries.map (·.key)).Nodup := by
    rw [← keyCounts_le_one_iff, unblocked_forEach_iff]
    simp only [checkKeyCount, unblocked_error_iff, Nat.not_lt]
  rw [validateSchemaManifest]
  simp only [unblocked_append, unblocked_error_iff, versions, counts, not_not, Bool.not_eq_false,
    ← UInt32.pos_iff_ne_zero]
  constructor
  · rintro ⟨⟨⟨⟨⟨supported, complete⟩, positive⟩, readable⟩, matching⟩, distinct⟩
    exact ⟨supported, complete, positive, readable, matching, distinct⟩
  · rintro ⟨supported, complete, positive, readable, matching, distinct⟩
    exact ⟨⟨⟨⟨⟨supported, complete⟩, positive⟩, readable⟩, matching⟩, distinct⟩

/-- A migration with a short printable name and an entrypoint the target declares. -/
structure SoundMigration (target : Artifact) (migration : Migration) : Prop where
  visible : ∃ character ∈ migration.strategy.toList, isWhitespace character = false
  short : byteLength migration.strategy ≤ 128
  printable : ∀ character ∈ migration.strategy.toList, isControl character = false
  callable : ∃ entrypoint, migration.entrypoint = some entrypoint ∧
    target.hasFunction entrypoint = true

theorem invalidStrategy_eq_false_iff {strategy : String} :
    invalidStrategy strategy = false ↔
      (∃ character ∈ strategy.toList, isWhitespace character = false) ∧
        byteLength strategy ≤ 128 ∧
        ∀ character ∈ strategy.toList, isControl character = false := by
  have visible : (trim strategy.toList).isEmpty = false ↔
      ∃ character ∈ strategy.toList, isWhitespace character = false := by
    rw [← Bool.not_eq_true, List.isEmpty_iff, trim_eq_nil_iff]
    simp
  simp only [invalidStrategy, Bool.or_eq_false_iff, visible, decide_eq_false_iff_not, Nat.not_lt,
    List.any_eq_false, Bool.not_eq_true, and_assoc]

theorem unblocked_validateMigration_iff {key : String} {migration : Migration} :
    Unblocked (validateMigration target key migration) ↔ SoundMigration target migration := by
  have callable : Unblocked (checkMigrationEntrypoint target key migration.entrypoint) ↔
      ∃ entrypoint, migration.entrypoint = some entrypoint ∧
        target.hasFunction entrypoint = true := by
    cases migration.entrypoint with
    | none => simp [checkMigrationEntrypoint]
    | some entrypoint => simp [checkMigrationEntrypoint, unblocked_ite]
  rw [validateMigration, unblocked_append, callable, unblocked_error_iff, Bool.not_eq_true,
    invalidStrategy_eq_false_iff]
  constructor
  · rintro ⟨⟨visible, short, printable⟩, callable⟩
    exact ⟨visible, short, printable, callable⟩
  · rintro ⟨visible, short, printable, callable⟩
    exact ⟨⟨visible, short, printable⟩, callable⟩

theorem unblocked_validateSchemaManifests_iff {before after : StorageSchema} :
    Unblocked (validateSchemaManifests primitives source target before after) ↔
      SoundManifest primitives source before ∧ SoundManifest primitives target after ∧
        ∀ entry ∈ after.entries, ∀ migration, entry.migration = some migration →
          SoundMigration target migration := by
  have declared : ∀ entry : StorageEntry,
      Unblocked (entry.migration.elim [] (validateMigration target entry.key)) ↔
      ∀ migration, entry.migration = some migration → SoundMigration target migration := by
    intro entry
    cases entry.migration with
    | none => simp
    | some migration => simp [unblocked_validateMigration_iff]
  rw [validateSchemaManifests, unblocked_append, unblocked_append,
    unblocked_validateSchemaManifest_iff, unblocked_validateSchemaManifest_iff,
    unblocked_flatMap, and_assoc]
  simp only [declared]

/-! ### Layouts -/

/-- With distinct keys the map of a schema holds exactly its entries. -/
theorem StorageSchema.declared_eq_some_iff {schema : StorageSchema}
    (distinct : (schema.entries.map (·.key)).Nodup) {key : String} {entry : StorageEntry} :
    schema.declared[key]? = some entry ↔ entry ∈ schema.entries ∧ entry.key = key := by
  have keys : (keysOf (schema.entries.map fun entry => (entry.key, entry))).Nodup := by
    rw [keysOf, List.map_map]
    exact distinct
  rw [StorageSchema.declared, OrderedMap.getElem?_ofList_of_nodup keys,
    lookup_eq_some_iff_mem keys, List.mem_map]
  constructor
  · rintro ⟨other, listed, equal⟩
    obtain ⟨rfl, rfl⟩ := Prod.mk.inj equal
    exact ⟨listed, rfl⟩
  · rintro ⟨listed, rfl⟩
    exact ⟨entry, listed, rfl⟩

theorem layoutDiffers_eq_false_iff {old new : StorageEntry} :
    layoutDiffers old new = false ↔
      new.durability = old.durability ∧ new.valueType = old.valueType := by
  simp only [layoutDiffers, Bool.or_eq_false_iff, decide_eq_false_iff_not, ne_eq, not_not]
  exact and_congr eq_comm eq_comm

/-- A declared layout may stay, or change under a migration. -/
def LayoutAllowed (new : StringMap StorageEntry) (key : String) (old : StorageEntry) : Prop :=
  ∃ entry, new[key]? = some entry ∧
    (layoutDiffers old entry = false ∨ entry.migration.isSome = true)

theorem unblocked_compareStorageEntry_iff {new : StringMap StorageEntry} {key : String}
    {old : StorageEntry} :
    Unblocked (compareStorageEntry new key old) ↔ LayoutAllowed new key old := by
  unfold compareStorageEntry LayoutAllowed
  cases new[key]? with
  | none => simp
  | some entry =>
      dsimp only
      cases changed : layoutDiffers old entry with
      | false => simp [changed]
      | true => cases declared : entry.migration <;> simp [changed, declared]

/-- Every declared layout is allowed, and the version grows when one changes. -/
theorem unblocked_compareStorageSchemas_iff {before after : StorageSchema} :
    Unblocked (compareStorageSchemas before after) ↔
      (∀ key old, before.declared[key]? = some old → LayoutAllowed after.declared key old) ∧
      ((∃ key old, before.declared[key]? = some old ∧
        layoutChangedAt after.declared key old = true) →
        before.schemaVersion < after.schemaVersion) := by
  rw [compareStorageSchemas, unblocked_append, unblocked_forEach_iff, unblocked_error_iff]
  simp only [unblocked_compareStorageEntry_iff, Bool.and_eq_true, List.any_eq_true, Prod.exists,
    OrderedMap.mem_toList_iff, decide_eq_true_eq, not_and, UInt32.not_le]

/-- Two sound manifests. Every source key is kept, and its layout stays or changes
under a migration to a greater schema version. -/
structure KeptStorage (primitives : Primitives) (source target : Artifact)
    (before after : StorageSchema) : Prop where
  sourceManifest : SoundManifest primitives source before
  targetManifest : SoundManifest primitives target after
  migrations : ∀ entry ∈ after.entries, ∀ migration, entry.migration = some migration →
    SoundMigration target migration
  layouts : ∀ old ∈ before.entries, ∃ new ∈ after.entries, new.key = old.key ∧
    ((new.durability = old.durability ∧ new.valueType = old.valueType) ∨
      ∃ migration, new.migration = some migration ∧ SoundMigration target migration ∧
        before.schemaVersion < after.schemaVersion)

/-- Under sound manifests the layout comparison looks at the declared entries. -/
theorem unblocked_storagePair_iff {before after : StorageSchema} :
    Unblocked (validateSchemaManifests primitives source target before after ++
      compareStorageSchemas before after) ↔
    KeptStorage primitives source target before after := by
  rw [unblocked_append, unblocked_validateSchemaManifests_iff, unblocked_compareStorageSchemas_iff]
  constructor
  · rintro ⟨⟨sourceManifest, targetManifest, migrations⟩, allowed, greater⟩
    refine ⟨sourceManifest, targetManifest, migrations, fun old listed => ?_⟩
    have declared :=
      (StorageSchema.declared_eq_some_iff sourceManifest.distinct).2 ⟨listed, rfl⟩
    obtain ⟨new, kept, same⟩ := allowed old.key old declared
    obtain ⟨member, key⟩ := (StorageSchema.declared_eq_some_iff targetManifest.distinct).1 kept
    refine ⟨new, member, key, ?_⟩
    cases changed : layoutDiffers old new with
    | false => exact Or.inl (layoutDiffers_eq_false_iff.1 changed)
    | true =>
        rw [changed] at same
        obtain ⟨migration, present⟩ := Option.isSome_iff_exists.1 (same.resolve_left nofun)
        refine Or.inr ⟨migration, present, migrations new member migration present,
          greater ⟨old.key, old, declared, ?_⟩⟩
        rw [layoutChangedAt, kept]
        exact changed
  · rintro ⟨sourceManifest, targetManifest, migrations, layouts⟩
    have kept : ∀ (key : String) (old : StorageEntry), before.declared[key]? = some old →
        ∃ new, after.declared[key]? = some new ∧ (layoutDiffers old new = false ∨
          new.migration.isSome = true ∧ before.schemaVersion < after.schemaVersion) := by
      intro key old declared
      obtain ⟨listed, rfl⟩ := (StorageSchema.declared_eq_some_iff sourceManifest.distinct).1 declared
      obtain ⟨new, member, key, layout⟩ := layouts old listed
      refine ⟨new, (StorageSchema.declared_eq_some_iff targetManifest.distinct).2
        ⟨member, key⟩, ?_⟩
      rcases layout with same | ⟨migration, present, _, greater⟩
      · exact Or.inl (layoutDiffers_eq_false_iff.2 same)
      · exact Or.inr ⟨by rw [present]; rfl, greater⟩
    refine ⟨⟨sourceManifest, targetManifest, migrations⟩, fun key old declared => ?_, ?_⟩
    · obtain ⟨new, found, layout⟩ := kept key old declared
      exact ⟨new, found, layout.imp_right And.left⟩
    · rintro ⟨key, old, declared, changed⟩
      obtain ⟨new, found, layout⟩ := kept key old declared
      rw [layoutChangedAt, found] at changed
      rcases layout with same | ⟨_, greater⟩
      · exact absurd (changed.symm.trans same) (by decide)
      · exact greater

end SorobanUpgrades
