/-
Module: SorobanUpgrades.Proofs.SchemaVersions
Purpose: Over a chain of safe upgrades a storage layout changes only together
  with a step to a greater schema version.
Trusted boundary: none
Main exports: SafeChain, storage_step, storage_run, schemaVersion_separates_layouts
-/
import SorobanUpgrades.Proofs.DefaultPolicy

namespace SorobanUpgrades

/-- Releases `0` to `length` whose consecutive pairs are reported safe, each step
under its own policy, context and history. -/
def SafeChain (primitives : Primitives) (length : Nat) (artifacts : Nat → Artifact)
    (schemas : Nat → StorageSchema) (policies : Nat → Policy)
    (contexts : Nat → ValidationContext) (histories : Nat → Option SchemaHistory) : Prop :=
  ∀ i < length, (validateWithHistory primitives (artifacts i) (artifacts (i + 1))
    (some (schemas i)) (some (schemas (i + 1))) (policies i) (contexts i) (histories i)).safe = true

/-- The two entries declare one key with one layout. -/
def SameLayout (old new : StorageEntry) : Prop :=
  new.durability = old.durability ∧ new.valueType = old.valueType

instance (old new : StorageEntry) : Decidable (SameLayout old new) :=
  inferInstanceAs (Decidable (_ ∧ _))

/-- Some step between two releases raises the schema version. -/
def RaisedBetween (schemas : Nat → StorageSchema) (first last : Nat) : Prop :=
  ∃ m, first ≤ m ∧ m < last ∧ (schemas m).schemaVersion < (schemas (m + 1)).schemaVersion

section Chains

variable {primitives : Primitives} {length : Nat} {artifacts : Nat → Artifact}
  {schemas : Nat → StorageSchema} {policies : Nat → Policy} {contexts : Nat → ValidationContext}
  {histories : Nat → Option SchemaHistory}

/-- A safe step keeps every key, and keeps its layout or raises the version. -/
theorem storage_step {source target : Artifact} {before after : StorageSchema} {policy : Policy}
    {context : ValidationContext} {schemaHistory : Option SchemaHistory}
    (safe : (validateWithHistory primitives source target (some before) (some after) policy
      context schemaHistory).safe = true) :
    (after.entries.map (·.key)).Nodup ∧
    ∀ old ∈ before.entries, ∃ new ∈ after.entries, new.key = old.key ∧
      (SameLayout old new ∨ before.schemaVersion < after.schemaVersion) := by
  rw [safe_iff_unblocked, unblocked_pushedFindings_iff] at safe
  obtain ⟨_, _, _, _, _, _, _, _, _, storage, _⟩ := safe
  rw [checkStorageEvidence, unblocked_append, unblocked_validateSchemaManifests_iff,
    unblocked_compareStorageSchemas_iff] at storage
  obtain ⟨⟨sourceManifest, targetManifest, _⟩, allowed, greater⟩ := storage
  refine ⟨targetManifest.distinct, fun old listed => ?_⟩
  have declared := (StorageSchema.declared_eq_some_iff sourceManifest.distinct).2 ⟨listed, rfl⟩
  obtain ⟨new, kept, _⟩ := allowed old.key old declared
  obtain ⟨member, key⟩ := (StorageSchema.declared_eq_some_iff targetManifest.distinct).1 kept
  refine ⟨new, member, key, ?_⟩
  cases changed : layoutDiffers old new with
  | false => exact Or.inl (layoutDiffers_eq_false_iff.1 changed)
  | true =>
      refine Or.inr (greater ⟨old.key, old, declared, ?_⟩)
      rw [layoutChangedAt, kept]
      exact changed

/-- A chain keeps every key, and keeps its layout unless some step raises the version. -/
theorem storage_run {first last : Nat}
    (chain : SafeChain primitives length artifacts schemas policies contexts histories)
    (ordered : first ≤ last) (inside : last ≤ length) {old : StorageEntry}
    (listed : old ∈ (schemas first).entries) :
    ∃ new ∈ (schemas last).entries, new.key = old.key ∧
      (SameLayout old new ∨ RaisedBetween schemas first last) := by
  induction last, ordered using Nat.le_induction with
  | base => exact ⟨old, listed, rfl, Or.inl ⟨rfl, rfl⟩⟩
  | succ last ordered inductionHypothesis =>
      obtain ⟨entry, member, key, layout⟩ := inductionHypothesis (by omega)
      obtain ⟨new, newMember, newKey, newLayout⟩ :=
        (storage_step (chain last inside)).2 entry member
      refine ⟨new, newMember, newKey.trans key, ?_⟩
      rcases layout with same | ⟨m, low, high, raised⟩
      · rcases newLayout with stays | raised
        · exact Or.inl ⟨stays.1.trans same.1, stays.2.trans same.2⟩
        · exact Or.inr ⟨last, ordered, Nat.lt_succ_self last, raised⟩
      · exact Or.inr ⟨m, low, Nat.lt_succ_of_lt high, raised⟩

/-- Versions that never fall are ordered over any distance. -/
theorem schemaVersion_mono {first last : Nat} (ordered : first ≤ last)
    (rising : ∀ m, first ≤ m → m < last →
      (schemas m).schemaVersion ≤ (schemas (m + 1)).schemaVersion) :
    (schemas first).schemaVersion ≤ (schemas last).schemaVersion := by
  induction last, ordered using Nat.le_induction with
  | base => exact UInt32.le_refl _
  | succ last ordered inductionHypothesis =>
      exact UInt32.le_trans (inductionHypothesis fun m low high => rising m low (by omega))
        (rising last ordered (Nat.lt_succ_self last))

end Chains

/-- When a key has another layout at the end of a chain, some step on the way
raises the schema version, and the version is greater at the end unless a step on
the way lowers it. -/
theorem schemaVersion_separates_layouts (primitives : Primitives) (length : Nat)
    (artifacts : Nat → Artifact) (schemas : Nat → StorageSchema) (policies : Nat → Policy)
    (contexts : Nat → ValidationContext) (histories : Nat → Option SchemaHistory)
    (chain : SafeChain primitives length artifacts schemas policies contexts histories) :
    ∀ i j, i < j → j ≤ length → ∀ old ∈ (schemas i).entries, ∀ new ∈ (schemas j).entries,
      new.key = old.key → ¬ SameLayout old new →
      RaisedBetween schemas i j ∧
      ((∀ m, i ≤ m → m < j → (schemas m).schemaVersion ≤ (schemas (m + 1)).schemaVersion) →
        (schemas i).schemaVersion < (schemas j).schemaVersion) := by
  intro i j earlier inside old oldListed new newListed sameKey differs
  obtain ⟨kept, keptListed, keptKey, layout⟩ :=
    storage_run chain (Nat.le_of_lt earlier) inside oldListed
  obtain ⟨step, rfl⟩ : ∃ step, j = step + 1 := ⟨j - 1, by omega⟩
  have distinct := (storage_step (chain step inside)).1
  have same : kept = new :=
    List.inj_on_of_nodup_map distinct keptListed newListed (keptKey.trans sameKey.symm)
  rw [same] at layout
  have raised := layout.resolve_left differs
  refine ⟨raised, fun rising => ?_⟩
  obtain ⟨m, low, high, greater⟩ := raised
  have before := schemaVersion_mono low fun k from_ upTo => rising k from_ (by omega)
  have after : (schemas (m + 1)).schemaVersion ≤ (schemas (step + 1)).schemaVersion :=
    schemaVersion_mono (Nat.succ_le_of_lt high) fun k from_ upTo => rising k (by omega) upTo
  exact UInt32.lt_of_le_of_lt before (UInt32.lt_of_lt_of_le greater after)

namespace Sample

/-- A migrated key: the second release changes its type, the third leaves it alone. -/
def migratedReleases : Nat → Artifact
  | 0 => artifact "1.0.0" ["upgrade", "migrate"]
  | 1 => artifact "2.0.0" ["upgrade", "migrate"]
  | _ => artifact "3.0.0" ["upgrade", "migrate"]

def eagerMigration : Migration where
  strategy := "eager"
  entrypoint := some "migrate"
  notes := none

/-- The schemas of the migrated key. The third declares the given version. -/
def migratedSchemas (last : UInt32) : Nat → StorageSchema
  | 0 => schema 1 "u32" none
  | 1 => schema 2 "u64" (some eagerMigration)
  | _ => { schema last "u64" none with contractVersion := "3.0.0" }

theorem migratedChain : ∀ last ∈ [1, 2], SafeChain Sample.primitives 2 migratedReleases
    (migratedSchemas last) (fun _ => Policy.default) (fun _ => context)
    (fun _ => some history) := by
  intro last listed i inside
  rw [safe_iff_unblocked]
  obtain rfl | rfl : last = 1 ∨ last = 2 := by simpa using listed
  all_goals
    obtain rfl | rfl : i = 0 ∨ i = 1 := by omega
    all_goals decide

end Sample

/-- A chain that keeps its schema versions in order. -/
theorem sampleSchemaVersion_separates_layouts :
    (Sample.migratedSchemas 2 0).schemaVersion < (Sample.migratedSchemas 2 2).schemaVersion :=
  (schemaVersion_separates_layouts Sample.primitives 2 Sample.migratedReleases
    (Sample.migratedSchemas 2) (fun _ => Policy.default) (fun _ => Sample.context)
    (fun _ => some Sample.history) (Sample.migratedChain 2 (by decide)) 0 2 (by decide) (by decide)
    _ List.mem_cons_self _ List.mem_cons_self rfl (by decide)).2 (by decide)

/-- A step without layout changes may lower the schema version again: the key has
another type after two safe steps, and the version is the same. -/
theorem schemaVersion_may_return :
    ¬ ∀ (primitives : Primitives) (length : Nat) (artifacts : Nat → Artifact)
      (schemas : Nat → StorageSchema) (policies : Nat → Policy)
      (contexts : Nat → ValidationContext) (histories : Nat → Option SchemaHistory),
      SafeChain primitives length artifacts schemas policies contexts histories →
      ∀ i j, i < j → j ≤ length → ∀ old ∈ (schemas i).entries, ∀ new ∈ (schemas j).entries,
        new.key = old.key → ¬ SameLayout old new →
        (schemas i).schemaVersion < (schemas j).schemaVersion := by
  intro separates
  have greater := separates Sample.primitives 2 Sample.migratedReleases
    (Sample.migratedSchemas 1) (fun _ => Policy.default) (fun _ => Sample.context)
    (fun _ => some Sample.history) (Sample.migratedChain 1 (by decide)) 0 2 (by decide) (by decide)
    _ List.mem_cons_self _ List.mem_cons_self rfl (by decide)
  exact absurd greater (by decide)

end SorobanUpgrades
