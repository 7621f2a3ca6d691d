/-
Module: SorobanUpgrades.Core.Storage
Purpose: The checks of the storage manifests and the comparison of two storage
  layouts.
Trusted boundary: human-reviewed spec
Main exports: validateSchemaManifests, StorageSchema.declared, layoutDiffers,
  compareStorageSchemas
-/
import SorobanUpgrades.Core.Checks

namespace SorobanUpgrades

/-! ### Manifests -/

/-- How often each key is declared. [SRC lib.rs:1782-1785] -/
def StorageSchema.keyCounts (schema : StorageSchema) : StringMap Nat :=
  schema.entries.foldl
    (fun counts entry => counts.insert entry.key (counts.getD entry.key 0 + 1)) ∅

private theorem getD_foldl_keyCounts (entries : List StorageEntry) (counts : StringMap Nat)
    (key : String) :
    (entries.foldl
      (fun counts entry => counts.insert entry.key (counts.getD entry.key 0 + 1))
      counts).getD key 0 = counts.getD key 0 + (entries.map (·.key)).count key := by
  induction entries generalizing counts with
  | nil => simp
  | cons entry entries inductionHypothesis =>
      rw [List.foldl_cons, inductionHypothesis, List.map_cons, List.count_cons,
        Std.ExtTreeMap.getD_insert]
      by_cases same : entry.key = key
      · subst same
        simp
        omega
      · simp [same]

theorem getD_keyCounts (schema : StorageSchema) (key : String) :
    schema.keyCounts.getD key 0 = (schema.entries.map (·.key)).count key := by
  rw [StorageSchema.keyCounts, getD_foldl_keyCounts]
  simp

/-- STO007: the declared version is the `binver` of the artifact, if it has one.
[SRC lib.rs:1768-1780] -/
def checkManifestVersion (side : String) (schema : StorageSchema) (artifactVersion : String) :
    List Finding :=
  if artifactVersion ≠ schema.contractVersion then
    [error "STO007" "Storage manifest version does not match WASM"
      s!"The {side} manifest declares contract version `{schema.contractVersion}`, but its WASM `binver` is `{artifactVersion}`."
      "Generate and commit the storage manifest from the same source revision and build as the reviewed WASM."]
  else []

/-- STO008: a key is declared once. [SRC lib.rs:1786-1797] -/
def checkKeyCount (side key : String) (count : Nat) : List Finding :=
  if 1 < count then
    [error "STO008" "Storage manifest contains duplicate keys"
      s!"The {side} manifest declares storage key `{key}` {count} times, making comparison ambiguous."
      "Keep exactly one declaration for each logical storage key."]
  else []

/-- STO006 to STO008 and STO010 to STO012 for one side. [SRC lib.rs:1720-1798] -/
def validateSchemaManifest (primitives : Primitives) (side : String) (artifact : Artifact)
    (schema : StorageSchema) : List Finding :=
  (if schema.formatVersion ≠ 1 then
    [error "STO006" "Unsupported storage manifest format"
      s!"The {side} manifest uses format version {schema.formatVersion}. This build supports version 1."
      "Regenerate the manifest with a supported tool version or upgrade the validator before relying on its result."]
  else []) ++
  (if schema.complete = false then
    [error "STO010" "Storage schema is not marked complete"
      s!"The {side} storage schema does not declare complete coverage of its known storage keys."
      "Set `complete` to true only after you include every known storage key and value type."]
  else []) ++
  (if schema.schemaVersion = 0 then
    [error "STO011" "Storage schema version is zero"
      s!"The {side} storage schema must use a positive schema version."
      "Set `schemaVersion` to the version that the contract stores or enforces."]
  else []) ++
  (if primitives.parseVersion schema.contractVersion = none then
    [error "STO012" "Storage schema contract version is invalid"
      s!"The {side} storage schema uses `{schema.contractVersion}` as its contract version."
      "Use the exact semantic version from the artifact `binver` metadata."]
  else []) ++
  artifact.version.elim [] (checkManifestVersion side schema) ++
  forEach schema.keyCounts (checkKeyCount side)

/-- A strategy name is blank, too long or holds a control character. [SRC lib.rs:1804-1807] -/
def invalidStrategy (strategy : String) : Bool :=
  (trim strategy.toList).isEmpty || decide (128 < byteLength strategy) ||
    strategy.toList.any isControl

/-- STO009 and STO014: the entrypoint is declared and stands in the specification of the target.
[SRC lib.rs:1818-1840] -/
def checkMigrationEntrypoint (target : Artifact) (key : String) : Option String → List Finding
  | none =>
      [error "STO014" "Migration entrypoint is not declared"
        s!"Storage key `{key}` has migration data without an entrypoint."
        "Name the exported idempotent migration function in the storage declaration."]
  | some entrypoint =>
      if target.hasFunction entrypoint = false then
        [error "STO009" "Declared migration entrypoint is missing"
          s!"Storage key `{key}` declares migration entrypoint `{entrypoint}`, but the target WASM specification does not export it."
          "Export the declared migration function or correct the manifest and rehearse the selected strategy."]
      else []

/-- STO013 and the entrypoint of one migration declaration. [SRC lib.rs:1800-1841] -/
def validateMigration (target : Artifact) (key : String) (migration : Migration) : List Finding :=
  (if invalidStrategy migration.strategy then
    [error "STO013" "Migration strategy is invalid"
      s!"Storage key `{key}` has an empty, oversized, or invalid migration strategy."
      "Use a short reviewed strategy name without control characters."]
  else []) ++
  checkMigrationEntrypoint target key migration.entrypoint

/-- Both manifests on their own, then the migrations of the target. [SRC lib.rs:1713-1842] -/
def validateSchemaManifests (primitives : Primitives) (source target : Artifact)
    (sourceSchema targetSchema : StorageSchema) : List Finding :=
  validateSchemaManifest primitives "source" source sourceSchema ++
  validateSchemaManifest primitives "target" target targetSchema ++
  (targetSchema.entries.flatMap fun entry =>
    entry.migration.elim [] (validateMigration target entry.key))

/-! ### Layouts -/

/-- The declared entries by key. A repeated key keeps its last entry. [SRC lib.rs:2277-2278] -/
def StorageSchema.declared (schema : StorageSchema) : StringMap StorageEntry :=
  Std.ExtTreeMap.ofList (schema.entries.map fun entry => (entry.key, entry)) compare

/-- The durability or the type of a key changes. [SRC lib.rs:2293-2294] -/
def layoutDiffers (old new : StorageEntry) : Bool :=
  decide (old.durability ≠ new.durability) || decide (old.valueType ≠ new.valueType)

/-- The new schema drops the key or changes its layout: `layout_changed`. [SRC lib.rs:2279-2328] -/
def layoutChangedAt (new : StringMap StorageEntry) (key : String) (old : StorageEntry) : Bool :=
  match new[key]? with
  | none => true
  | some entry => layoutDiffers old entry

/-- STO001 to STO003: one key of the old schema in the new one. [SRC lib.rs:2281-2328] -/
def compareStorageEntry (new : StringMap StorageEntry) (key : String) (old : StorageEntry) :
    List Finding :=
  match new[key]? with
  | none =>
      [error "STO001" "Storage key removed without a retirement plan"
        s!"Storage key `{key}` is absent from the target schema."
        "Keep the key readable through the migration window or declare and test a versioned retirement strategy."]
  | some entry =>
      if layoutDiffers old entry then
        let before := old.durability.debug
        let after := entry.durability.debug
        match entry.migration with
        | some migration =>
            [warning "STO002" "Storage layout change requires migration"
              s!"Storage key `{key}` changes from `{before}/{old.valueType}` to `{after}/{entry.valueType}` and declares `{migration.strategy}` migration."
              "Exercise the migration against a representative pre-upgrade ledger snapshot and verify idempotency."]
        | none =>
            [error "STO003" "Storage layout changes without migration"
              s!"Storage key `{key}` changes from `{before}/{old.valueType}` to `{after}/{entry.valueType}` with no migration declaration."
              "Declare an eager, lazy, or versioned migration and test it before generating a signer review plan."]
      else []

/-- The keys of the old schema, then the schema version (STO005). New keys are not compared.
[SRC lib.rs:2272-2341] -/
def compareStorageSchemas (source target : StorageSchema) : List Finding :=
  let old := source.declared
  let new := target.declared
  (forEach old (compareStorageEntry new)) ++
  (if old.toList.any (fun (key, entry) => layoutChangedAt new key entry) &&
      decide (target.schemaVersion ≤ source.schemaVersion) then
    [error "STO005" "Schema version was not incremented"
      s!"Storage changed but target schema version {target.schemaVersion} is not greater than source schema version {source.schemaVersion}."
      "Increment `schemaVersion` and guard migration execution with the on-chain schema version."]
  else [])

end SorobanUpgrades
