/-
Module: SorobanUpgrades.Core.History
Purpose: The check of two releases against the cumulative field history.
Trusted boundary: human-reviewed spec
Main exports: SchemaHistory.record, SchemaHistory.reserves, validateSchemaHistory
-/
import SorobanUpgrades.Core.Interfaces

namespace SorobanUpgrades

/-! ### Records -/

/-- The record of a field. [SRC lib.rs:1934-1937] -/
def SchemaHistory.record (history : SchemaHistory) (typeName fieldName : String) :
    Option HistoricalField :=
  history.types[typeName]?.bind (·.fields[fieldName]?)

/-- The history keeps a field name out of use. [SRC lib.rs:2051-2054] -/
def SchemaHistory.reserves (history : SchemaHistory) (typeName fieldName : String) : Bool :=
  history.types[typeName]?.any (·.reservedFields.contains fieldName)

/-- The retirement version: absent, readable or invalid. [SRC lib.rs:1874] -/
def HistoricalField.retirement (primitives : Primitives) (record : HistoricalField) :
    Option (Option Version) :=
  match record.retiredIn with
  | none => some none
  | some text => (primitives.parseVersion text).map some

/-- The printed form of a field type. [SRC lib.rs:2090-2092] -/
def displayJson (value : Value) : String := String.ofList value.json.compact

/-! ### The manifest on its own -/

/-- HIS013 to HIS015: the versions and the reservation of one record. [SRC lib.rs:1872-1908] -/
def checkHistoryRecord (primitives : Primitives) (typeName : String) (typeHistory : TypeHistory)
    (fieldName : String) (record : HistoricalField) : List Finding :=
  match primitives.parseVersion record.firstSeen, record.retirement primitives with
  | some firstSeen, some (some retiredIn) =>
      let retiredDisplay := retiredIn.display
      let firstDisplay := firstSeen.display
      (if retiredIn < firstSeen then
        [error "HIS014" "Field retirement precedes its first release"
          s!"History retires `{typeName}.{fieldName}` in {retiredDisplay}, before its first release {firstDisplay}."
          "Correct the release versions from attested historical artifacts."]
      else []) ++
      (if !typeHistory.reservedFields.contains fieldName then
        [error "HIS015" "Retired field name is not reserved"
          s!"History retires `{typeName}.{fieldName}` but does not reserve the field name."
          "Add every retired field name to `reservedFields` and never reuse it."]
      else [])
  | some _, some none => []
  | _, _ =>
      [error "HIS013" "History contains an invalid semantic version"
        s!"History for `{typeName}.{fieldName}` has an invalid `firstSeen` or `retiredIn` value."
        "Use exact semantic versions from released `binver` metadata."]

/-- HIS016: a reserved name has a retired record. [SRC lib.rs:1909-1924] -/
def checkReservedField (typeName : String) (typeHistory : TypeHistory) (fieldName : String) :
    List Finding :=
  if typeHistory.fields[fieldName]?.all (·.retiredIn.isNone) then
    [error "HIS016" "Reserved field has no retirement record"
      s!"History reserves `{typeName}.{fieldName}` without a matching retired field record."
      "Record the historical type and retirement release for each reserved field name."]
  else []

/-- The checks of one struct of the history. [SRC lib.rs:1871-1925] -/
def checkTypeHistory (primitives : Primitives) (typeName : String) (typeHistory : TypeHistory) :
    List Finding :=
  (forEach typeHistory.fields fun fieldName record =>
    checkHistoryRecord primitives typeName typeHistory fieldName record) ++
  (typeHistory.reservedFields.toList.flatMap fun fieldName =>
    checkReservedField typeName typeHistory fieldName)

/-! ### The manifest against two releases -/

/-- HIS002 and HIS003: a field of the source is recorded with its type. [SRC lib.rs:1932-1962] -/
def checkSourceField (history : SchemaHistory) (sourceVersion typeName fieldName : String)
    (fieldType : Value) : List Finding :=
  match history.record typeName fieldName with
  | none =>
      [error "HIS002" "Historical baseline is incomplete"
        s!"Source {sourceVersion} contains `{typeName}.{fieldName}`, but the cumulative history has no record of it."
        "Bootstrap the manifest from all known releases and preserve every historical field before approving an upgrade."]
  | some record =>
      if record.valueType ≠ fieldType then
        let recorded := displayJson record.valueType
        let observed := displayJson fieldType
        [error "HIS003" "Historical field type does not match the source artifact"
          s!"History records `{typeName}.{fieldName}` as {recorded}, but source {sourceVersion} contains {observed}."
          "Correct the history from attested release artifacts. Do not rewrite history to fit the candidate."]
      else []

/-- HIS005 to HIS009: a field of the target is neither reserved nor retired, and recorded with its
type and first release. [SRC lib.rs:1977-2038] -/
def checkTargetField (sourceTypes : StringMap (StringMap Value)) (targetVersion typeName : String)
    (typeHistory : TypeHistory) (fieldName : String) (fieldType : Value) : List Finding :=
  (if typeHistory.reservedFields.contains fieldName then
    [error "HIS005" "Reserved field name was reused"
      s!"Target {targetVersion} reintroduces reserved field `{typeName}.{fieldName}`, creating a historical type-confusion risk."
      "Choose a new field name and keep the historical name permanently reserved."]
  else []) ++
  (match typeHistory.fields[fieldName]? with
  | none =>
      [error "HIS006" "Candidate field is missing from schema history"
        s!"Target {targetVersion} contains `{typeName}.{fieldName}`, but the cumulative history was not updated."
        "Record the field type and set `firstSeen` to the candidate contract version."]
  | some record =>
      let retiredIn := record.retiredIn.getD "an earlier release"
      let recorded := displayJson record.valueType
      let observed := displayJson fieldType
      (if record.retiredIn.isSome then
        [error "HIS007" "Retired field was reintroduced"
          s!"Target {targetVersion} contains `{typeName}.{fieldName}`, which history marks retired in {retiredIn}."
          "Use a new field name. Never reinterpret a retired key across stored or cross-contract maps."]
      else []) ++
      (if record.valueType ≠ fieldType then
        [error "HIS008" "Historical field type changed"
          s!"History fixes `{typeName}.{fieldName}` as {recorded}, but target {targetVersion} contains {observed}."
          "Add a new field and explicit migration rather than changing the meaning or representation of a historical field name."]
      else []) ++
      (if !sourceTypes[typeName]?.any (·.contains fieldName) &&
          decide (record.firstSeen ≠ targetVersion) then
        [error "HIS009" "New field has an incorrect first-seen release"
          s!"`{typeName}.{fieldName}` first appears in target {targetVersion}, but history declares `{record.firstSeen}`."
          "Set `firstSeen` to the exact candidate `binver` and review the history change with the WASM."]
      else []))

/-- HIS004, or the checks of the fields of one struct of the target. [SRC lib.rs:1964-2039] -/
def checkTargetType (history : SchemaHistory) (sourceTypes : StringMap (StringMap Value))
    (targetVersion typeName : String) (fields : StringMap Value) : List Finding :=
  match history.types[typeName]? with
  | none =>
      [error "HIS004" "Candidate type is missing from schema history"
        s!"Target {targetVersion} contains struct `{typeName}`, but the cumulative history has no record for the type."
        "Add the type and every field with accurate `firstSeen` values in the same reviewed release change."]
  | some typeHistory =>
      forEach fields fun fieldName fieldType =>
        checkTargetField sourceTypes targetVersion typeName typeHistory fieldName fieldType

/-- HIS010 and HIS011: a field that the target drops is retired in the target version and reserved.
[SRC lib.rs:2043-2076] -/
def checkRemovedField (history : SchemaHistory) (targetTypes : StringMap (StringMap Value))
    (targetVersion typeName fieldName : String) : List Finding :=
  if targetTypes[typeName]?.any (·.contains fieldName) then []
  else if (history.record typeName fieldName).all (·.retiredIn ≠ some targetVersion) ||
      !history.reserves typeName fieldName then
    [error "HIS010" "Removed field is not retired and reserved"
      s!"Target {targetVersion} removes `{typeName}.{fieldName}` without recording retirement in this release and permanently reserving the name."
      "Keep the field, or record `retiredIn` and add it to `reservedFields`. Prove all migration and reader compatibility assumptions separately."]
  else
    [warning "HIS011" "Field removal is explicitly retired but remains migration-sensitive"
      s!"`{typeName}.{fieldName}` is retired and reserved in {targetVersion}. Archived records or older contracts can still carry it."
      "Rehearse archived-state reads and dependency rollout, and never reuse the field name."]

/-- The history against both releases. Only an unsupported format (HIS001) ends the check early; an
incomplete history (HIS012) is still compared. [SRC lib.rs:1844-2078] -/
def validateSchemaHistory (primitives : Primitives) (source target : Artifact)
    (history : SchemaHistory) : List Finding :=
  if history.formatVersion ≠ 1 then
    [error "HIS001" "Unsupported schema-history format"
      s!"The history manifest uses format version {history.formatVersion}. This build supports version 1."
      "Regenerate the history manifest with a supported format before relying on it."]
  else
    let sourceVersion := source.version.getD "unknown"
    let targetVersion := target.version.getD "unknown"
    let sourceTypes := artifactStructFields source
    let targetTypes := artifactStructFields target
    (if history.complete = false then
      [error "HIS012" "Schema history is not marked complete"
        "The history does not declare complete coverage of all known releases and fields."
        "Set `complete` to true only after you reconstruct and review the full release history."]
    else []) ++
    (forEach history.types fun typeName typeHistory =>
      checkTypeHistory primitives typeName typeHistory) ++
    (forEach sourceTypes fun typeName fields =>
      forEach fields fun fieldName fieldType =>
        checkSourceField history sourceVersion typeName fieldName fieldType) ++
    (forEach targetTypes fun typeName fields =>
      checkTargetType history sourceTypes targetVersion typeName fields) ++
    (forEach sourceTypes fun typeName fields =>
      forEach fields fun fieldName _ =>
        checkRemovedField history targetTypes targetVersion typeName fieldName)

end SorobanUpgrades
