/-
Module: SorobanUpgrades.Proofs.FindingCodes
Purpose: Which finding codes a check can report, so that a code in a report is
  traced back to the one check that adds it.
Trusted boundary: none
Main exports: Reports, CodesWithin, reports_validateSchemaHistory_iff,
  reports_storagePair_iff, reports_pushedFindings_iff
-/
import SorobanUpgrades.Core.Validate

namespace SorobanUpgrades

/-! ### Codes of a list of findings -/

/-- A finding with this code is present. -/
def Reports (code : String) (findings : List Finding) : Prop :=
  ∃ finding ∈ findings, finding.code = code

/-- Every finding carries one of these codes. -/
def CodesWithin (codes : List String) (findings : List Finding) : Prop :=
  ∀ finding ∈ findings, finding.code ∈ codes

section Codes

variable {code title detail remediation : String} {codes : List String}

@[simp] theorem reports_nil : ¬ Reports code [] := by simp [Reports]

@[simp] theorem reports_append {before after : List Finding} :
    Reports code (before ++ after) ↔ Reports code before ∨ Reports code after := by
  simp [Reports, or_and_right, exists_or]

@[simp] theorem reports_error {other : String} :
    Reports code [error other title detail remediation] ↔ code = other := by
  simp [Reports, error, eq_comm]

@[simp] theorem reports_warning {other : String} :
    Reports code [warning other title detail remediation] ↔ code = other := by
  simp [Reports, warning, eq_comm]

@[simp] theorem reports_info {other : String} :
    Reports code [info other title detail remediation] ↔ code = other := by
  simp [Reports, info, eq_comm]

@[simp] theorem codesWithin_nil : CodesWithin codes [] := by simp [CodesWithin]

@[simp] theorem codesWithin_error :
    CodesWithin codes [error code title detail remediation] ↔ code ∈ codes := by
  simp [CodesWithin, error]

@[simp] theorem codesWithin_warning :
    CodesWithin codes [warning code title detail remediation] ↔ code ∈ codes := by
  simp [CodesWithin, warning]

@[simp] theorem codesWithin_info :
    CodesWithin codes [info code title detail remediation] ↔ code ∈ codes := by
  simp [CodesWithin, info]

@[simp] theorem codesWithin_append {before after : List Finding} :
    CodesWithin codes (before ++ after) ↔ CodesWithin codes before ∧ CodesWithin codes after := by
  simp [CodesWithin, or_imp, forall_and]

theorem codesWithin_ite {condition : Prop} [Decidable condition] {findings others : List Finding}
    (here : CodesWithin codes findings) (there : CodesWithin codes others) :
    CodesWithin codes (if condition then findings else others) := by
  split
  · exact here
  · exact there

theorem codesWithin_flatMap {α : Type} {items : List α} {check : α → List Finding}
    (each : ∀ item, CodesWithin codes (check item)) :
    CodesWithin codes (items.flatMap check) := by
  intro finding found
  obtain ⟨item, _, raised⟩ := List.mem_flatMap.1 found
  exact each item finding raised

theorem codesWithin_forEach {ν : Type} {entries : StringMap ν} {check : String → ν → List Finding}
    (each : ∀ key value, CodesWithin codes (check key value)) :
    CodesWithin codes (forEach entries check) :=
  codesWithin_flatMap fun entry => each entry.1 entry.2

/-- A check does not report a code that is none of its own. -/
theorem CodesWithin.not_reports {findings : List Finding} (within : CodesWithin codes findings)
    (foreign : code ∉ codes) : ¬ Reports code findings := by
  rintro ⟨finding, found, rfl⟩
  exact foreign (within finding found)

theorem CodesWithin.filter_eq_self {findings : List Finding} (within : CodesWithin codes findings) :
    findings.filter (·.code ∈ codes) = findings :=
  List.filter_eq_self.2 fun finding found => decide_eq_true (within finding found)

theorem CodesWithin.filter_eq_nil {findings : List Finding} {others : List String}
    (within : CodesWithin others findings) (disjoint : ∀ code ∈ codes, code ∉ others) :
    findings.filter (·.code ∈ codes) = [] := by
  rw [List.filter_eq_nil_iff]
  intro finding found listed
  exact disjoint _ (of_decide_eq_true listed) (within finding found)

end Codes

/-! ### The codes of the checks -/

section Checks

variable {primitives : Primitives} {source target : Artifact} {policy : Policy}
  {context : ValidationContext}

theorem codesWithin_checkPolicy : CodesWithin ["POL001", "POL002"] (checkPolicy policy) := by
  rw [checkPolicy, codesWithin_append]
  exact ⟨codesWithin_ite (by simp) (by simp), codesWithin_ite (by simp) (by simp)⟩

theorem codesWithin_checkProtocolContext :
    CodesWithin ["NET001", "NET002", "NET003", "NET004", "NET005", "NET006"]
      (checkProtocolContext context) := by
  unfold checkProtocolContext
  cases context.protocolSource with
  | unpinned => exact codesWithin_ite (by simp) (by simp)
  | offlineAssertion => exact codesWithin_ite (by simp) (by simp)
  | stellarCliNetworkInfo => exact codesWithin_ite (by simp) (by simp)

theorem codesWithin_checkEnvironmentCompatibility :
    CodesWithin ["ENV001", "ENV002"] (checkEnvironmentCompatibility target context) := by
  rw [checkEnvironmentCompatibility, codesWithin_append]
  exact ⟨codesWithin_ite (by simp) (by simp), codesWithin_ite (by simp) (by simp)⟩

theorem codesWithin_checkCap0086 :
    CodesWithin ["CAP001", "CAP002", "CAP003", "CAP004", "CAP007", "CAP008", "CAP009"]
      (checkCap0086 target context) := by
  simp only [checkCap0086, codesWithin_append]
  refine ⟨⟨⟨⟨?_, ?_⟩, ?_⟩, ?_⟩, ?_⟩
  · cases context.targetProtocolVersion with
    | none => simp
    | some protocol =>
        exact codesWithin_ite (by simp)
          (codesWithin_ite (by simp) (codesWithin_ite (by simp) (by simp)))
  all_goals exact codesWithin_ite (by simp) (by simp)

theorem codesWithin_checkUpgradeHostCapability {artifact : Artifact} {side code : String} :
    CodesWithin [code] (checkUpgradeHostCapability artifact side code) :=
  codesWithin_ite (codesWithin_ite (by simp) (by simp)) (codesWithin_ite (by simp) (by simp))

theorem CodesWithin.mono {codes more : List String} {findings : List Finding}
    (within : CodesWithin codes findings) (wider : codes ⊆ more) : CodesWithin more findings :=
  fun finding found => wider (within finding found)

theorem codesWithin_checkUpgradeEntrypoint :
    CodesWithin ["UPG001", "UPG003", "UPG004"] (checkUpgradeEntrypoint source target policy) := by
  rw [checkUpgradeEntrypoint, codesWithin_append]
  refine ⟨codesWithin_ite (by simp) (by simp), codesWithin_ite ?_ (by simp)⟩
  rw [codesWithin_append]
  exact ⟨codesWithin_checkUpgradeHostCapability.mono (by simp),
    codesWithin_checkUpgradeHostCapability.mono (by simp)⟩

theorem codesWithin_checkConstructor : CodesWithin ["UPG002"] (checkConstructor target policy) :=
  codesWithin_ite (codesWithin_ite (by simp) (by simp)) (by simp)

theorem codesWithin_checkVersions :
    CodesWithin ["VER001", "VER002", "VER003"] (checkVersions primitives source target policy) := by
  unfold checkVersions
  refine codesWithin_ite (by simp) ?_
  split
  · split
    · exact codesWithin_ite (by simp) (by simp)
    · simp
  · simp

theorem codesWithin_compareFunction {name : String} {old : InterfaceEntry} :
    CodesWithin ["ABI001", "ABI002"] (compareFunction policy target name old) := by
  unfold compareFunction
  cases target.functions[name]? with
  | none => exact codesWithin_ite (by simp) (by simp)
  | some new => exact codesWithin_ite (by simp) (by simp)

theorem codesWithin_compareEvent {name : String} {old : InterfaceEntry} :
    CodesWithin ["EVT001", "EVT002"] (compareEvent policy target name old) := by
  unfold compareEvent
  cases target.events[name]? with
  | none => exact codesWithin_ite (by simp) (by simp)
  | some new => exact codesWithin_ite (by simp) (by simp)

theorem code_compareChangedType {name : String} {old new : InterfaceEntry} :
    (compareChangedType target context name old new).code ∈ ["ABI004", "CAP005", "CAP006"] := by
  unfold compareChangedType
  cases optionalStructFieldsAdded old new with
  | none => simp [error]
  | some added =>
      dsimp only
      split <;> simp [error]

theorem codesWithin_compareUserType {name : String} {old : InterfaceEntry} :
    CodesWithin ["ABI003", "ABI004", "CAP005", "CAP006"]
      (compareUserType policy context target name old) := by
  unfold compareUserType
  cases target.userTypes[name]? with
  | none => exact codesWithin_ite (by simp) (by simp)
  | some new =>
      refine codesWithin_ite ?_ (by simp)
      rintro finding found
      rw [List.mem_singleton.1 found]
      exact List.mem_cons_of_mem _ code_compareChangedType

theorem codesWithin_compareInterfaces :
    CodesWithin ["ABI001", "ABI002", "EVT001", "EVT002", "ABI003", "ABI004", "CAP005", "CAP006"]
      (compareInterfaces source target policy context) := by
  rw [compareInterfaces, codesWithin_append, codesWithin_append]
  refine ⟨⟨?_, ?_⟩, ?_⟩
  · exact codesWithin_forEach fun _ _ => codesWithin_compareFunction.mono (by simp)
  · exact codesWithin_forEach fun _ _ => codesWithin_compareEvent.mono (by simp)
  · exact codesWithin_forEach fun _ _ => codesWithin_compareUserType.mono (by simp)

theorem codesWithin_checkImpactLimit {limitExceeded : Bool} :
    CodesWithin ["RES001"] (checkImpactLimit limitExceeded) :=
  codesWithin_ite (by simp) (by simp)

/-! ### History codes -/

theorem codesWithin_checkHistoryRecord {typeName fieldName : String} {typeHistory : TypeHistory}
    {record : HistoricalField} :
    CodesWithin ["HIS013", "HIS014", "HIS015"]
      (checkHistoryRecord primitives typeName typeHistory fieldName record) := by
  unfold checkHistoryRecord
  split
  · rw [codesWithin_append]
    exact ⟨codesWithin_ite (by simp) (by simp), codesWithin_ite (by simp) (by simp)⟩
  · simp
  · simp

theorem codesWithin_checkTypeHistory {typeName : String} {typeHistory : TypeHistory} :
    CodesWithin ["HIS013", "HIS014", "HIS015", "HIS016"]
      (checkTypeHistory primitives typeName typeHistory) := by
  rw [checkTypeHistory, codesWithin_append]
  refine ⟨codesWithin_forEach fun _ _ => codesWithin_checkHistoryRecord.mono (by simp),
    codesWithin_flatMap fun fieldName => ?_⟩
  exact codesWithin_ite (by simp) (by simp)

variable {history : SchemaHistory}

theorem codesWithin_checkSourceField {version typeName fieldName : String} {fieldType : Value} :
    CodesWithin ["HIS002", "HIS003"]
      (checkSourceField history version typeName fieldName fieldType) := by
  unfold checkSourceField
  cases history.record typeName fieldName with
  | none => simp
  | some record => exact codesWithin_ite (by simp) (by simp)

theorem codesWithin_checkTargetField {sourceTypes : StringMap (StringMap Value)}
    {version typeName fieldName : String} {typeHistory : TypeHistory} {fieldType : Value} :
    CodesWithin ["HIS005", "HIS006", "HIS007", "HIS008", "HIS009"]
      (checkTargetField sourceTypes version typeName typeHistory fieldName fieldType) := by
  rw [checkTargetField, codesWithin_append]
  refine ⟨codesWithin_ite (by simp) (by simp), ?_⟩
  cases typeHistory.fields[fieldName]? with
  | none => simp
  | some record =>
      simp only [codesWithin_append]
      exact ⟨⟨codesWithin_ite (by simp) (by simp), codesWithin_ite (by simp) (by simp)⟩,
        codesWithin_ite (by simp) (by simp)⟩

theorem codesWithin_checkTargetType {sourceTypes : StringMap (StringMap Value)}
    {version typeName : String} {fields : StringMap Value} :
    CodesWithin ["HIS004", "HIS005", "HIS006", "HIS007", "HIS008", "HIS009"]
      (checkTargetType history sourceTypes version typeName fields) := by
  unfold checkTargetType
  cases history.types[typeName]? with
  | none => simp
  | some typeHistory =>
      exact codesWithin_forEach fun _ _ => codesWithin_checkTargetField.mono (by simp)

theorem codesWithin_checkRemovedField {targetTypes : StringMap (StringMap Value)}
    {version typeName fieldName : String} :
    CodesWithin ["HIS010", "HIS011"]
      (checkRemovedField history targetTypes version typeName fieldName) :=
  codesWithin_ite (by simp) (codesWithin_ite (by simp) (by simp))

/-- The codes of a history check that has read a supported format. -/
def comparedHistoryCodes : List String :=
  ["HIS002", "HIS003", "HIS004", "HIS005", "HIS006", "HIS007", "HIS008", "HIS009", "HIS010",
    "HIS011", "HIS013", "HIS014", "HIS015", "HIS016"]

/-- A history of another format is named and not read any further. -/
theorem reports_validateSchemaHistory_iff {code : String} (foreign : code ∉ comparedHistoryCodes) :
    Reports code (validateSchemaHistory primitives source target history) ↔
      (history.formatVersion ≠ 1 ∧ code = "HIS001") ∨
        (history.formatVersion = 1 ∧ history.complete = false ∧ code = "HIS012") := by
  by_cases supported : history.formatVersion = 1
  · rw [validateSchemaHistory, if_neg (not_not.2 supported)]
    have manifest : ¬ Reports code (forEach history.types fun typeName typeHistory =>
        checkTypeHistory primitives typeName typeHistory) :=
      (codesWithin_forEach fun _ _ => codesWithin_checkTypeHistory.mono
        (by simp [comparedHistoryCodes])).not_reports foreign
    have sourceFields : ¬ Reports code (forEach (artifactStructFields source)
        fun typeName fields => forEach fields fun fieldName fieldType =>
          checkSourceField history (source.version.getD "unknown") typeName fieldName fieldType) :=
      (codesWithin_forEach fun _ _ => codesWithin_forEach fun _ _ =>
        codesWithin_checkSourceField.mono (by simp [comparedHistoryCodes])).not_reports foreign
    have targetTypes : ¬ Reports code (forEach (artifactStructFields target)
        fun typeName fields => checkTargetType history (artifactStructFields source)
          (target.version.getD "unknown") typeName fields) :=
      (codesWithin_forEach fun _ _ => codesWithin_checkTargetType.mono
        (by simp [comparedHistoryCodes])).not_reports foreign
    have removedFields : ¬ Reports code (forEach (artifactStructFields source)
        fun typeName fields => forEach fields fun fieldName _ =>
          checkRemovedField history (artifactStructFields target)
            (target.version.getD "unknown") typeName fieldName) :=
      (codesWithin_forEach fun _ _ => codesWithin_forEach fun _ _ =>
        codesWithin_checkRemovedField.mono (by simp [comparedHistoryCodes])).not_reports foreign
    simp only [reports_append, manifest, sourceFields, targetTypes, removedFields, or_false]
    cases complete : history.complete with
    | true => simp [supported]
    | false => simp [supported]
  · rw [validateSchemaHistory, if_pos supported]
    simp [supported]

/-! ### Storage codes -/

theorem codesWithin_checkMigrationEntrypoint {key : String} {entrypoint : Option String} :
    CodesWithin ["STO009", "STO014"] (checkMigrationEntrypoint target key entrypoint) := by
  cases entrypoint with
  | none => simp [checkMigrationEntrypoint]
  | some entrypoint => exact codesWithin_ite (by simp) (by simp)

theorem codesWithin_validateMigration {key : String} {migration : Migration} :
    CodesWithin ["STO009", "STO013", "STO014"] (validateMigration target key migration) := by
  rw [validateMigration, codesWithin_append]
  exact ⟨codesWithin_ite (by simp) (by simp), codesWithin_checkMigrationEntrypoint.mono (by simp)⟩

theorem codesWithin_compareStorageEntry {new : StringMap StorageEntry} {key : String}
    {old : StorageEntry} :
    CodesWithin ["STO001", "STO002", "STO003"] (compareStorageEntry new key old) := by
  unfold compareStorageEntry
  cases new[key]? with
  | none => simp
  | some entry =>
      refine codesWithin_ite ?_ (by simp)
      dsimp only
      split <;> simp

theorem codesWithin_compareStorageSchemas {before after : StorageSchema} :
    CodesWithin ["STO001", "STO002", "STO003", "STO005"] (compareStorageSchemas before after) := by
  rw [compareStorageSchemas, codesWithin_append]
  exact ⟨codesWithin_forEach fun _ _ => codesWithin_compareStorageEntry.mono (by simp),
    codesWithin_ite (by simp) (by simp)⟩

/-- The codes of a storage check apart from those of the format and the completeness. -/
def comparedStorageCodes : List String :=
  ["STO001", "STO002", "STO003", "STO005", "STO007", "STO008", "STO009", "STO011", "STO012",
    "STO013", "STO014"]

theorem reports_validateSchemaManifest_iff {code side : String} {artifact : Artifact}
    {schema : StorageSchema} (foreign : code ∉ comparedStorageCodes) :
    Reports code (validateSchemaManifest primitives side artifact schema) ↔
      (schema.formatVersion ≠ 1 ∧ code = "STO006") ∨ (schema.complete = false ∧ code = "STO010") := by
  have versionCodes : CodesWithin comparedStorageCodes
      (artifact.version.elim [] (checkManifestVersion side schema)) := by
    cases artifact.version with
    | none => simp
    | some text => exact codesWithin_ite (by simp [comparedStorageCodes]) (by simp)
  have version := versionCodes.not_reports foreign
  have counts : ¬ Reports code (forEach schema.keyCounts (checkKeyCount side)) :=
    (codesWithin_forEach fun _ _ => codesWithin_ite (by simp [comparedStorageCodes])
      (by simp)).not_reports foreign
  have positive : ¬ Reports code
      (if schema.schemaVersion = 0 then
        [error "STO011" "Storage schema version is zero"
          s!"The {side} storage schema must use a positive schema version."
          "Set `schemaVersion` to the version that the contract stores or enforces."]
      else []) :=
    (codesWithin_ite (by simp [comparedStorageCodes]) (by simp)).not_reports foreign
  have readable : ¬ Reports code
      (if primitives.parseVersion schema.contractVersion = none then
        [error "STO012" "Storage schema contract version is invalid"
          s!"The {side} storage schema uses `{schema.contractVersion}` as its contract version."
          "Use the exact semantic version from the artifact `binver` metadata."]
      else []) :=
    (codesWithin_ite (by simp [comparedStorageCodes]) (by simp)).not_reports foreign
  simp only [validateSchemaManifest, reports_append, version, counts, positive, readable, or_false]
  refine or_congr ?_ ?_
  · split <;> simp_all
  · split <;> simp_all

/-- Beyond its manifests a compared pair reports nothing about format or completeness. -/
theorem reports_storagePair_iff {code : String} {before after : StorageSchema}
    (foreign : code ∉ comparedStorageCodes) :
    Reports code (validateSchemaManifests primitives source target before after ++
      compareStorageSchemas before after) ↔
    ((before.formatVersion ≠ 1 ∨ after.formatVersion ≠ 1) ∧ code = "STO006") ∨
      ((before.complete = false ∨ after.complete = false) ∧ code = "STO010") := by
  have migrationCodes : CodesWithin comparedStorageCodes (after.entries.flatMap fun entry =>
      entry.migration.elim [] (validateMigration target entry.key)) := by
    refine codesWithin_flatMap fun entry => ?_
    cases entry.migration with
    | none => simp
    | some migration => exact codesWithin_validateMigration.mono (by simp [comparedStorageCodes])
  have migrations := migrationCodes.not_reports foreign
  have compared : ¬ Reports code (compareStorageSchemas before after) :=
    (codesWithin_compareStorageSchemas.mono (by simp [comparedStorageCodes])).not_reports foreign
  simp only [validateSchemaManifests, reports_append, migrations, compared, or_false,
    reports_validateSchemaManifest_iff foreign]
  tauto

/-! ### Codes of a report -/

theorem codesWithin_checkHistoryEvidence {schemaHistory : Option SchemaHistory} :
    CodesWithin ("HIS000" :: "HIS001" :: "HIS012" :: comparedHistoryCodes)
      (checkHistoryEvidence primitives source target policy schemaHistory) := by
  cases schemaHistory with
  | none => exact codesWithin_ite (by simp) (by simp)
  | some history =>
      intro finding found
      by_cases compared : finding.code ∈ comparedHistoryCodes
      · simp [compared]
      · have reported : Reports finding.code
            (validateSchemaHistory primitives source target history) := ⟨finding, found, rfl⟩
        rcases (reports_validateSchemaHistory_iff compared).1 reported with
          ⟨_, code⟩ | ⟨_, _, code⟩
        · simp [code]
        · simp [code]

theorem codesWithin_checkStorageEvidence {sourceSchema targetSchema : Option StorageSchema} :
    CodesWithin ("STO000" :: "STO004" :: "STO006" :: "STO010" :: comparedStorageCodes)
      (checkStorageEvidence primitives source target policy sourceSchema targetSchema) := by
  cases sourceSchema with
  | none =>
      cases targetSchema with
      | none => exact codesWithin_ite (by simp) (by simp)
      | some after => simp [checkStorageEvidence]
  | some before =>
      cases targetSchema with
      | none => simp [checkStorageEvidence]
      | some after =>
          intro finding found
          by_cases compared : finding.code ∈ comparedStorageCodes
          · simp [compared]
          · have reported : Reports finding.code (validateSchemaManifests primitives source target
                before after ++ compareStorageSchemas before after) := ⟨finding, found, rfl⟩
            rcases (reports_storagePair_iff compared).1 reported with ⟨_, code⟩ | ⟨_, code⟩
            · simp [code]
            · simp [code]

variable {sourceSchema targetSchema : Option StorageSchema} {schemaHistory : Option SchemaHistory}
  {code : String}

/-- The codes of the checks that look at no declared evidence. -/
def artifactCodes : List String :=
  ["POL001", "POL002", "ENV001", "ENV002", "CAP001", "CAP002", "CAP003", "CAP004", "CAP007",
    "CAP008", "CAP009", "UPG001", "UPG003", "UPG004", "UPG002", "VER001", "VER002", "VER003",
    "ABI001", "ABI002", "EVT001", "EVT002", "ABI003", "ABI004", "CAP005", "CAP006", "RES001"]

/-- Any other code comes from the network evidence, the history or the storage schemas. -/
theorem reports_pushedFindings_iff (foreign : code ∉ artifactCodes) :
    Reports code (pushedFindings primitives source target sourceSchema targetSchema policy context
      schemaHistory) ↔
    Reports code (checkProtocolContext context) ∨
      Reports code (checkHistoryEvidence primitives source target policy schemaHistory) ∨
      Reports code (checkStorageEvidence primitives source target policy sourceSchema
        targetSchema) := by
  have absent : ∀ {codes : List String} {findings : List Finding}, CodesWithin codes findings →
      codes ⊆ artifactCodes → ¬ Reports code findings :=
    fun within known => (within.mono known).not_reports foreign
  simp only [pushedFindings, reports_append,
    absent codesWithin_checkPolicy (by simp [artifactCodes]),
    absent codesWithin_checkEnvironmentCompatibility (by simp [artifactCodes]),
    absent codesWithin_checkCap0086 (by simp [artifactCodes]),
    absent codesWithin_checkUpgradeEntrypoint (by simp [artifactCodes]),
    absent codesWithin_checkConstructor (by simp [artifactCodes]),
    absent codesWithin_checkVersions (by simp [artifactCodes]),
    absent codesWithin_compareInterfaces (by simp [artifactCodes]),
    absent codesWithin_checkImpactLimit (by simp [artifactCodes]),
    false_or, or_false, or_assoc]

end Checks

end SorobanUpgrades
