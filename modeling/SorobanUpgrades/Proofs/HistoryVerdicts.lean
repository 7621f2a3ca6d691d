/-
Module: SorobanUpgrades.Proofs.HistoryVerdicts
Purpose: What it means that the history check raises no error: which fields are
  recorded, which are retired, and which changes that leaves.
Trusted boundary: none
Main exports: Artifact.field, SoundHistory, unblocked_validateSchemaHistory_iff
-/
import SorobanUpgrades.Proofs.CheckVerdicts

namespace SorobanUpgrades

variable {primitives : Primitives} {source target : Artifact} {history : SchemaHistory}

/-- The type of a struct field. A type that is absent or no struct has no fields. -/
def Artifact.field (artifact : Artifact) (typeName fieldName : String) : Option Value :=
  (artifactStructFields artifact)[typeName]?.bind (·[fieldName]?)

/-- The release a report names when the artifact does not. -/
def Artifact.release (artifact : Artifact) : String := artifact.version.getD "unknown"

/-! ### The manifest on its own -/

/-- Readable versions in order, and a reserved name for a retired field. -/
def SoundRecord (primitives : Primitives) (typeHistory : TypeHistory) (fieldName : String)
    (record : HistoricalField) : Prop :=
  ∃ firstSeen, primitives.parseVersion record.firstSeen = some firstSeen ∧
    ∀ text, record.retiredIn = some text →
      ∃ retiredIn, primitives.parseVersion text = some retiredIn ∧ firstSeen ≤ retiredIn ∧
        fieldName ∈ typeHistory.reservedFields

theorem unblocked_checkHistoryRecord_iff {typeName fieldName : String}
    {typeHistory : TypeHistory} {record : HistoricalField} :
    Unblocked (checkHistoryRecord primitives typeName typeHistory fieldName record) ↔
      SoundRecord primitives typeHistory fieldName record := by
  unfold checkHistoryRecord HistoricalField.retirement SoundRecord
  cases firstRead : primitives.parseVersion record.firstSeen with
  | none => simp
  | some firstSeen =>
      cases record.retiredIn with
      | none => simp
      | some text =>
          cases retiredRead : primitives.parseVersion text with
          | none => simp [retiredRead]
          | some retiredIn =>
              simp [retiredRead, unblocked_ite]

/-- A reserved name belongs to a retired field. -/
theorem unblocked_checkReservedField_iff {typeName fieldName : String}
    {typeHistory : TypeHistory} :
    Unblocked (checkReservedField typeName typeHistory fieldName) ↔
      ∃ record, typeHistory.fields[fieldName]? = some record ∧
        record.retiredIn.isSome = true := by
  unfold checkReservedField
  cases typeHistory.fields[fieldName]? with
  | none => simp
  | some record => cases retired : record.retiredIn <;> simp [retired]

/-! ### Fields of the two releases -/

theorem unblocked_checkSourceField_iff {version typeName fieldName : String} {fieldType : Value} :
    Unblocked (checkSourceField history version typeName fieldName fieldType) ↔
      ∃ record, history.record typeName fieldName = some record ∧
        record.valueType = fieldType := by
  unfold checkSourceField
  cases history.record typeName fieldName with
  | none => simp
  | some record => simp [unblocked_ite]

theorem unblocked_checkTargetField_iff {sourceTypes : StringMap (StringMap Value)}
    {version typeName fieldName : String} {typeHistory : TypeHistory} {fieldType : Value} :
    Unblocked (checkTargetField sourceTypes version typeName typeHistory fieldName fieldType) ↔
      fieldName ∉ typeHistory.reservedFields ∧
        ∃ record, typeHistory.fields[fieldName]? = some record ∧ record.retiredIn = none ∧
          record.valueType = fieldType ∧
          (sourceTypes[typeName]?.any (·.contains fieldName) = false →
            record.firstSeen = version) := by
  unfold checkTargetField
  rw [unblocked_append, unblocked_error_iff, Std.ExtTreeSet.mem_iff_contains]
  refine and_congr_right fun _ => ?_
  cases typeHistory.fields[fieldName]? with
  | none => simp
  | some record => simp [unblocked_ite]

theorem unblocked_checkRemovedField_iff {targetTypes : StringMap (StringMap Value)}
    {version typeName fieldName : String} :
    Unblocked (checkRemovedField history targetTypes version typeName fieldName) ↔
      (targetTypes[typeName]?.any (·.contains fieldName) = false →
        (∃ record, history.record typeName fieldName = some record ∧
          record.retiredIn = some version) ∧ history.reserves typeName fieldName = true) := by
  unfold checkRemovedField
  cases targetTypes[typeName]?.any (·.contains fieldName) with
  | true => simp
  | false =>
      cases history.record typeName fieldName with
      | none => simp
      | some record => simp [unblocked_ite]

/-! ### The whole check -/

theorem field_eq_none_iff {artifact : Artifact} {typeName fieldName : String} :
    (artifactStructFields artifact)[typeName]?.any (·.contains fieldName) = false ↔
      artifact.field typeName fieldName = none := by
  unfold Artifact.field
  cases (artifactStructFields artifact)[typeName]? with
  | none => simp
  | some fields =>
      rw [Option.any_some, Option.bind_some, Std.ExtTreeMap.contains_eq_isSome_getElem?,
        Option.isSome_eq_false_iff, Option.isNone_iff_eq_none]

/-- A check of every field of every struct of an artifact. -/
theorem forall_fields_iff {artifact : Artifact} {property : String → String → Value → Prop} :
    (∀ typeName fields, (artifactStructFields artifact)[typeName]? = some fields →
      ∀ fieldName fieldType, fields[fieldName]? = some fieldType →
        property typeName fieldName fieldType) ↔
    ∀ typeName fieldName fieldType, artifact.field typeName fieldName = some fieldType →
      property typeName fieldName fieldType := by
  constructor
  · intro every typeName fieldName fieldType stored
    obtain ⟨fields, found, listed⟩ := Option.bind_eq_some_iff.1 stored
    exact every typeName fields found fieldName fieldType listed
  · intro every typeName fields found fieldName fieldType listed
    exact every typeName fieldName fieldType (Option.bind_eq_some_iff.2 ⟨fields, found, listed⟩)

/-- What a history check without errors has established. -/
structure SoundHistory (primitives : Primitives) (source target : Artifact)
    (history : SchemaHistory) : Prop where
  supported : history.formatVersion = 1
  complete : history.complete = true
  records : ∀ (typeName : String) (typeHistory : TypeHistory),
    history.types[typeName]? = some typeHistory →
    ∀ (fieldName : String) (record : HistoricalField),
      typeHistory.fields[fieldName]? = some record →
      SoundRecord primitives typeHistory fieldName record
  reservations : ∀ (typeName : String) (typeHistory : TypeHistory),
    history.types[typeName]? = some typeHistory → ∀ fieldName ∈ typeHistory.reservedFields,
      ∃ record, typeHistory.fields[fieldName]? = some record ∧ record.retiredIn.isSome = true
  sourceFields : ∀ typeName fieldName fieldType,
    source.field typeName fieldName = some fieldType →
    ∃ record, history.record typeName fieldName = some record ∧ record.valueType = fieldType
  targetTypes : ∀ (typeName : String) (fields : StringMap Value),
    (artifactStructFields target)[typeName]? = some fields →
    ∃ typeHistory, history.types[typeName]? = some typeHistory
  targetFields : ∀ typeName fieldName fieldType,
    target.field typeName fieldName = some fieldType →
    history.reserves typeName fieldName = false ∧
    ∃ record, history.record typeName fieldName = some record ∧ record.retiredIn = none ∧
      record.valueType = fieldType ∧
      (source.field typeName fieldName = none → record.firstSeen = target.release)
  removedFields : ∀ typeName fieldName fieldType,
    source.field typeName fieldName = some fieldType → target.field typeName fieldName = none →
    (∃ record, history.record typeName fieldName = some record ∧
      record.retiredIn = some target.release) ∧ history.reserves typeName fieldName = true

/-- The checks of the target structs, type by type and field by field. -/
theorem unblocked_checkTargetTypes_iff :
    (∀ (typeName : String) (fields : StringMap Value),
      (artifactStructFields target)[typeName]? = some fields →
      Unblocked (checkTargetType history (artifactStructFields source) target.release typeName
        fields)) ↔
    (∀ (typeName : String) (fields : StringMap Value),
      (artifactStructFields target)[typeName]? = some fields →
      ∃ typeHistory, history.types[typeName]? = some typeHistory) ∧
    ∀ typeName fieldName fieldType, target.field typeName fieldName = some fieldType →
      history.reserves typeName fieldName = false ∧
      ∃ record, history.record typeName fieldName = some record ∧ record.retiredIn = none ∧
        record.valueType = fieldType ∧
        (source.field typeName fieldName = none → record.firstSeen = target.release) := by
  have known : ∀ {typeName : String} {fields : StringMap Value} {typeHistory : TypeHistory},
      history.types[typeName]? = some typeHistory →
      (Unblocked (checkTargetType history (artifactStructFields source) target.release typeName
        fields) ↔
      ∀ (fieldName : String) (fieldType : Value), fields[fieldName]? = some fieldType →
        history.reserves typeName fieldName = false ∧
        ∃ record, history.record typeName fieldName = some record ∧ record.retiredIn = none ∧
          record.valueType = fieldType ∧
          (source.field typeName fieldName = none → record.firstSeen = target.release)) := by
    intro typeName fields typeHistory stored
    rw [checkTargetType, stored]
    refine unblocked_forEach_iff.trans ?_
    simp only [unblocked_checkTargetField_iff, field_eq_none_iff, SchemaHistory.reserves,
      SchemaHistory.record, stored, Option.any_some, Option.bind_some,
      Std.ExtTreeSet.mem_iff_contains, Bool.not_eq_true]
  have unknown : ∀ {typeName : String} {fields : StringMap Value},
      Unblocked (checkTargetType history (artifactStructFields source) target.release typeName
        fields) → ∃ typeHistory, history.types[typeName]? = some typeHistory := by
    intro typeName fields clear
    cases stored : history.types[typeName]? with
    | none => simp [checkTargetType, stored] at clear
    | some typeHistory => exact ⟨typeHistory, rfl⟩
  constructor
  · intro clear
    refine ⟨fun typeName fields found => unknown (clear typeName fields found), ?_⟩
    refine forall_fields_iff.1 fun typeName fields found => ?_
    obtain ⟨typeHistory, stored⟩ := unknown (clear typeName fields found)
    exact (known stored).1 (clear typeName fields found)
  · rintro ⟨types, every⟩ typeName fields found
    obtain ⟨typeHistory, stored⟩ := types typeName fields found
    exact (known stored).2 (forall_fields_iff.2 every typeName fields found)

theorem unblocked_checkTypeHistory_iff {typeName : String} {typeHistory : TypeHistory} :
    Unblocked (checkTypeHistory primitives typeName typeHistory) ↔
      (∀ (fieldName : String) (record : HistoricalField),
        typeHistory.fields[fieldName]? = some record →
        SoundRecord primitives typeHistory fieldName record) ∧
      ∀ fieldName ∈ typeHistory.reservedFields,
        ∃ record, typeHistory.fields[fieldName]? = some record ∧
          record.retiredIn.isSome = true := by
  rw [checkTypeHistory, unblocked_append]
  refine and_congr ?_ ?_
  · refine unblocked_forEach_iff.trans ?_
    simp only [unblocked_checkHistoryRecord_iff]
  · rw [unblocked_flatMap]
    simp only [unblocked_checkReservedField_iff, Std.ExtTreeSet.mem_toList]

/-- A check of every struct field of an artifact, type by type. -/
theorem unblocked_forEach_fields_iff {artifact : Artifact}
    {check : String → String → Value → List Finding} :
    Unblocked (forEach (artifactStructFields artifact) fun typeName fields =>
      forEach fields fun fieldName fieldType => check typeName fieldName fieldType) ↔
    ∀ typeName fieldName fieldType, artifact.field typeName fieldName = some fieldType →
      Unblocked (check typeName fieldName fieldType) := by
  refine unblocked_forEach_iff.trans ?_
  rw [← forall_fields_iff]
  exact forall_congr' fun typeName => forall_congr' fun fields =>
    forall_congr' fun _ => unblocked_forEach_iff

theorem unblocked_validateSchemaHistory_iff :
    Unblocked (validateSchemaHistory primitives source target history) ↔
      SoundHistory primitives source target history := by
  by_cases supported : history.formatVersion = 1
  · have parts : Unblocked (validateSchemaHistory primitives source target history) ↔
        ((((history.complete = true ∧
        ∀ (typeName : String) (typeHistory : TypeHistory),
          history.types[typeName]? = some typeHistory →
          Unblocked (checkTypeHistory primitives typeName typeHistory)) ∧
        ∀ typeName fieldName fieldType, source.field typeName fieldName = some fieldType →
          Unblocked (checkSourceField history source.release typeName fieldName fieldType)) ∧
        ∀ (typeName : String) (fields : StringMap Value),
          (artifactStructFields target)[typeName]? = some fields →
          Unblocked (checkTargetType history (artifactStructFields source) target.release
            typeName fields)) ∧
        ∀ typeName fieldName fieldType, source.field typeName fieldName = some fieldType →
          Unblocked (checkRemovedField history (artifactStructFields target) target.release
            typeName fieldName)) := by
      rw [validateSchemaHistory, if_neg (not_not.2 supported)]
      simp only [unblocked_append, unblocked_error_iff, Bool.not_eq_false]
      exact and_congr (and_congr (and_congr (and_congr Iff.rfl unblocked_forEach_iff)
        unblocked_forEach_fields_iff) unblocked_forEach_iff) unblocked_forEach_fields_iff
    rw [parts, unblocked_checkTargetTypes_iff]
    simp only [unblocked_checkTypeHistory_iff, unblocked_checkSourceField_iff,
      unblocked_checkRemovedField_iff, field_eq_none_iff]
    constructor
    · rintro ⟨⟨⟨⟨complete, manifests⟩, sourceFields⟩, targetTypes, targetFields⟩, removedFields⟩
      exact ⟨supported, complete, fun typeName typeHistory stored =>
        (manifests typeName typeHistory stored).1, fun typeName typeHistory stored =>
        (manifests typeName typeHistory stored).2, sourceFields, targetTypes, targetFields,
        removedFields⟩
    · rintro ⟨_, complete, records, reservations, sourceFields, targetTypes, targetFields,
        removedFields⟩
      exact ⟨⟨⟨⟨complete, fun typeName typeHistory stored => ⟨records typeName typeHistory stored,
        reservations typeName typeHistory stored⟩⟩, sourceFields⟩, targetTypes, targetFields⟩,
        removedFields⟩
  · rw [validateSchemaHistory, if_pos supported]
    refine iff_of_false (by simp) fun sound => supported sound.supported

end SorobanUpgrades
