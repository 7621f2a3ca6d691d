/-
Module: SorobanUpgrades.Proofs.FieldLifecycle
Purpose: A cumulative history carries every field through a chain of releases: a
  name that was dropped does not come back, and a name never changes its type.
Trusted boundary: none
Main exports: SchemaHistory.CumulativeOver, UpgradeChain, fields_never_reused
-/
import SorobanUpgrades.Proofs.HistoryVerdicts
import SorobanUpgrades.Core.Plan

namespace SorobanUpgrades

/-- The later record has the type of the earlier one and stays retired. -/
def HistoricalField.KeptBy (record kept : HistoricalField) : Prop :=
  kept.valueType = record.valueType ∧
    (record.retiredIn.isSome = true → kept.retiredIn.isSome = true)

instance (record kept : HistoricalField) : Decidable (record.KeptBy kept) :=
  inferInstanceAs (Decidable (_ ∧ _))

/-- The later history keeps every record. -/
def SchemaHistory.CumulativeOver (later earlier : SchemaHistory) : Prop :=
  ∀ typeName fieldName record, earlier.record typeName fieldName = some record →
    ∃ kept, later.record typeName fieldName = some kept ∧ record.KeptBy kept

instance (later earlier : SchemaHistory) : Decidable (later.CumulativeOver earlier) :=
  decidable_of_iff
    (∀ entry ∈ earlier.types.toList, ∀ field ∈ entry.2.fields.toList,
      (later.record entry.1 field.1).any (field.2.KeptBy ·) = true) <| by
    constructor
    · intro every typeName fieldName record recorded
      obtain ⟨typeHistory, stored, listed⟩ := Option.bind_eq_some_iff.1 recorded
      have kept := every (typeName, typeHistory) (OrderedMap.mem_toList_iff.2 stored)
        (fieldName, record) (OrderedMap.mem_toList_iff.2 listed)
      obtain ⟨found, foundRecord, keeps⟩ := (Option.any_eq_true _ _).1 kept
      exact ⟨found, foundRecord, of_decide_eq_true keeps⟩
    · rintro cumulative ⟨typeName, typeHistory⟩ stored ⟨fieldName, record⟩ listed
      obtain ⟨found, foundRecord, keeps⟩ := cumulative typeName fieldName record
        (Option.bind_eq_some_iff.2 ⟨typeHistory, OrderedMap.mem_toList_iff.1 stored,
          OrderedMap.mem_toList_iff.1 listed⟩)
      exact (Option.any_eq_true _ _).2 ⟨found, foundRecord, decide_eq_true keeps⟩

/-- Releases `0` to `length`, where the history of each step raises no error and
the histories are cumulative. -/
structure UpgradeChain (primitives : Primitives) (length : Nat) (artifacts : Nat → Artifact)
    (histories : Nat → SchemaHistory) : Prop where
  checked : ∀ i < length, Unblocked
    (validateSchemaHistory primitives (artifacts i) (artifacts (i + 1)) (histories (i + 1)))
  cumulative : ∀ i, 0 < i → i < length → (histories (i + 1)).CumulativeOver (histories i)

/-- The history remembers a field of release `first`: its type, and any release
up to `last` that lacks it. -/
def Remembers (artifacts : Nat → Artifact) (history : SchemaHistory) (first last : Nat)
    (typeName fieldName : String) (fieldType : Value) : Prop :=
  ∃ record, history.record typeName fieldName = some record ∧ record.valueType = fieldType ∧
    (record.retiredIn = none →
      ∀ k, first ≤ k → k ≤ last → (artifacts k).field typeName fieldName ≠ none)

section Chains

variable {primitives : Primitives} {length : Nat} {artifacts : Nat → Artifact}
  {histories : Nat → SchemaHistory}

/-- A field that a step removes is retired in the history of the step. -/
theorem retired_of_removed {i : Nat} (chain : UpgradeChain primitives length artifacts histories)
    (inside : i < length) {typeName fieldName : String} {fieldType : Value}
    (present : (artifacts i).field typeName fieldName = some fieldType)
    (absent : (artifacts (i + 1)).field typeName fieldName = none) {record : HistoricalField}
    (recorded : (histories (i + 1)).record typeName fieldName = some record) :
    record.retiredIn ≠ none := by
  have sound := unblocked_validateSchemaHistory_iff.1 (chain.checked i inside)
  obtain ⟨⟨found, same, retired⟩, _⟩ := sound.removedFields _ _ _ present absent
  rw [recorded, Option.some.injEq] at same
  rw [same, retired]
  exact Option.some_ne_none _

/-- The first step after a release remembers its fields. -/
theorem remembers_first {first : Nat} (chain : UpgradeChain primitives length artifacts histories)
    (inside : first < length) {typeName fieldName : String} {fieldType : Value}
    (present : (artifacts first).field typeName fieldName = some fieldType) :
    Remembers artifacts (histories (first + 1)) first (first + 1) typeName fieldName fieldType := by
  have sound := unblocked_validateSchemaHistory_iff.1 (chain.checked first inside)
  obtain ⟨record, recorded, sameType⟩ := sound.sourceFields _ _ _ present
  refine ⟨record, recorded, sameType, fun unretired k low high => ?_⟩
  rcases Nat.lt_or_ge k (first + 1) with earlier | later
  · obtain rfl : k = first := by omega
    rw [present]
    exact Option.some_ne_none _
  · obtain rfl : k = first + 1 := by omega
    exact fun absent => retired_of_removed chain inside present absent recorded unretired

/-- Every further step keeps the memory. -/
theorem remembers_step {first last : Nat}
    (chain : UpgradeChain primitives length artifacts histories) (started : first < last)
    (inside : last < length) {typeName fieldName : String} {fieldType : Value}
    (memory : Remembers artifacts (histories last) first last typeName fieldName fieldType) :
    Remembers artifacts (histories (last + 1)) first (last + 1) typeName fieldName fieldType := by
  obtain ⟨record, recorded, sameType, lived⟩ := memory
  obtain ⟨kept, keptRecord, keptType, keptRetirement⟩ :=
    chain.cumulative last (by omega) inside typeName fieldName record recorded
  refine ⟨kept, keptRecord, keptType.trans sameType, fun unretired k low high => ?_⟩
  have stillLived : record.retiredIn = none := by
    by_contra retired
    have set := keptRetirement (Option.isSome_iff_ne_none.2 retired)
    rw [unretired] at set
    cases set
  rcases Nat.lt_or_ge k (last + 1) with earlier | later
  · exact lived stillLived k low (by omega)
  · obtain rfl : k = last + 1 := by omega
    intro absent
    -- The field was there before the step, so the step removed it.
    obtain ⟨type_, present⟩ :=
      Option.ne_none_iff_exists'.1 (lived stillLived last (by omega) (Nat.le_refl last))
    exact retired_of_removed chain inside present absent keptRecord unretired

theorem remembers_run {first last : Nat}
    (chain : UpgradeChain primitives length artifacts histories) (started : first < last)
    (inside : last ≤ length) {typeName fieldName : String} {fieldType : Value}
    (present : (artifacts first).field typeName fieldName = some fieldType) :
    Remembers artifacts (histories last) first last typeName fieldName fieldType := by
  induction last, started using Nat.le_induction with
  | base => exact remembers_first chain inside present
  | succ last started inductionHypothesis =>
      exact remembers_step chain started inside (inductionHypothesis (by omega))

/-- A field that is in two releases of a chain is in every release between them,
with one type. -/
theorem fields_never_reused (primitives : Primitives) (length : Nat) (artifacts : Nat → Artifact)
    (histories : Nat → SchemaHistory)
    (chain : UpgradeChain primitives length artifacts histories) :
    ∀ i j, i < j → j ≤ length → ∀ typeName fieldName before after,
      (artifacts i).field typeName fieldName = some before →
      (artifacts j).field typeName fieldName = some after →
      before = after ∧
        ∀ k, i ≤ k → k ≤ j → ∃ between, (artifacts k).field typeName fieldName = some between := by
  intro i j earlier inside typeName fieldName before after present reached
  obtain ⟨record, recorded, sameType, lived⟩ := remembers_run chain earlier inside present
  obtain ⟨step, rfl⟩ : ∃ step, j = step + 1 := ⟨j - 1, by omega⟩
  have sound := unblocked_validateSchemaHistory_iff.1 (chain.checked step inside)
  obtain ⟨_, found, foundRecord, unretired, foundType, _⟩ := sound.targetFields _ _ _ reached
  rw [recorded, Option.some.injEq] at foundRecord
  subst foundRecord
  exact ⟨sameType.symm.trans foundType, fun k low high =>
    Option.ne_none_iff_exists'.1 (lived unretired k low high)⟩

end Chains

namespace Sample

/-- A release whose struct `Config` has the given fields of type `u32`. -/
def configRelease (version : String) (fields : List String) : Artifact :=
  { artifact version ["upgrade"] with
    userTypes := Std.ExtTreeMap.ofList [("Config", structEntry "Config"
      (fields.map fun name => (name, .string "u32")))] compare }

def configRecord (firstSeen : String) (retiredIn : Option String) : HistoricalField where
  valueType := Json.toValue (.string "u32")
  firstSeen := firstSeen
  retiredIn := retiredIn

def configHistory (fields : List (String × HistoricalField)) (reserved : List String) :
    SchemaHistory :=
  { history with types := Std.ExtTreeMap.ofList [("Config", {
      fields := Std.ExtTreeMap.ofList fields compare
      reservedFields := Std.ExtTreeSet.ofList reserved compare })] compare }

/-- Three releases: the second adds a field and the third retires another. -/
def releases : Nat → Artifact
  | 0 => configRelease "1.0.0" ["a", "b"]
  | 1 => configRelease "2.0.0" ["a", "b", "c"]
  | _ => configRelease "3.0.0" ["a", "c"]

def histories : Nat → SchemaHistory
  | 0 | 1 => configHistory [("a", configRecord "1.0.0" none), ("b", configRecord "1.0.0" none),
      ("c", configRecord "2.0.0" none)] []
  | _ => configHistory [("a", configRecord "1.0.0" none),
      ("b", configRecord "1.0.0" (some "3.0.0")), ("c", configRecord "2.0.0" none)] ["b"]

theorem chain : UpgradeChain primitives 2 releases histories where
  checked := by decide
  cumulative := by
    intro i positive inside
    obtain rfl : i = 1 := by omega
    decide

end Sample

theorem sampleFields_never_reused :
    ∃ fieldType, (Sample.releases 1).field "Config" "a" = some fieldType := by
  exact (fields_never_reused Sample.primitives 2 Sample.releases Sample.histories Sample.chain
    0 2 (by decide) (by decide) "Config" "a" (Json.toValue (.string "u32"))
    (Json.toValue (.string "u32")) (by decide) (by decide)).2 1 (by decide) (by decide)

end SorobanUpgrades
