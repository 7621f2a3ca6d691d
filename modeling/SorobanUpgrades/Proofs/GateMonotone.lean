/-
Module: SorobanUpgrades.Proofs.GateMonotone
Purpose: A stricter policy keeps every error of a laxer one, and a later protocol
  unblocks what an earlier one allowed.
Trusted boundary: none
Main exports: errorsOf, Policy.Relaxes, ErrorsWithin, ValidationContext.atProtocol,
  gate_monotone
-/
import SorobanUpgrades.Proofs.CheckVerdicts
import SorobanUpgrades.Core.Plan

namespace SorobanUpgrades

/-- The blocking findings, in order. -/
def errorsOf (findings : List Finding) : List Finding := findings.filter (·.isError)

/-- Every protection of `relaxed` is one of `strict`, and both policies carry the
same name and format. -/
structure Policy.Relaxes (relaxed strict : Policy) : Prop where
  name : relaxed.name = strict.name
  formatVersion : relaxed.formatVersion = strict.formatVersion
  requireUpgradeFunction :
    relaxed.requireUpgradeFunction = true → strict.requireUpgradeFunction = true
  forbidConstructor : relaxed.forbidConstructor = true → strict.forbidConstructor = true
  requireSemverIncrease :
    relaxed.requireSemverIncrease = true → strict.requireSemverIncrease = true
  requireStorageSchema : relaxed.requireStorageSchema = true → strict.requireStorageSchema = true
  requireSchemaHistory : relaxed.requireSchemaHistory = true → strict.requireSchemaHistory = true
  denyRemovedFunctions : relaxed.denyRemovedFunctions = true → strict.denyRemovedFunctions = true
  denyChangedFunctions : relaxed.denyChangedFunctions = true → strict.denyChangedFunctions = true
  denyRemovedEvents : relaxed.denyRemovedEvents = true → strict.denyRemovedEvents = true
  denyChangedEvents : relaxed.denyChangedEvents = true → strict.denyChangedEvents = true
  denyChangedUserTypes : relaxed.denyChangedUserTypes = true → strict.denyChangedUserTypes = true

/-! ### Fewer errors -/

/-- The errors of `fewer` are among those of `more`, in the same order. -/
def ErrorsWithin (fewer more : List Finding) : Prop := (errorsOf fewer).Sublist (errorsOf more)

theorem ErrorsWithin.refl (findings : List Finding) : ErrorsWithin findings findings :=
  List.Sublist.refl _

theorem ErrorsWithin.append {fewer more others rest : List Finding}
    (first : ErrorsWithin fewer more) (second : ErrorsWithin others rest) :
    ErrorsWithin (fewer ++ others) (more ++ rest) := by
  rw [ErrorsWithin, errorsOf, errorsOf, List.filter_append, List.filter_append]
  exact List.Sublist.append first second

theorem ErrorsWithin.forEach {ν : Type} {entries : StringMap ν}
    {check other : String → ν → List Finding}
    (each : ∀ key value, ErrorsWithin (check key value) (other key value)) :
    ErrorsWithin (forEach entries check) (forEach entries other) := by
  simp only [ErrorsWithin, errorsOf, SorobanUpgrades.forEach, List.filter_flatMap]
  exact List.Sublist.flatMap_right _ fun entry _ => each entry.1 entry.2

theorem errorsWithin_of_unblocked {fewer : List Finding} (clear : Unblocked fewer)
    (more : List Finding) : ErrorsWithin fewer more := by
  have none : errorsOf fewer = [] := List.filter_eq_nil_iff.2 fun finding found => by
    rw [clear finding found]
    exact Bool.false_ne_true
  rw [ErrorsWithin, none]
  exact List.nil_sublist _

/-- A flag that is only ever switched on raises the same findings and more, where
the findings without it are no errors. -/
theorem errorsWithin_ite {condition other : Prop} [Decidable condition] [Decidable other]
    {findings lenient : List Finding} (implies : condition → other) (clear : Unblocked lenient) :
    ErrorsWithin (if condition then findings else lenient)
      (if other then findings else lenient) := by
  by_cases on : condition
  · rw [if_pos on, if_pos (implies on)]
    exact .refl _
  · rw [if_neg on]
    exact errorsWithin_of_unblocked clear _

/-- A switched flag next to a condition that both runs share. -/
theorem errorsWithin_and {flag other shared : Bool} {findings : List Finding}
    (implies : flag = true → other = true) :
    ErrorsWithin (if (flag && shared) = true then findings else [])
      (if (other && shared) = true then findings else []) := by
  apply errorsWithin_ite _ unblocked_nil
  simp only [Bool.and_eq_true]
  exact And.imp_left implies

/-! ### The checks under two policies -/

section Policies

variable {primitives : Primitives} {source target : Artifact} {context : ValidationContext}
  {relaxed strict : Policy}

theorem errorsWithin_checkPolicy (relaxes : relaxed.Relaxes strict) :
    ErrorsWithin (checkPolicy relaxed) (checkPolicy strict) := by
  rw [checkPolicy, checkPolicy, relaxes.name, relaxes.formatVersion]
  exact .append (.refl _) (errorsWithin_of_unblocked unblocked_warning _)

theorem errorsWithin_checkUpgradeEntrypoint (relaxes : relaxed.Relaxes strict) :
    ErrorsWithin (checkUpgradeEntrypoint source target relaxed)
      (checkUpgradeEntrypoint source target strict) :=
  .append (errorsWithin_and relaxes.requireUpgradeFunction)
    (errorsWithin_ite relaxes.requireUpgradeFunction unblocked_nil)

theorem errorsWithin_checkConstructor (relaxes : relaxed.Relaxes strict) :
    ErrorsWithin (checkConstructor target relaxed) (checkConstructor target strict) := by
  unfold checkConstructor
  cases target.hasFunction "__constructor" with
  | false => exact .refl _
  | true => exact errorsWithin_ite relaxes.forbidConstructor (by simp)

theorem errorsWithin_checkVersions (relaxes : relaxed.Relaxes strict) :
    ErrorsWithin (checkVersions primitives source target relaxed)
      (checkVersions primitives source target strict) := by
  unfold checkVersions
  cases required : relaxed.requireSemverIncrease with
  | false => exact errorsWithin_of_unblocked unblocked_nil _
  | true =>
      rw [relaxes.requireSemverIncrease required]
      exact .refl _

theorem errorsWithin_compareFunction (relaxes : relaxed.Relaxes strict) (name : String)
    (old : InterfaceEntry) :
    ErrorsWithin (compareFunction relaxed target name old)
      (compareFunction strict target name old) := by
  unfold compareFunction
  cases target.functions[name]? with
  | none => exact errorsWithin_ite relaxes.denyRemovedFunctions unblocked_nil
  | some new => exact errorsWithin_and relaxes.denyChangedFunctions

theorem errorsWithin_compareEvent (relaxes : relaxed.Relaxes strict) (name : String)
    (old : InterfaceEntry) :
    ErrorsWithin (compareEvent relaxed target name old) (compareEvent strict target name old) := by
  unfold compareEvent
  cases target.events[name]? with
  | none => exact errorsWithin_ite relaxes.denyRemovedEvents unblocked_nil
  | some new => exact errorsWithin_and relaxes.denyChangedEvents

theorem errorsWithin_compareUserType (relaxes : relaxed.Relaxes strict) (name : String)
    (old : InterfaceEntry) :
    ErrorsWithin (compareUserType relaxed context target name old)
      (compareUserType strict context target name old) := by
  unfold compareUserType
  cases target.userTypes[name]? with
  | none => exact errorsWithin_ite relaxes.denyChangedUserTypes unblocked_nil
  | some new => exact errorsWithin_and relaxes.denyChangedUserTypes

theorem errorsWithin_compareInterfaces (relaxes : relaxed.Relaxes strict) :
    ErrorsWithin (compareInterfaces source target relaxed context)
      (compareInterfaces source target strict context) :=
  .append (.append (.forEach (errorsWithin_compareFunction relaxes))
    (.forEach (errorsWithin_compareEvent relaxes))) (.forEach (errorsWithin_compareUserType relaxes))

theorem errorsWithin_checkHistoryEvidence (relaxes : relaxed.Relaxes strict)
    (schemaHistory : Option SchemaHistory) :
    ErrorsWithin (checkHistoryEvidence primitives source target relaxed schemaHistory)
      (checkHistoryEvidence primitives source target strict schemaHistory) := by
  cases schemaHistory with
  | some history => exact .refl _
  | none =>
      unfold checkHistoryEvidence
      cases required : relaxed.requireSchemaHistory with
      | false => exact errorsWithin_of_unblocked (by simp) _
      | true =>
          rw [relaxes.requireSchemaHistory required]
          exact .refl _

theorem errorsWithin_checkStorageEvidence (relaxes : relaxed.Relaxes strict)
    (sourceSchema targetSchema : Option StorageSchema) :
    ErrorsWithin (checkStorageEvidence primitives source target relaxed sourceSchema targetSchema)
      (checkStorageEvidence primitives source target strict sourceSchema targetSchema) := by
  unfold checkStorageEvidence
  cases sourceSchema with
  | some before => cases targetSchema <;> exact .refl _
  | none =>
      cases targetSchema with
      | some after => exact .refl _
      | none => exact errorsWithin_ite relaxes.requireStorageSchema (by simp)

theorem errorsWithin_pushedFindings (relaxes : relaxed.Relaxes strict)
    (sourceSchema targetSchema : Option StorageSchema) (schemaHistory : Option SchemaHistory) :
    ErrorsWithin
      (pushedFindings primitives source target sourceSchema targetSchema relaxed context
        schemaHistory)
      (pushedFindings primitives source target sourceSchema targetSchema strict context
        schemaHistory) := by
  unfold pushedFindings
  apply ErrorsWithin.append _ (.refl _)
  apply ErrorsWithin.append _ (errorsWithin_checkStorageEvidence relaxes _ _)
  apply ErrorsWithin.append _ (errorsWithin_checkHistoryEvidence relaxes _)
  apply ErrorsWithin.append _ (errorsWithin_compareInterfaces relaxes)
  apply ErrorsWithin.append _ (errorsWithin_checkVersions relaxes)
  apply ErrorsWithin.append _ (errorsWithin_checkConstructor relaxes)
  apply ErrorsWithin.append _ (errorsWithin_checkUpgradeEntrypoint relaxes)
  exact .append (.append (.append (errorsWithin_checkPolicy relaxes) (.refl _)) (.refl _)) (.refl _)

end Policies

/-! ### The checks at two protocols -/

/-- The context with another target protocol. -/
def ValidationContext.atProtocol (context : ValidationContext) (protocol : UInt32) :
    ValidationContext :=
  { context with targetProtocolVersion := some protocol }

section Protocols

variable {source target : Artifact} {policy : Policy} {context : ValidationContext}
  {earlier later : UInt32}

theorem unblocked_checkProtocolContext_at_iff :
    Unblocked (checkProtocolContext (context.atProtocol earlier)) ↔
      Unblocked (checkProtocolContext (context.atProtocol later)) := by
  rw [unblocked_checkProtocolContext_iff, unblocked_checkProtocolContext_iff, EvidencedProtocol,
    EvidencedProtocol]
  cases source : context.protocolSource <;> simp [ValidationContext.atProtocol, source]

theorem unblocked_checkEnvironmentCompatibility_mono (ordered : earlier ≤ later)
    (clear : Unblocked (checkEnvironmentCompatibility target (context.atProtocol earlier))) :
    Unblocked (checkEnvironmentCompatibility target (context.atProtocol later)) := by
  rw [unblocked_checkEnvironmentCompatibility_iff] at clear ⊢
  refine ⟨clear.1, fun protocol selected => ?_⟩
  obtain rfl : later = protocol := Option.some.inj selected
  exact UInt32.le_trans (clear.2 earlier rfl) ordered

theorem unblocked_checkCap0086_mono (ordered : earlier ≤ later)
    (clear : Unblocked (checkCap0086 target (context.atProtocol earlier))) :
    Unblocked (checkCap0086 target (context.atProtocol later)) := by
  rw [unblocked_checkCap0086_iff] at clear ⊢
  refine ⟨fun protocol selected sparse => ?_, clear.2⟩
  obtain rfl : later = protocol := Option.some.inj selected
  exact UInt32.le_trans (clear.1 earlier rfl sparse) ordered

/-- The protocol chooses between two codes of a changed type, and both block. -/
theorem unblocked_compareUserType_at_iff (context other : ValidationContext) {name : String}
    {old : InterfaceEntry} :
    Unblocked (compareUserType policy context target name old) ↔
      Unblocked (compareUserType policy other target name old) := by
  unfold compareUserType
  cases target.userTypes[name]? with
  | none => exact Iff.rfl
  | some new => simp [unblocked_ite, isError_compareChangedType]

theorem unblocked_compareInterfaces_at_iff {other : ValidationContext} :
    Unblocked (compareInterfaces source target policy context) ↔
      Unblocked (compareInterfaces source target policy other) := by
  simp only [compareInterfaces, unblocked_append, unblocked_forEach_iff,
    unblocked_compareUserType_at_iff context other]

end Protocols

/-- A stricter policy keeps every error of a laxer one, and what is safe at one
protocol stays safe at a later one. -/
theorem gate_monotone (primitives : Primitives) (source target : Artifact)
    (sourceSchema targetSchema : Option StorageSchema) (schemaHistory : Option SchemaHistory)
    (context : ValidationContext) :
    (∀ relaxed strict : Policy, relaxed.Relaxes strict →
      (∀ finding,
        (errorsOf (validateWithHistory primitives source target sourceSchema targetSchema relaxed
          context schemaHistory).findings).count finding ≤
        (errorsOf (validateWithHistory primitives source target sourceSchema targetSchema strict
          context schemaHistory).findings).count finding) ∧
      ((validateWithHistory primitives source target sourceSchema targetSchema strict context
        schemaHistory).safe = true →
      (validateWithHistory primitives source target sourceSchema targetSchema relaxed context
        schemaHistory).safe = true)) ∧
    ∀ (policy : Policy) (earlier later : UInt32), earlier ≤ later →
      (validateWithHistory primitives source target sourceSchema targetSchema policy
        (context.atProtocol earlier) schemaHistory).safe = true →
      (validateWithHistory primitives source target sourceSchema targetSchema policy
        (context.atProtocol later) schemaHistory).safe = true := by
  have counted : ∀ (policy : Policy) (finding : Finding),
      (errorsOf (validateWithHistory primitives source target sourceSchema targetSchema policy
        context schemaHistory).findings).count finding =
      (errorsOf (pushedFindings primitives source target sourceSchema targetSchema policy context
        schemaHistory)).count finding := fun policy finding =>
    ((List.perm_insertionSort Finding.sortsBefore _).filter _).count_eq finding
  refine ⟨fun relaxed strict relaxes => ⟨fun finding => ?_, fun safe => ?_⟩, ?_⟩
  · rw [counted, counted]
    exact (errorsWithin_pushedFindings relaxes _ _ _).count_le finding
  · rw [safe_iff_unblocked] at safe ⊢
    intro finding found
    by_contra blocks
    rw [Bool.not_eq_false] at blocks
    have kept := (errorsWithin_pushedFindings relaxes _ _ _).subset
      (List.mem_filter.2 ⟨found, blocks⟩)
    rw [safe finding (List.mem_filter.1 kept).1] at blocks
    cases blocks
  · intro policy earlier later ordered safe
    rw [safe_iff_unblocked, unblocked_pushedFindings_iff] at safe ⊢
    obtain ⟨ofPolicy, network, environment, sparse, entrypoint, constructor, versions, interfaces,
      history, storage, limit⟩ := safe
    exact ⟨ofPolicy, unblocked_checkProtocolContext_at_iff.1 network,
      unblocked_checkEnvironmentCompatibility_mono ordered environment,
      unblocked_checkCap0086_mono ordered sparse, entrypoint, constructor, versions,
      unblocked_compareInterfaces_at_iff.1 interfaces, history, storage, limit⟩

namespace Sample

/-- The default policy without the demand for a schema history. -/
def relaxedPolicy : Policy := { Policy.default with requireSchemaHistory := false }

theorem relaxedPolicy_relaxes : relaxedPolicy.Relaxes Policy.default where
  name := rfl
  formatVersion := rfl
  requireUpgradeFunction := id
  forbidConstructor := id
  requireSemverIncrease := id
  requireStorageSchema := id
  requireSchemaHistory := nofun
  denyRemovedFunctions := id
  denyChangedFunctions := id
  denyRemovedEvents := id
  denyChangedEvents := id
  denyChangedUserTypes := id

theorem safeReport_safe : safeReport.safe = true := by
  rw [safeReport, safe_iff_unblocked]
  decide

end Sample

/-- The sample upgrade stays safe under the laxer policy, and at the next protocol. -/
theorem sampleGate_monotone :
    (validateWithHistory Sample.primitives (Sample.artifact "1.0.0" ["upgrade"])
      (Sample.artifact "2.0.0" ["upgrade", "migrate"]) (some (Sample.schema 1 "u32" none))
      (some (Sample.schema 2 "u32" none)) Sample.relaxedPolicy Sample.context
      (some Sample.history)).safe = true ∧
    (validateWithHistory Sample.primitives (Sample.artifact "1.0.0" ["upgrade"])
      (Sample.artifact "2.0.0" ["upgrade", "migrate"]) (some (Sample.schema 1 "u32" none))
      (some (Sample.schema 2 "u32" none)) Policy.default (Sample.context.atProtocol 28)
      (some Sample.history)).safe = true := by
  obtain ⟨policies, protocols⟩ := gate_monotone Sample.primitives
    (Sample.artifact "1.0.0" ["upgrade"]) (Sample.artifact "2.0.0" ["upgrade", "migrate"])
    (some (Sample.schema 1 "u32" none)) (some (Sample.schema 2 "u32" none)) (some Sample.history)
    Sample.context
  exact ⟨(policies Sample.relaxedPolicy Policy.default Sample.relaxedPolicy_relaxes).2
    Sample.safeReport_safe, protocols Policy.default 27 28 (by decide) Sample.safeReport_safe⟩

end SorobanUpgrades
