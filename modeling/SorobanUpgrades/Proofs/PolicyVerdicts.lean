/-
Module: SorobanUpgrades.Proofs.PolicyVerdicts
Purpose: What a safe report stands for under any policy: each protection of the
  policy adds its own requirement, and nothing else blocks an upgrade.
Trusted boundary: none
Main exports: Gated, StoragePass, PolicyPass, unblocked_iff_policyPass,
  safe_iff_policyPass, Policy.Strict
-/
import SorobanUpgrades.Proofs.StorageVerdicts
import SorobanUpgrades.Proofs.HistoryVerdicts

namespace SorobanUpgrades

variable {primitives : Primitives} {source target : Artifact} {policy : Policy}
  {context : ValidationContext}

/-! ### Interfaces -/

/-- Entries are kept when removals are denied, and keep their definitions when
changes are denied. -/
structure Gated (removals changes : Bool) (source target : StringMap InterfaceEntry) : Prop where
  kept : removals = true → ∀ (name : String) (old : InterfaceEntry), source[name]? = some old →
    target[name]? ≠ none
  same : changes = true → ∀ (name : String) (old new : InterfaceEntry),
    source[name]? = some old → target[name]? = some new → old.canonical = new.canonical

/-- A gate that denies removals and changes retains the whole interface. -/
theorem gated_iff_retained {source target : StringMap InterfaceEntry} :
    Gated true true source target ↔ Retained source target := by
  constructor
  · intro gated name old present
    obtain ⟨new, found⟩ := Option.ne_none_iff_exists'.1 (gated.kept rfl name old present)
    exact ⟨new, found, gated.same rfl name old new present found⟩
  · intro retained
    constructor
    · intro _ name old present absent
      obtain ⟨new, found, _⟩ := retained name old present
      exact Option.some_ne_none new (found.symm.trans absent)
    · intro _ name old new present found
      obtain ⟨other, kept, same⟩ := retained name old present
      obtain rfl : other = new := Option.some.inj (kept.symm.trans found)
      exact same

/-- A check that raises an error for a denied removal and for a denied change. -/
theorem unblocked_gate_iff {removals changes : Bool} {source target : StringMap InterfaceEntry}
    {check : String → InterfaceEntry → List Finding}
    (removed : ∀ name old, target[name]? = none →
      (Unblocked (check name old) ↔ removals = false))
    (changed : ∀ name old new, target[name]? = some new →
      (Unblocked (check name old) ↔ (changes = true → old.canonical = new.canonical))) :
    Unblocked (forEach source check) ↔ Gated removals changes source target := by
  rw [unblocked_forEach_iff]
  constructor
  · intro clear
    constructor
    · intro denied name old present absent
      have allowed := (removed name old absent).1 (clear name old present)
      exact Bool.false_ne_true (allowed.symm.trans denied)
    · intro denied name old new present found
      exact (changed name old new found).1 (clear name old present) denied
  · intro gated name old present
    cases found : target[name]? with
    | none =>
        rw [removed name old found, ← Bool.not_eq_true]
        intro denied
        exact gated.kept denied name old present found
    | some new =>
        rw [changed name old new found]
        intro denied
        exact gated.same denied name old new present found

theorem unblocked_interfaces_iff :
    Unblocked (compareInterfaces source target policy context) ↔
      Gated policy.denyRemovedFunctions policy.denyChangedFunctions source.functions
        target.functions ∧
      Gated policy.denyRemovedEvents policy.denyChangedEvents source.events target.events ∧
      Gated policy.denyChangedUserTypes policy.denyChangedUserTypes source.userTypes
        target.userTypes := by
  rw [compareInterfaces, unblocked_append, unblocked_append, and_assoc]
  have functions : Unblocked (forEach source.functions fun name old =>
      compareFunction policy target name old) ↔ Gated policy.denyRemovedFunctions
        policy.denyChangedFunctions source.functions target.functions := by
    apply unblocked_gate_iff
    · intro name old absent
      simp [compareFunction, absent, unblocked_ite]
    · intro name old new found
      simp [compareFunction, found, unblocked_ite]
  have events : Unblocked (forEach source.events fun name old =>
      compareEvent policy target name old) ↔ Gated policy.denyRemovedEvents
        policy.denyChangedEvents source.events target.events := by
    apply unblocked_gate_iff
    · intro name old absent
      simp [compareEvent, absent, unblocked_ite]
    · intro name old new found
      simp [compareEvent, found, unblocked_ite]
  have userTypes : Unblocked (forEach source.userTypes fun name old =>
      compareUserType policy context target name old) ↔ Gated policy.denyChangedUserTypes
        policy.denyChangedUserTypes source.userTypes target.userTypes := by
    apply unblocked_gate_iff
    · intro name old absent
      simp [compareUserType, absent, unblocked_ite]
    · intro name old new found
      simp [compareUserType, found, unblocked_ite, isError_compareChangedType]
  rw [functions, events, userTypes]

/-! ### Other protections -/

theorem unblocked_entrypoint_iff :
    Unblocked (checkUpgradeEntrypoint source target policy) ↔
      (policy.requireUpgradeFunction = true → source.Upgradable ∧ target.Upgradable) := by
  cases required : policy.requireUpgradeFunction with
  | false => simp [checkUpgradeEntrypoint, required]
  | true => simp [unblocked_checkUpgradeEntrypoint_iff required]

theorem unblocked_checkConstructor_iff :
    Unblocked (checkConstructor target policy) ↔
      (policy.forbidConstructor = true → target.hasFunction "__constructor" = false) := by
  unfold checkConstructor
  cases target.hasFunction "__constructor" with
  | false => simp
  | true => cases policy.forbidConstructor <;> simp

theorem unblocked_versions_iff :
    Unblocked (checkVersions primitives source target policy) ↔
      (policy.requireSemverIncrease = true → VersionIncreases primitives source target) := by
  cases required : policy.requireSemverIncrease with
  | false => simp [checkVersions, required]
  | true => simp [unblocked_checkVersions_iff required]

theorem unblocked_checkHistoryEvidence_iff {schemaHistory : Option SchemaHistory} :
    Unblocked (checkHistoryEvidence primitives source target policy schemaHistory) ↔
      (policy.requireSchemaHistory = true → schemaHistory ≠ none) ∧
      ∀ history, schemaHistory = some history →
        SoundHistory primitives source target history := by
  cases schemaHistory with
  | none => cases required : policy.requireSchemaHistory <;> simp [checkHistoryEvidence, required]
  | some history => simp [checkHistoryEvidence, unblocked_validateSchemaHistory_iff]

/-- The storage declarations of an upgrade: none where the policy allows it, or a
pair that keeps the storage. -/
inductive StoragePass (primitives : Primitives) (source target : Artifact) (policy : Policy) :
    Option StorageSchema → Option StorageSchema → Prop where
  | undeclared (optional : policy.requireStorageSchema = false) :
      StoragePass primitives source target policy none none
  | declared {before after : StorageSchema}
      (kept : KeptStorage primitives source target before after) :
      StoragePass primitives source target policy (some before) (some after)

theorem unblocked_checkStorageEvidence_iff {sourceSchema targetSchema : Option StorageSchema} :
    Unblocked (checkStorageEvidence primitives source target policy sourceSchema targetSchema) ↔
      StoragePass primitives source target policy sourceSchema targetSchema := by
  cases sourceSchema with
  | none =>
      cases targetSchema with
      | none =>
          cases required : policy.requireStorageSchema with
          | false => simp [checkStorageEvidence, required, StoragePass.undeclared required]
          | true =>
              simp only [checkStorageEvidence, required, if_true, unblocked_cons, isError_error,
                Bool.true_eq_false, false_and, false_iff]
              intro pass
              cases pass with
              | undeclared optional => exact Bool.false_ne_true (optional.symm.trans required)
      | some after =>
          simp only [checkStorageEvidence, unblocked_cons, isError_error, Bool.true_eq_false,
            false_and, false_iff]
          intro pass
          cases pass
  | some before =>
      cases targetSchema with
      | none =>
          simp only [checkStorageEvidence, unblocked_cons, isError_error, Bool.true_eq_false,
            false_and, false_iff]
          intro pass
          cases pass
      | some after =>
          rw [checkStorageEvidence, unblocked_storagePair_iff]
          constructor
          · exact .declared
          · intro pass
            cases pass with
            | declared kept => exact kept

/-! ### Verdicts -/

/-- What a safe report stands for under the policy. -/
structure PolicyPass (primitives : Primitives) (source target : Artifact)
    (sourceSchema targetSchema : Option StorageSchema) (policy : Policy)
    (context : ValidationContext) (schemaHistory : Option SchemaHistory) : Prop where
  supported : policy.formatVersion = 1
  protocol : EvidencedProtocol context
  environment : target.envPreRelease = 0 ∧
    ∀ protocol, context.targetProtocolVersion = some protocol →
      target.envProtocolVersion ≤ protocol
  sparse : SparseSupported target context
  upgradable : policy.requireUpgradeFunction = true → source.Upgradable ∧ target.Upgradable
  constructor : policy.forbidConstructor = true → target.hasFunction "__constructor" = false
  versions : policy.requireSemverIncrease = true → VersionIncreases primitives source target
  functions : Gated policy.denyRemovedFunctions policy.denyChangedFunctions source.functions
    target.functions
  events : Gated policy.denyRemovedEvents policy.denyChangedEvents source.events target.events
  userTypes : Gated policy.denyChangedUserTypes policy.denyChangedUserTypes source.userTypes
    target.userTypes
  historyGiven : policy.requireSchemaHistory = true → schemaHistory ≠ none
  history : ∀ history, schemaHistory = some history → SoundHistory primitives source target history
  storage : StoragePass primitives source target policy sourceSchema targetSchema
  traced : (tracePublicImpacts source target).2 = false

section Verdicts

variable {sourceSchema targetSchema : Option StorageSchema} {schemaHistory : Option SchemaHistory}

theorem unblocked_iff_policyPass :
    Unblocked (pushedFindings primitives source target sourceSchema targetSchema policy context
      schemaHistory) ↔
    PolicyPass primitives source target sourceSchema targetSchema policy context
      schemaHistory := by
  have limits : Unblocked (checkImpactLimit (tracePublicImpacts source target).2) ↔
      (tracePublicImpacts source target).2 = false := by
    rw [checkImpactLimit, unblocked_error_iff, Bool.not_eq_true]
  rw [unblocked_pushedFindings_iff, unblocked_checkPolicy_iff, unblocked_checkProtocolContext_iff,
    unblocked_checkEnvironmentCompatibility_iff, unblocked_checkCap0086_iff,
    unblocked_entrypoint_iff, unblocked_checkConstructor_iff, unblocked_versions_iff,
    unblocked_interfaces_iff, unblocked_checkHistoryEvidence_iff,
    unblocked_checkStorageEvidence_iff, limits]
  constructor
  · rintro ⟨supported, protocol, environment, sparse, upgradable, constructor, versions,
      ⟨functions, events, userTypes⟩, ⟨historyGiven, history⟩, storage, traced⟩
    exact ⟨supported, protocol, environment, sparse, upgradable, constructor, versions, functions,
      events, userTypes, historyGiven, history, storage, traced⟩
  · rintro ⟨supported, protocol, environment, sparse, upgradable, constructor, versions, functions,
      events, userTypes, historyGiven, history, storage, traced⟩
    exact ⟨supported, protocol, environment, sparse, upgradable, constructor, versions,
      ⟨functions, events, userTypes⟩, ⟨historyGiven, history⟩, storage, traced⟩

end Verdicts

/-- A report is safe exactly when the upgrade passes each requirement that its
policy switches on, and the requirements that no policy switches off. -/
theorem safe_iff_policyPass (primitives : Primitives) (source target : Artifact)
    (sourceSchema targetSchema : Option StorageSchema) (policy : Policy)
    (context : ValidationContext) (schemaHistory : Option SchemaHistory) :
    (validateWithHistory primitives source target sourceSchema targetSchema policy context
      schemaHistory).safe = true ↔
    PolicyPass primitives source target sourceSchema targetSchema policy context
      schemaHistory := by
  rw [safe_iff_unblocked, unblocked_iff_policyPass]

/-! ### Strict policies -/

/-- The policy keeps every protection. -/
def Policy.Strict (policy : Policy) : Prop := policy.disabled = []

instance (policy : Policy) : Decidable policy.Strict := inferInstanceAs (Decidable (_ = []))

/-- A strict policy switches every requirement on. -/
theorem Policy.Strict.protects {policy : Policy} (strict : policy.Strict) :
    ∀ protection ∈ policy.protections, protection.1 = true := by
  intro protection listed
  by_contra off
  rw [Bool.not_eq_true] at off
  have disabled : protection.2 ∈ policy.disabled :=
    List.mem_filterMap.2 ⟨protection, listed, by simp [off]⟩
  rw [strict] at disabled
  exact absurd disabled List.not_mem_nil

/-- Under a strict policy the interfaces pass when they are retained. -/
theorem Policy.Strict.unblocked_interfaces_iff {source target : Artifact} {policy : Policy}
    {context : ValidationContext} (strict : policy.Strict) :
    Unblocked (compareInterfaces source target policy context) ↔
      Retained source.functions target.functions ∧ Retained source.events target.events ∧
        Retained source.userTypes target.userTypes := by
  have protects := strict.protects
  simp only [Policy.protections, List.forall_mem_cons, List.not_mem_nil, false_imp_iff,
    implies_true, and_true] at protects
  obtain ⟨_, _, _, _, removedFunctions, changedFunctions, removedEvents, changedEvents,
    userTypes⟩ := protects
  rw [SorobanUpgrades.unblocked_interfaces_iff, removedFunctions, changedFunctions, removedEvents,
    changedEvents, userTypes, gated_iff_retained, gated_iff_retained, gated_iff_retained]

end SorobanUpgrades
