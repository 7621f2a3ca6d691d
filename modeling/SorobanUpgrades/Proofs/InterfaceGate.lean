/-
Module: SorobanUpgrades.Proofs.InterfaceGate
Purpose: The interface comparison of two modules says which specification entries are
  kept, whatever their documentation and their order.
Trusted boundary: none
Main exports: Keeps, retained_names_iff, interfaceGate_exact, documentation_is_silent
-/
import SorobanUpgrades.Proofs.ArtifactReading
import SorobanUpgrades.Proofs.PolicyVerdicts

namespace SorobanUpgrades

/-! ### Entries without their documentation -/

section BlankDocs

variable (texts : XdrTexts) (entry : ScSpecEntry)

@[simp] theorem nameSpace_blankDocs : entry.blankDocs.nameSpace = entry.nameSpace := by
  cases entry <;> rfl

@[simp] theorem kind_blankDocs : entry.blankDocs.kind = entry.kind := by
  cases entry <;> rfl

@[simp] theorem ownName_blankDocs : entry.blankDocs.ownName texts = entry.ownName texts := by
  cases entry <;> rfl

/-- Boundaries name functions, inputs and types. -/
@[simp] theorem boundaries_blankDocs :
    entry.blankDocs.boundaries texts = entry.boundaries texts := by
  cases entry with
  | functionV0 function =>
      simp only [ScSpecEntry.blankDocs, ScSpecEntry.boundaries, functionBoundaries,
        List.zipIdx_map, List.flatMap_map]
      rfl
  | _ => rfl

/-- References name types, fields and cases. -/
@[simp] theorem references_blankDocs :
    entry.blankDocs.references texts = entry.references texts := by
  cases entry with
  | udtStructV0 value =>
      simp only [ScSpecEntry.blankDocs, ScSpecEntry.references, structReferences,
        List.flatMap_map]
      rfl
  | udtUnionV0 value =>
      simp only [ScSpecEntry.blankDocs, ScSpecEntry.references, unionReferences,
        List.flatMap_map]
      refine List.flatMap_congr fun unionCase _ => ?_
      cases unionCase <;> rfl
  | _ => rfl

end BlankDocs

/-- Every entry of the source occurs in the target, up to documentation. -/
def Keeps (sourceSpec targetSpec : List ScSpecEntry) : Prop :=
  ∀ entry ∈ sourceSpec, ∃ kept ∈ targetSpec, kept.blankDocs = entry.blankDocs

/-! ### Collections -/

section Collections

variable {texts : XdrTexts} {sourceSpec targetSpec : List ScSpecEntry}
  {sourceInventory targetInventory : SpecInventory}

/-- A collection is retained when the entries of its kind are kept. -/
theorem retained_names_iff (injective : Function.Injective texts.escaped)
    (sourceExtracted : extractSpec texts sourceSpec = .ok sourceInventory)
    (targetExtracted : extractSpec texts targetSpec = .ok targetInventory) (space : NameSpace) :
    Retained (sourceInventory.names space) (targetInventory.names space) ↔
      ∀ entry ∈ sourceSpec, entry.nameSpace = space →
        ∃ kept ∈ targetSpec, kept.blankDocs = entry.blankDocs := by
  constructor
  · intro retained entry listed kind
    obtain ⟨new, found, same⟩ := retained (entry.ownName texts) (entry.interfaceEntry texts)
      ((getElem?_names_of_extracted sourceExtracted).2 ⟨entry, listed, kind, rfl, rfl⟩)
    obtain ⟨kept, member, _, _, rfl⟩ := (getElem?_names_of_extracted targetExtracted).1 found
    exact ⟨kept, member, (blankDocs_eq_of_canonical injective same).symm⟩
  · intro keeps name old found
    obtain ⟨entry, listed, kind, rfl, rfl⟩ := (getElem?_names_of_extracted sourceExtracted).1 found
    obtain ⟨kept, member, same⟩ := keeps entry listed kind
    have space_ : kept.nameSpace = space := by
      rw [← nameSpace_blankDocs, same, nameSpace_blankDocs, kind]
    have own : kept.ownName texts = entry.ownName texts := by
      rw [← ownName_blankDocs, same, ownName_blankDocs]
    exact ⟨kept.interfaceEntry texts,
      (getElem?_names_of_extracted targetExtracted).2 ⟨kept, member, space_, own, rfl⟩,
      canonical_eq_of_blankDocs injective same.symm⟩

/-- Specifications that keep each other fill a collection with the same entries. -/
theorem names_eq_of_keeps (injective : Function.Injective texts.escaped)
    (sourceExtracted : extractSpec texts sourceSpec = .ok sourceInventory)
    (targetExtracted : extractSpec texts targetSpec = .ok targetInventory)
    (keeps : Keeps sourceSpec targetSpec) (kept : Keeps targetSpec sourceSpec)
    (space : NameSpace) : sourceInventory.names space = targetInventory.names space := by
  have included : ∀ {leftSpec rightSpec : List ScSpecEntry} {left right : SpecInventory},
      extractSpec texts leftSpec = .ok left → extractSpec texts rightSpec = .ok right →
      Keeps leftSpec rightSpec → ∀ (name : String) (stored : InterfaceEntry),
        (left.names space)[name]? = some stored → (right.names space)[name]? = some stored := by
    intro leftSpec rightSpec left right leftExtracted rightExtracted keeps name stored found
    obtain ⟨entry, listed, rfl, rfl, rfl⟩ := (getElem?_names_of_extracted leftExtracted).1 found
    obtain ⟨other, member, same⟩ := keeps entry listed
    have kind : other.kind = entry.kind := by
      rw [← kind_blankDocs, same, kind_blankDocs]
    have own : other.ownName texts = entry.ownName texts := by
      rw [← ownName_blankDocs, same, ownName_blankDocs]
    have interface : other.interfaceEntry texts = entry.interfaceEntry texts := by
      rw [ScSpecEntry.interfaceEntry, ScSpecEntry.interfaceEntry, kind, own,
        canonical_eq_of_blankDocs injective same]
    refine (getElem?_names_of_extracted rightExtracted).2 ⟨other, member, ?_, own, interface⟩
    rw [← nameSpace_blankDocs, same, nameSpace_blankDocs]
  apply Std.ExtTreeMap.ext_getElem?
  intro name
  apply Option.ext
  intro stored
  exact ⟨included sourceExtracted targetExtracted keeps name stored,
    included targetExtracted sourceExtracted kept name stored⟩

/-- What entries contribute apart from their documentation is kept with them. -/
theorem contributes_of_keeps {α : Type} {contributes : ScSpecEntry → List α}
    (blank : ∀ entry : ScSpecEntry, contributes entry.blankDocs = contributes entry)
    (keeps : Keeps sourceSpec targetSpec) {item : α}
    (contributed : ∃ entry ∈ sourceSpec, item ∈ contributes entry) :
    ∃ entry ∈ targetSpec, item ∈ contributes entry := by
  obtain ⟨entry, listed, member⟩ := contributed
  obtain ⟨kept, present, same⟩ := keeps entry listed
  refine ⟨kept, present, ?_⟩
  rw [← blank kept, same, blank entry]
  exact member

theorem inventory_eq_of_keeps (injective : Function.Injective texts.escaped)
    (sourceExtracted : extractSpec texts sourceSpec = .ok sourceInventory)
    (targetExtracted : extractSpec texts targetSpec = .ok targetInventory)
    (keeps : Keeps sourceSpec targetSpec) (kept : Keeps targetSpec sourceSpec) :
    sourceInventory = targetInventory := by
  have names := names_eq_of_keeps injective sourceExtracted targetExtracted keeps kept
  have boundaries : sourceInventory.publicTypeBoundaries = targetInventory.publicTypeBoundaries := by
    apply Std.ExtTreeSet.ext_mem
    intro boundary
    rw [mem_publicTypeBoundaries_iff sourceExtracted, mem_publicTypeBoundaries_iff targetExtracted,
      ← exists_boundaries_iff, ← exists_boundaries_iff]
    exact ⟨contributes_of_keeps (boundaries_blankDocs texts) keeps,
      contributes_of_keeps (boundaries_blankDocs texts) kept⟩
  have references : sourceInventory.typeReferences = targetInventory.typeReferences := by
    apply Std.ExtTreeSet.ext_mem
    intro reference
    rw [mem_typeReferences_iff sourceExtracted, mem_typeReferences_iff targetExtracted,
      ← exists_references_iff, ← exists_references_iff]
    exact ⟨contributes_of_keeps (references_blankDocs texts) keeps,
      contributes_of_keeps (references_blankDocs texts) kept⟩
  have functions := names .function
  have events := names .event
  have userTypes := names .userType
  cases sourceInventory
  cases targetInventory
  simp only [SpecInventory.names] at functions events userTypes
  simp only [SpecInventory.mk.injEq]
  exact ⟨functions, events, userTypes, boundaries, references⟩

end Collections

/-! ### Artifacts -/

section Artifacts

variable {primitives : Primitives} {readers : WasmReaders} {bytes : List UInt8}
  {source target artifact : Artifact} {spec sourceSpec targetSpec : List ScSpecEntry}

/-- The collections of an artifact are the inventory of its specification. -/
theorem inventory_of_fromWasm (built : Artifact.fromWasm primitives readers bytes = .ok artifact)
    (specified : readers.specFromWasm bytes = some spec) :
    ∃ inventory, extractSpec readers.texts spec = .ok inventory ∧
      artifact.functions = inventory.functions ∧ artifact.events = inventory.events ∧
      artifact.userTypes = inventory.userTypes ∧
      artifact.publicTypeBoundaries = inventory.publicTypeBoundaries.toList ∧
      artifact.typeReferences = inventory.typeReferences.toList := by
  obtain ⟨_, parts⟩ := artifactParts_of_fromWasm built
  obtain ⟨other, inventory, read, extracted⟩ := parts.extracted
  obtain rfl : other = spec := Option.some.inj (read.symm.trans specified)
  exact ⟨inventory, extracted⟩

/-- A check of each entry against itself finds nothing. -/
theorem forEach_eq_nil {entries : StringMap InterfaceEntry}
    {check : String → InterfaceEntry → List Finding}
    (silent : ∀ (name : String) (entry : InterfaceEntry),
      entries[name]? = some entry → check name entry = []) : forEach entries check = [] := by
  rw [forEach, List.flatMap_eq_nil_iff]
  intro entry listed
  exact silent entry.1 entry.2 (OrderedMap.mem_toList_iff.1 listed)

theorem compareInterfaces_eq_nil {policy : Policy} {context : ValidationContext}
    (functions : source.functions = target.functions) (events : source.events = target.events)
    (userTypes : source.userTypes = target.userTypes) :
    compareInterfaces source target policy context = [] := by
  rw [compareInterfaces, functions, events, userTypes]
  simp only [List.append_eq_nil_iff, and_assoc]
  refine ⟨forEach_eq_nil ?_, forEach_eq_nil ?_, forEach_eq_nil ?_⟩
  · intro name entry found
    simp [compareFunction, found]
  · intro name entry found
    simp [compareEvent, found]
  · intro name entry found
    simp [compareUserType, found]

/-- Without changed types there is nothing to trace. -/
theorem tracePublicImpacts_eq_nil (userTypes : source.userTypes = target.userTypes) :
    tracePublicImpacts source target = ([], false) := by
  have unchanged : changedTypes source target = [] := by
    rw [changedTypes, List.filterMap_eq_nil_iff]
    intro entry listed
    rw [userTypes] at listed
    have found : target.userTypes[entry.1]? = some entry.2 := OrderedMap.mem_toList_iff.1 listed
    simp [found]
  simp [tracePublicImpacts, unchanged]

end Artifacts

/-- Under a policy that keeps every protection, the interface comparison of two modules
raises no error exactly when every entry of the source specification occurs in the
target specification, up to documentation and order. -/
theorem interfaceGate_exact (primitives : Primitives) (readers : WasmReaders)
    (injective : Function.Injective readers.texts.escaped) (sourceBytes targetBytes : List UInt8)
    (source target : Artifact) (sourceSpec targetSpec : List ScSpecEntry) (policy : Policy)
    (context : ValidationContext)
    (sourceBuilt : Artifact.fromWasm primitives readers sourceBytes = .ok source)
    (targetBuilt : Artifact.fromWasm primitives readers targetBytes = .ok target)
    (sourceSpecified : readers.specFromWasm sourceBytes = some sourceSpec)
    (targetSpecified : readers.specFromWasm targetBytes = some targetSpec)
    (strict : policy.Strict) :
    Unblocked (compareInterfaces source target policy context) ↔ Keeps sourceSpec targetSpec := by
  obtain ⟨sourceInventory, sourceExtracted, functions, events, userTypes, _⟩ :=
    inventory_of_fromWasm sourceBuilt sourceSpecified
  obtain ⟨targetInventory, targetExtracted, targetFunctions, targetEvents, targetUserTypes, _⟩ :=
    inventory_of_fromWasm targetBuilt targetSpecified
  have retained := retained_names_iff injective sourceExtracted targetExtracted
  rw [strict.unblocked_interfaces_iff, functions, events, userTypes, targetFunctions,
    targetEvents, targetUserTypes]
  constructor
  · intro kept entry listed
    obtain ⟨functions, events, userTypes⟩ := kept
    cases space : entry.nameSpace with
    | function => exact (retained .function).1 functions entry listed space
    | event => exact (retained .event).1 events entry listed space
    | userType => exact (retained .userType).1 userTypes entry listed space
  · intro keeps
    exact ⟨(retained .function).2 fun entry listed _ => keeps entry listed,
      (retained .event).2 fun entry listed _ => keeps entry listed,
      (retained .userType).2 fun entry listed _ => keeps entry listed⟩

namespace Sample

/-- The struct of `oldConfig` with documentation. -/
def documentedConfig : ScSpecEntry × List UInt8 :=
  (.udtStructV0 {
    doc := utf8 "Limits of the contract.".toList
    lib := []
    name := utf8 "Config".toList
    fields := [{
      doc := utf8 "Calls in a ledger.".toList
      name := utf8 "limit".toList
      type := .u32 }] },
  xdrWord 1 ++ xdrString "Limits of the contract." ++ xdrString "" ++ xdrString "Config" ++
    xdrWord 1 ++ xdrString "Calls in a ledger." ++ xdrString "limit" ++ xdrWord 4)

/-- A release that documents the struct and lists the entries in another order. -/
def documentedModule : WasmModule where
  binver := "1.0.1"
  spec := [documentedConfig, migrateForm, upgradeForm]
  exported := [("upgrade", 1), ("migrate", 2)]

/-- A release with one more function. -/
def extendedModule : WasmModule where
  binver := "1.1.0"
  spec := functionForm "limit" [] :: documentedModule.spec
  exported := [("upgrade", 1), ("migrate", 2), ("limit", 2)]

def interfaceModules : List WasmModule := [oldConfig, documentedModule, extendedModule]

theorem fromWasm_interfaceModule : ∀ module ∈ interfaceModules, ∃ artifact,
    Artifact.fromWasm Sample.primitives (readers interfaceModules) module.bytes =
      .ok artifact := by
  intro module listed
  apply Outcome.exists_of_isOk
  revert module
  decide +kernel

theorem specFromWasm_interfaceModule : ∀ module ∈ interfaceModules,
    (readers interfaceModules).specFromWasm module.bytes = some (module.spec.map (·.1)) :=
  specFromWasm_readers (by decide +kernel)

end Sample

/-- A release that documents a struct and adds a function passes, and the way back does
not. -/
theorem sampleInterfaceGate_exact : ∃ source target,
    Artifact.fromWasm Sample.primitives (Sample.readers Sample.interfaceModules)
      Sample.oldConfig.bytes = .ok source ∧
    Artifact.fromWasm Sample.primitives (Sample.readers Sample.interfaceModules)
      Sample.extendedModule.bytes = .ok target ∧
    Unblocked (compareInterfaces source target Policy.default Sample.context) ∧
    ¬ Unblocked (compareInterfaces target source Policy.default Sample.context) := by
  have oldListed : Sample.oldConfig ∈ Sample.interfaceModules := by
    simp [Sample.interfaceModules]
  have newListed : Sample.extendedModule ∈ Sample.interfaceModules := by
    simp [Sample.interfaceModules]
  obtain ⟨source, sourceBuilt⟩ := Sample.fromWasm_interfaceModule _ oldListed
  obtain ⟨target, targetBuilt⟩ := Sample.fromWasm_interfaceModule _ newListed
  have sourceSpecified := Sample.specFromWasm_interfaceModule _ oldListed
  have targetSpecified := Sample.specFromWasm_interfaceModule _ newListed
  refine ⟨source, target, sourceBuilt, targetBuilt, ?_, ?_⟩
  · refine (interfaceGate_exact Sample.primitives _ Sample.escaped_injective _ _ _ _ _ _
      Policy.default Sample.context sourceBuilt targetBuilt sourceSpecified targetSpecified
      (by decide)).2 ?_
    intro entry listed
    simp only [Sample.oldConfig, Sample.configModule, List.map_cons, List.map_nil, List.mem_cons,
      List.not_mem_nil, or_false] at listed
    rcases listed with rfl | rfl | rfl
    · exact ⟨Sample.upgradeForm.1, by simp [Sample.extendedModule, Sample.documentedModule], rfl⟩
    · exact ⟨Sample.migrateForm.1, by simp [Sample.extendedModule, Sample.documentedModule], rfl⟩
    · exact ⟨Sample.documentedConfig.1,
        by simp [Sample.extendedModule, Sample.documentedModule], rfl⟩
  · intro passes
    have keeps := (interfaceGate_exact Sample.primitives _ Sample.escaped_injective _ _ _ _ _ _
      Policy.default Sample.context targetBuilt sourceBuilt targetSpecified sourceSpecified
      (by decide)).1 passes
    obtain ⟨kept, listed, same⟩ := keeps (Sample.functionForm "limit" []).1
      (by simp [Sample.extendedModule])
    simp only [Sample.oldConfig, Sample.configModule, List.map_cons, List.map_nil, List.mem_cons,
      List.not_mem_nil, or_false] at listed
    rcases listed with rfl | rfl | rfl
    · cases same
    · cases same
    · cases same

/-- Modules whose specifications differ in documentation and order only have the same
interface, so that no policy raises a finding or traces an impact. -/
theorem documentation_is_silent (primitives : Primitives) (readers : WasmReaders)
    (injective : Function.Injective readers.texts.escaped) (sourceBytes targetBytes : List UInt8)
    (source target : Artifact) (sourceSpec targetSpec : List ScSpecEntry)
    (sourceBuilt : Artifact.fromWasm primitives readers sourceBytes = .ok source)
    (targetBuilt : Artifact.fromWasm primitives readers targetBytes = .ok target)
    (sourceSpecified : readers.specFromWasm sourceBytes = some sourceSpec)
    (targetSpecified : readers.specFromWasm targetBytes = some targetSpec)
    (same : (sourceSpec.map (·.blankDocs)).Perm (targetSpec.map (·.blankDocs))) :
    (source.functions = target.functions ∧ source.events = target.events ∧
      source.userTypes = target.userTypes ∧
      source.publicTypeBoundaries = target.publicTypeBoundaries ∧
      source.typeReferences = target.typeReferences) ∧
    (∀ policy context, compareInterfaces source target policy context = []) ∧
    tracePublicImpacts source target = ([], false) := by
  obtain ⟨sourceInventory, sourceExtracted, functions, events, userTypes, boundaries, references⟩ :=
    inventory_of_fromWasm sourceBuilt sourceSpecified
  obtain ⟨targetInventory, targetExtracted, targetFunctions, targetEvents, targetUserTypes,
    targetBoundaries, targetReferences⟩ := inventory_of_fromWasm targetBuilt targetSpecified
  have keeps : Keeps sourceSpec targetSpec := fun entry listed =>
    List.mem_map.1 (same.subset (List.mem_map_of_mem listed))
  have kept : Keeps targetSpec sourceSpec := fun entry listed =>
    List.mem_map.1 (same.symm.subset (List.mem_map_of_mem listed))
  obtain rfl := inventory_eq_of_keeps injective sourceExtracted targetExtracted keeps kept
  have sameFunctions := functions.trans targetFunctions.symm
  have sameEvents := events.trans targetEvents.symm
  have sameTypes := userTypes.trans targetUserTypes.symm
  exact ⟨⟨sameFunctions, sameEvents, sameTypes, boundaries.trans targetBoundaries.symm,
      references.trans targetReferences.symm⟩,
    fun policy context => compareInterfaces_eq_nil sameFunctions sameEvents sameTypes,
    tracePublicImpacts_eq_nil sameTypes⟩

/-- The release that documents its struct and lists its entries in another order has the
same interface. -/
theorem sampleDocumentation_is_silent : ∃ source target,
    Artifact.fromWasm Sample.primitives (Sample.readers Sample.interfaceModules)
      Sample.oldConfig.bytes = .ok source ∧
    Artifact.fromWasm Sample.primitives (Sample.readers Sample.interfaceModules)
      Sample.documentedModule.bytes = .ok target ∧
    source.userTypes = target.userTypes ∧
    compareInterfaces source target Policy.default Sample.context = [] ∧
    tracePublicImpacts source target = ([], false) := by
  have oldListed : Sample.oldConfig ∈ Sample.interfaceModules := by
    simp [Sample.interfaceModules]
  have newListed : Sample.documentedModule ∈ Sample.interfaceModules := by
    simp [Sample.interfaceModules]
  obtain ⟨source, sourceBuilt⟩ := Sample.fromWasm_interfaceModule _ oldListed
  obtain ⟨target, targetBuilt⟩ := Sample.fromWasm_interfaceModule _ newListed
  have reversed : ((Sample.oldConfig.spec.map (·.1)).map (·.blankDocs)).Perm
      ((Sample.documentedModule.spec.map (·.1)).map (·.blankDocs)) :=
    (List.reverse_perm _).symm
  obtain ⟨⟨_, _, userTypes, _⟩, silent, untraced⟩ := documentation_is_silent Sample.primitives _
    Sample.escaped_injective _ _ _ _ _ _ sourceBuilt targetBuilt
    (Sample.specFromWasm_interfaceModule _ oldListed)
    (Sample.specFromWasm_interfaceModule _ newListed) reversed
  exact ⟨source, target, sourceBuilt, targetBuilt, userTypes, silent _ _, untraced⟩

end SorobanUpgrades
