/-
Module: SorobanUpgrades.Proofs.ArtifactReading
Purpose: Which modules are read as artifacts, and what holds of every artifact that
  was read.
Trusted boundary: none
Main exports: readContractMetadata_eq_ok_iff, Acceptable, fromWasm_accepts_iff,
  Artifact.WellFormed, fromWasm_wellFormed
-/
import SorobanUpgrades.Proofs.CallReachability
import SorobanUpgrades.Proofs.TypeChanges

namespace SorobanUpgrades

open Outcome (bind_eq_ok_iff seq_eq_ok_iff)

variable {primitives : Primitives} {readers : WasmReaders} {payloads : List Payload}
  {bytes : List UInt8}

/-! ### Custom sections -/

theorem requireSingleContractSpecSection_eq_ok_iff :
    requireSingleContractSpecSection payloads = .ok () ↔
      (customSections "contractspecv0" payloads).length = 1 := by
  rw [requireSingleContractSpecSection]
  by_cases single : (customSections "contractspecv0" payloads).length = 1 <;> simp [single]

theorem readContractEnvMetadata_eq_ok_iff {version : UInt32 × UInt32} :
    readContractEnvMetadata readers payloads = .ok version ↔
      ∃ raw, customSections "contractenvmetav0" payloads = [raw] ∧
        readers.envMetaEntries raw = some [version] := by
  rw [readContractEnvMetadata]
  split
  case h_1 raw sections =>
    rw [sections, bind_eq_ok_iff]
    constructor
    · intro finished
      obtain ⟨entries, read, finished⟩ := finished
      rw [readOr_eq_ok_iff] at read
      split at finished
      · cases finished
        exact ⟨raw, rfl, read⟩
      · cases finished
    · intro finished
      obtain ⟨_, same, read⟩ := finished
      cases same
      exact ⟨_, readOr_eq_ok_iff.2 read, rfl⟩
  case h_2 several =>
    simp only [reduceCtorEq, false_iff, not_exists, not_and]
    intro raw single
    exact absurd single (several raw)

/-- The decoded metadata entries, in order. -/
def decodedMetadata (readers : WasmReaders) (entries : List (XdrString × XdrString)) :
    List (String × String) :=
  entries.map fun entry =>
    (readers.texts.toUtf8StringLossy entry.1, readers.texts.toUtf8StringLossy entry.2)

/-- Metadata is read from the entries of all sections when no key repeats. -/
theorem readContractMetadata_eq_ok_iff {metadata : StringMap String} :
    readContractMetadata readers payloads = .ok metadata ↔
      ∃ entries,
        readers.metaEntries (customSections "contractmetav0" payloads).flatten = some entries ∧
        (keysOf (decodedMetadata readers entries)).Nodup ∧
        Std.ExtTreeMap.ofList (decodedMetadata readers entries) compare = metadata := by
  have inserts : ∀ entries : List (XdrString × XdrString),
      entries.foldlM (readContractMetadata.insertMetadata readers) ∅ =
        (decodedMetadata readers entries).foldlM
          (OrderedMap.insertNew Error.duplicateMetadataKey) ∅ := by
    intro entries
    rw [decodedMetadata, List.foldlM_map]
    rfl
  rw [readContractMetadata, bind_eq_ok_iff]
  simp only [readOr_eq_ok_iff, inserts, OrderedMap.foldlM_insertNew_empty_eq_ok_iff]

/-! ### Acceptance -/

/-- What a module must be to be read: of bounded size, with one specification section
whose entries are well named, one interface version, and distinct metadata keys. -/
structure Acceptable (readers : WasmReaders) (bytes : List UInt8) (payloads : List Payload) :
    Prop where
  small : bytes.length ≤ maxArtifactSizeBytes
  described : (customSections "contractspecv0" payloads).length = 1
  environment : ∃ raw version, customSections "contractenvmetav0" payloads = [raw] ∧
    readers.envMetaEntries raw = some [version]
  specified : ∃ spec, readers.specFromWasm bytes = some spec ∧ WellNamed readers.texts spec
  metadata : ∃ entries,
    readers.metaEntries (customSections "contractmetav0" payloads).flatten = some entries ∧
      (keysOf (decodedMetadata readers entries)).Nodup

/-- A module whose indices are in range is read exactly when it is acceptable. -/
theorem fromWasm_accepts_iff (primitives : Primitives) (readers : WasmReaders)
    (bytes : List UInt8) (payloads : List Payload)
    (parsed : readers.parseAll bytes = some payloads) (inRange : IndicesInRange payloads) :
    (∃ artifact, Artifact.fromWasm primitives readers bytes = .ok artifact) ↔
      Acceptable readers bytes payloads := by
  constructor
  · intro built
    obtain ⟨artifact, built⟩ := built
    obtain ⟨others, parts⟩ := artifactParts_of_fromWasm built
    obtain rfl : others = payloads := Option.some.inj (parts.parsed.symm.trans parsed)
    obtain ⟨spec, inventory, specified, extracted, _⟩ := parts.extracted
    obtain ⟨raw, section_, version⟩ := readContractEnvMetadata_eq_ok_iff.1 parts.environment
    obtain ⟨entries, read, distinct, _⟩ := readContractMetadata_eq_ok_iff.1 parts.metadata
    exact ⟨parts.small, requireSingleContractSpecSection_eq_ok_iff.1 parts.described,
      ⟨raw, _, section_, version⟩,
      ⟨spec, specified, (foldlM_extractEntry_eq_ok_iff.1 extracted).1⟩, ⟨entries, read, distinct⟩⟩
  · intro acceptable
    obtain ⟨raw, version, section_, versioned⟩ := acceptable.environment
    obtain ⟨spec, specified, named⟩ := acceptable.specified
    obtain ⟨entries, read, distinct⟩ := acceptable.metadata
    obtain ⟨calls, inspected, _⟩ := inspectExportCallEvidence_lookup inRange
    have environment := readContractEnvMetadata_eq_ok_iff.2 ⟨raw, section_, versioned⟩
    have metadata := readContractMetadata_eq_ok_iff.2 ⟨entries, read, distinct, rfl⟩
    have imported := readHostImports_eq inRange
    have extracted := foldlM_extractEntry_eq_ok_iff.2 ⟨named, freshFor_empty, rfl⟩
    apply Exists.intro
    rw [Artifact.fromWasm, seq_eq_ok_iff]
    refine ⟨if_neg (Nat.not_lt.2 acceptable.small), ?_⟩
    rw [bind_eq_ok_iff]
    refine ⟨payloads, readOr_eq_ok_iff.2 parsed, ?_⟩
    rw [seq_eq_ok_iff]
    refine ⟨requireSingleContractSpecSection_eq_ok_iff.2 acceptable.described, ?_⟩
    simp only [bind_eq_ok_iff, readOr_eq_ok_iff]
    exact ⟨version, environment, spec, specified, _, metadata, _, imported, calls, inspected, _,
      extracted, rfl⟩

namespace Sample

theorem sourceModule_parsed :
    releaseReaders.parseAll sourceModule.bytes = some sourceModule.payloads := by
  simp [releaseReaders, readers, releaseModules]

theorem sourceModule_inRange : IndicesInRange sourceModule.payloads := by
  refine indicesInRange_of_all ?_ (by decide) (by decide)
  change 1 < 4294967296
  omega

end Sample

/-- The first release is acceptable. -/
theorem sampleFromWasm_accepts :
    Acceptable Sample.releaseReaders Sample.sourceModule.bytes Sample.sourceModule.payloads :=
  (fromWasm_accepts_iff Sample.primitives Sample.releaseReaders Sample.sourceModule.bytes
    Sample.sourceModule.payloads Sample.sourceModule_parsed Sample.sourceModule_inRange).1
    ⟨_, Sample.fromWasm_module _ Sample.sourceModule_listed⟩

/-! ### Well-formed artifacts -/

/-- What the checks rely on: entries stand under their own names in the collection of
their kind, every struct has readable fields, uses of types belong to declared
functions and types, and reachable imports are imports. -/
structure Artifact.WellFormed (artifact : Artifact) : Prop where
  functions : ∀ (name : String) (entry : InterfaceEntry),
    artifact.functions[name]? = some entry → entry.name = name ∧ entry.kind = "function"
  events : ∀ (name : String) (entry : InterfaceEntry),
    artifact.events[name]? = some entry → entry.name = name ∧ entry.kind = "event"
  userTypes : ∀ (name : String) (entry : InterfaceEntry),
    artifact.userTypes[name]? = some entry →
      entry.name = name ∧ entry.kind ∈ ["struct", "union", "enum", "error_enum"]
  structs : ∀ (name : String) (entry : InterfaceEntry),
    artifact.userTypes[name]? = some entry →
      ((structFieldsOf entry).isSome = true ↔ entry.kind = "struct")
  boundaries : ∀ boundary ∈ artifact.publicTypeBoundaries,
    artifact.hasFunction boundary.function = true
  references : ∀ reference ∈ artifact.typeReferences, ∃ entry,
    artifact.userTypes[reference.ownerType]? = some entry ∧ entry.kind ∈ ["struct", "union"]
  distinct : artifact.publicTypeBoundaries.Nodup ∧ artifact.typeReferences.Nodup
  calls : ∀ (name : String) (evidence : ExportCallEvidence),
    artifact.exportCallEvidence[name]? = some evidence →
      ∀ text ∈ evidence.hostImports, text ∈ artifact.hostImports

section WellFormed

variable {texts : XdrTexts} {spec : List ScSpecEntry}

/-- Only struct entries have fields. -/
theorem isSome_structFieldsOf_iff {entry : ScSpecEntry} :
    (structFieldsOf (entry.interfaceEntry texts)).isSome = true ↔ entry.kind = "struct" := by
  cases entry with
  | udtStructV0 value =>
      rw [structFieldsOf_struct]
      exact iff_of_true rfl rfl
  | _ =>
      refine iff_of_false ?_ (by simp [ScSpecEntry.kind])
      rw [structFieldsOf, ScSpecEntry.interfaceEntry, canonicalizeSpecEntry_eq,
        Json.toValue_json, encodeSpecEntry, stripped_tagged (by decide),
        Json.pointer_normalize_object (by simp)]
      simp [List.lookup]

/-- The recorded imports are imports of the module. -/
def CallSearch.RecordsImports (functionImports : List String) (search : CallSearch) : Prop :=
  ∀ text ∈ search.evidence.hostImports, text ∈ functionImports

theorem CallSearch.RecordsImports.turn {count : UInt32} {functionImports : List String}
    {bodies : List FunctionBodyCalls} {search next : CallSearch}
    (records : search.RecordsImports functionImports)
    (turned : search.turn count functionImports bodies = .ok next) :
    next.RecordsImports functionImports := by
  unfold CallSearch.turn at turned
  split at turned
  · cases turned
    exact records
  · split at turned
    · -- The function is an import, whose name is recorded.
      split at turned
      case h_1 name named =>
        cases turned
        intro text recorded
        rcases Std.ExtTreeSet.mem_insert.1 recorded with same | earlier
        · rw [← Std.compare_eq_iff_eq.1 same]
          exact List.mem_of_getElem? named
        · exact records text earlier
      case h_2 => cases turned
    · split at turned
      · cases turned
        exact records
      · split at turned
        · cases turned
          exact records
        · cases turned

/-- The traversal of an export records imports of the module only. -/
theorem hostImports_of_collected {index count : UInt32} {functionImports : List String}
    {bodies : List FunctionBodyCalls} {evidence : ExportCallEvidence}
    (collected : collectExportCallEvidence index count functionImports bodies = .ok evidence) :
    ∀ text ∈ evidence.hostImports, text ∈ functionImports := by
  let records : Except Error CallSearch → Prop := fun state =>
    ∀ search, state = .ok search → search.RecordsImports functionImports
  have started : records (.ok (CallSearch.initial index)) := by
    intro search same
    cases same
    intro text recorded
    cases Std.ExtTreeSet.not_mem_empty recorded
  have preserved : ∀ state, records state → CallSearch.halted state = false →
      records (CallSearch.step count functionImports bodies state) := by
    intro state recorded _ next stepped
    cases state with
    | error failure => cases stepped
    | ok search => exact (recorded search rfl).turn stepped
  obtain ⟨search, finished, done⟩ := bind_eq_ok_iff.1 collected
  cases done
  exact runLoop_invariant preserved _ started search finished

/-- The names of the imported functions, in index order. -/
theorem mem_hostImports_of_listed {hostImports : StringSet} {text : String}
    (imported : readHostImports payloads = .ok hostImports)
    (listed : text ∈ (importedFunctions payloads).map fun item => s!"{item.module}.{item.name}") :
    text ∈ hostImports := by
  obtain ⟨item, member, rfl⟩ := List.mem_map.1 listed
  obtain ⟨position, found⟩ := List.mem_iff_getElem?.1 member
  have indexed : (item, position) ∈ (importedFunctions payloads).zipIdx :=
    List.mem_zipIdx_iff_getElem?.2 found
  obtain ⟨imports, inspected, done⟩ := bind_eq_ok_iff.1 imported
  cases done
  obtain ⟨result, kept, visited⟩ := Outcome.exists_result_of_mapM inspected indexed
  obtain ⟨functionIndex, _, done⟩ := bind_eq_ok_iff.1 visited
  cases done
  exact OrderedSet.mem_ofList_iff.2 (List.mem_map.2 ⟨_, kept, rfl⟩)

theorem calls_wellFormed {hostImports : StringSet} {calls : StringMap ExportCallEvidence}
    (imported : readHostImports payloads = .ok hostImports)
    (inspected : inspectExportCallEvidence payloads = .ok calls) {name : String}
    {evidence : ExportCallEvidence} (stored : calls[name]? = some evidence) :
    ∀ text ∈ evidence.hostImports, text ∈ hostImports := by
  obtain ⟨count, _, inspected⟩ := bind_eq_ok_iff.1 inspected
  obtain ⟨results, mapped, done⟩ := bind_eq_ok_iff.1 inspected
  cases done
  rw [OrderedMap.getElem?_ofList] at stored
  have listed := List.mem_reverse.1 (mem_of_lookup_eq_some stored)
  obtain ⟨item, _, visited⟩ := Outcome.exists_item_of_mapM mapped listed
  obtain ⟨_, collected, done⟩ := bind_eq_ok_iff.1 visited
  cases done
  intro text recorded
  exact mem_hostImports_of_listed imported (hostImports_of_collected collected text recorded)

variable {inventory : SpecInventory}

theorem mem_publicTypeBoundaries_iff (extracted : extractSpec texts spec = .ok inventory)
    {boundary : PublicTypeBoundary} :
    boundary ∈ inventory.publicTypeBoundaries ↔ IsBoundary texts spec boundary := by
  obtain ⟨_, _, rfl⟩ := foldlM_extractEntry_eq_ok_iff.1 extracted
  rw [mem_publicTypeBoundaries_foldl_iff, exists_boundaries_iff]
  simp [SpecInventory.empty]

theorem mem_typeReferences_iff (extracted : extractSpec texts spec = .ok inventory)
    {reference : TypeReference} :
    reference ∈ inventory.typeReferences ↔ IsReference texts spec reference := by
  obtain ⟨_, _, rfl⟩ := foldlM_extractEntry_eq_ok_iff.1 extracted
  rw [mem_typeReferences_foldl_iff, exists_references_iff]
  simp [SpecInventory.empty]

/-- A boundary belongs to a declared function. -/
theorem IsBoundary.function {boundary : PublicTypeBoundary}
    (isBoundary : IsBoundary texts spec boundary) :
    ∃ function, .functionV0 function ∈ spec ∧
      texts.toUtf8StringLossy function.name = boundary.function := by
  cases isBoundary with
  | input entry | output entry => exact ⟨_, entry, rfl⟩

/-- A reference belongs to a declared struct or union. -/
theorem IsReference.owner {reference : TypeReference}
    (isReference : IsReference texts spec reference) :
    ∃ entry ∈ spec, entry.nameSpace = .userType ∧ entry.ownName texts = reference.ownerType ∧
      (entry.interfaceEntry texts).kind ∈ ["struct", "union"] := by
  cases isReference with
  | field entry => exact ⟨_, entry, rfl, rfl, by simp [ScSpecEntry.interfaceEntry, ScSpecEntry.kind]⟩
  | caseMember entry =>
      exact ⟨_, entry, rfl, rfl, by simp [ScSpecEntry.interfaceEntry, ScSpecEntry.kind]⟩

end WellFormed

/-- Every artifact that is read is well formed. -/
theorem fromWasm_wellFormed (primitives : Primitives) (readers : WasmReaders)
    (bytes : List UInt8) (artifact : Artifact)
    (built : Artifact.fromWasm primitives readers bytes = .ok artifact) :
    artifact.WellFormed := by
  obtain ⟨payloads, parts⟩ := artifactParts_of_fromWasm built
  obtain ⟨spec, inventory, _, extracted, functions, events, userTypes, boundaries, references⟩ :=
    parts.extracted
  have userType : ∀ (name : String) (entry : InterfaceEntry),
      artifact.userTypes[name]? = some entry → ∃ item ∈ spec, item.nameSpace = .userType ∧
        item.ownName readers.texts = name ∧ item.interfaceEntry readers.texts = entry := by
    intro name entry found
    rw [userTypes] at found
    exact (getElem?_names_of_extracted extracted).1 (show (inventory.names .userType)[name]? = _
      from found)
  constructor
  · intro name entry found
    rw [functions] at found
    obtain ⟨function, _, rfl, rfl⟩ := function_of_extracted extracted found
    exact ⟨rfl, rfl⟩
  · intro name entry found
    rw [events] at found
    obtain ⟨item, _, kind, rfl, rfl⟩ := (getElem?_names_of_extracted extracted).1
      (show (inventory.names .event)[name]? = _ from found)
    cases item with
    | eventV0 value => exact ⟨rfl, rfl⟩
    | _ => cases kind
  · intro name entry found
    obtain ⟨item, _, kind, rfl, rfl⟩ := userType name entry found
    refine ⟨rfl, ?_⟩
    cases item with
    | functionV0 | eventV0 => cases kind
    | _ => simp [ScSpecEntry.interfaceEntry, ScSpecEntry.kind]
  · intro name entry found
    obtain ⟨item, _, _, _, rfl⟩ := userType name entry found
    exact isSome_structFieldsOf_iff
  · intro boundary listed
    rw [boundaries, Std.ExtTreeSet.mem_toList, mem_publicTypeBoundaries_iff extracted] at listed
    obtain ⟨function, member, name⟩ := listed.function
    have found : inventory.functions[boundary.function]? =
        some (ScSpecEntry.interfaceEntry readers.texts (.functionV0 function)) :=
      (getElem?_names_of_extracted extracted).2 ⟨_, member, rfl, name, rfl⟩
    rw [Artifact.hasFunction, functions, Std.ExtTreeMap.contains_eq_isSome_getElem?, found]
    rfl
  · intro reference listed
    rw [references, Std.ExtTreeSet.mem_toList, mem_typeReferences_iff extracted] at listed
    obtain ⟨item, member, space, name, kind⟩ := listed.owner
    have found : inventory.userTypes[reference.ownerType]? =
        some (item.interfaceEntry readers.texts) :=
      (getElem?_names_of_extracted extracted).2 ⟨item, member, space, name, rfl⟩
    exact ⟨_, by rw [userTypes, found], kind⟩
  · rw [boundaries, references]
    exact ⟨OrderedSet.nodup_toList _, OrderedSet.nodup_toList _⟩
  · intro name evidence stored
    exact calls_wellFormed parts.hostImports parts.calls stored

/-- The artifact of the first release is well formed. -/
theorem sampleFromWasm_wellFormed : Sample.sourceModule.artifact.WellFormed :=
  fromWasm_wellFormed Sample.primitives Sample.releaseReaders Sample.sourceModule.bytes _
    (Sample.fromWasm_module _ Sample.sourceModule_listed)

end SorobanUpgrades
