/-
Module: SorobanUpgrades.Proofs.TypeChanges
Purpose: Every change of a user type is reported once, and only a struct that adds
  optional fields and changes nothing else is reported as optional growth.
Trusted boundary: none
Main exports: OptionalGrowth, isSome_optionalStructFieldsAdded_entry_iff,
  TypeChangeReport, userTypeChanges_reported
-/
import SorobanUpgrades.Proofs.CanonicalInterfaces
import SorobanUpgrades.Proofs.SpecExtraction
import SorobanUpgrades.Proofs.EntrypointExports
import SorobanUpgrades.Proofs.FindingCodes

namespace SorobanUpgrades

open Json (LaidOut)

/-- A struct keeps its fields with their types and adds at least one field. Every
added field is optional. -/
structure OptionalGrowth (before after : ScSpecUdtStructV0) : Prop where
  kept : ∀ field ∈ before.fields,
    ∃ same ∈ after.fields, same.name = field.name ∧ same.type = field.type
  grown : ∃ field ∈ after.fields, ∀ old ∈ before.fields, old.name ≠ field.name
  optional : ∀ field ∈ after.fields, (∀ old ∈ before.fields, old.name ≠ field.name) →
    ∃ valueType, field.type = .option valueType

/-! ### Maps of fields -/

section FieldMaps

variable {old new : InterfaceEntry} {before after : StringMap Value}

/-- The fields that only the second map has. -/
def addedFields (before after : StringMap Value) : List (String × Value) :=
  after.toList.filter fun entry => !before.contains entry.1

theorem mem_addedFields_iff {entry : String × Value} :
    entry ∈ addedFields before after ↔ after[entry.1]? = some entry.2 ∧ entry.1 ∉ before := by
  rw [addedFields, List.mem_filter, OrderedMap.mem_toList_iff, Std.ExtTreeMap.mem_iff_contains,
    Bool.not_eq_true', Bool.not_eq_true]

theorem addedFields_ne_nil_iff :
    addedFields before after ≠ [] ↔ ∃ name, name ∈ after ∧ name ∉ before := by
  constructor
  · intro nonempty
    obtain ⟨entry, listed⟩ := List.exists_mem_of_ne_nil _ nonempty
    obtain ⟨present, fresh⟩ := mem_addedFields_iff.1 listed
    exact ⟨entry.1, Std.ExtTreeMap.mem_iff_isSome_getElem?.2 (by rw [present]; rfl), fresh⟩
  · rintro ⟨name, present, fresh⟩
    obtain ⟨fieldType, found⟩ := Option.isSome_iff_exists.1
      (Std.ExtTreeMap.mem_iff_isSome_getElem?.1 present)
    exact List.ne_nil_of_mem (mem_addedFields_iff.2 ⟨found, fresh⟩ :
      (name, fieldType) ∈ addedFields before after)

/-- The second map has every field of the first with its type. -/
def KeepsFields (before after : StringMap Value) : Prop :=
  ∀ (name : String) (fieldType : Value), before[name]? = some fieldType →
    after[name]? = some fieldType

theorem KeepsFields.size_lt (kept : KeepsFields before after) {name : String}
    (present : name ∈ after) (fresh : name ∉ before) : before.size < after.size := by
  refine OrderedMap.size_lt_size (fun key listed => ?_) present fresh
  obtain ⟨fieldType, found⟩ := Option.isSome_iff_exists.1
    (Std.ExtTreeMap.mem_iff_isSome_getElem?.1 listed)
  exact Std.ExtTreeMap.mem_iff_isSome_getElem?.2 (by rw [kept key fieldType found]; rfl)

/-- The checks on the kept fields, the types of the added ones and their number. -/
theorem optionalStructFieldsAdded_eq_some_iff (oldKind : old.kind = "struct")
    (newKind : new.kind = "struct") (oldFields : structFieldsOf old = some before)
    (newFields : structFieldsOf new = some after) {added : List String} :
    optionalStructFieldsAdded old new = some added ↔
      (before.size < after.size ∧ KeepsFields before after) ∧
        ((∀ entry ∈ addedFields before after, isOptionType entry.2 = true) ∧
          (addedFields before after).map Prod.fst = added) ∧ added ≠ [] := by
  have kept : (before.toList.any fun entry => after[entry.1]? ≠ some entry.2) = false ↔
      KeepsFields before after := by
    simp [List.any_eq_false, KeepsFields]
  rw [optionalStructFieldsAdded, oldFields, newFields]
  simp only [oldKind, newKind, ne_eq, not_true_eq_false, or_self, if_false, Option.bind_eq_bind,
    Option.bind_some]
  constructor
  · intro grows
    split at grows
    · cases grows
    rename_i passes
    rw [not_or, Nat.not_le, Bool.not_eq_true] at passes
    obtain ⟨collected, visited, labelled⟩ := Option.bind_eq_some_iff.1 grows
    split at labelled
    · cases labelled
    rename_i nonempty
    cases labelled
    rw [List.isEmpty_iff] at nonempty
    exact ⟨⟨passes.1, kept.1 passes.2⟩, Outcome.mapM_guard_eq_some_iff.1 visited, nonempty⟩
  · rintro ⟨⟨larger, keeps⟩, collected, nonempty⟩
    have passes := not_or.2 ⟨Nat.not_le.2 larger, (Bool.not_eq_true _).symm ▸ kept.2 keeps⟩
    have visited : ((addedFields before after).mapM fun entry =>
        if isOptionType entry.2 then some entry.1 else none) = some added :=
      Outcome.mapM_guard_eq_some_iff.2 collected
    rw [addedFields] at visited
    rw [if_neg passes, visited, Option.bind_some, if_neg (by rwa [List.isEmpty_iff])]

/-- The growth of a struct, on the maps of its fields. -/
theorem isSome_optionalStructFieldsAdded_iff (oldKind : old.kind = "struct")
    (newKind : new.kind = "struct") (oldFields : structFieldsOf old = some before)
    (newFields : structFieldsOf new = some after) :
    (optionalStructFieldsAdded old new).isSome ↔
      KeepsFields before after ∧ (∃ name, name ∈ after ∧ name ∉ before) ∧
      ∀ (name : String) (fieldType : Value), after[name]? = some fieldType → name ∉ before →
        isOptionType fieldType = true := by
  rw [Option.isSome_iff_exists]
  simp only [optionalStructFieldsAdded_eq_some_iff oldKind newKind oldFields newFields]
  constructor
  · rintro ⟨_, ⟨_, kept⟩, ⟨optional, rfl⟩, nonempty⟩
    rw [ne_eq, List.map_eq_nil_iff] at nonempty
    exact ⟨kept, addedFields_ne_nil_iff.1 nonempty, fun name fieldType present fresh =>
      optional (name, fieldType) (mem_addedFields_iff.2 ⟨present, fresh⟩)⟩
  · rintro ⟨kept, grown, optional⟩
    obtain ⟨name, present, fresh⟩ := grown
    refine ⟨_, ⟨kept.size_lt present fresh, kept⟩, ⟨fun entry listed => ?_, rfl⟩, ?_⟩
    · obtain ⟨found, new⟩ := mem_addedFields_iff.1 listed
      exact optional entry.1 entry.2 found new
    · rw [ne_eq, List.map_eq_nil_iff]
      exact addedFields_ne_nil_iff.2 ⟨name, present, fresh⟩

end FieldMaps

/-! ### Fields in canonical values -/

section Encoding

variable {texts : XdrTexts}

/-- The canonical field types of a struct, by their escaped names. -/
def fieldTypes (texts : XdrTexts) (value : ScSpecUdtStructV0) : StringMap Value :=
  Std.ExtTreeMap.ofList (value.fields.map fun field =>
    (texts.escaped field.name, (encodeSpecType texts field.type).toValue)) compare

theorem structField_canonical (doc name : XdrString) (type : ScSpecTypeDef) :
    structField (stripDocumentation (encodeTypedMember texts doc name type)).normalize =
      some (texts.escaped name, (encodeSpecType texts type).toValue) := by
  have sorted : (encodeSpecType texts type).normalize.toValue = (encodeSpecType texts type).toValue :=
    Value.ext (Json.normalize_normalize _)
  rw [structField, stripped_typedMember, Json.get?_normalize_object (by simp),
    Json.get?_normalize_object (by simp), List.lookup_cons_self]
  simp [List.lookup, encodeXdrString, Json.normalize, Json.asStr, sorted]

/-- The pointer into the canonical value finds the fields of a struct. -/
theorem structFieldsOf_struct (value : ScSpecUdtStructV0) :
    structFieldsOf (ScSpecEntry.interfaceEntry texts (.udtStructV0 value)) =
      some (fieldTypes texts value) := by
  have listed : (ScSpecEntry.interfaceEntry texts (.udtStructV0 value)).canonical.json.pointer
      ["udt_struct_v0", "fields"] = some (.array (value.fields.map fun field =>
        (stripDocumentation (encodeTypedMember texts field.doc field.name field.type)).normalize)) := by
    rw [ScSpecEntry.interfaceEntry, canonicalizeSpecEntry_eq, Json.toValue_json, encodeSpecEntry,
      stripped_tagged (by decide), stripped_userType (by decide),
      Json.pointer_normalize_object (by simp), List.lookup_cons_self, Option.bind_some,
      Json.pointer_normalize_object (by simp)]
    simp [List.lookup, Json.pointer, Json.normalize_array]
  rw [structFieldsOf, listed]
  simp only [Option.bind_eq_bind, Option.bind_some, Json.asArray, List.mapM_map]
  rw [Outcome.mapM_eq_some_map fun field _ =>
    structField_canonical field.doc field.name field.type]
  rfl

theorem toValue_encodeSpecType_inj (injective : Function.Injective texts.escaped)
    {left right : ScSpecTypeDef} :
    (encodeSpecType texts left).toValue = (encodeSpecType texts right).toValue ↔ left = right := by
  constructor
  · intro same
    exact encodeSpecType_injective injective left right
      (LaidOut.eq_of_normalize_eq specLayouts_separated (laidOut_encodeSpecType left)
        (laidOut_encodeSpecType right) (congrArg Value.json same))
  · exact congrArg fun type => (encodeSpecType texts type).toValue

theorem isOptionType_eq (value : Value) : isOptionType value = (value.json.get? "option").isSome := by
  rw [isOptionType]
  cases value.json <;> rfl

/-- The canonical value tells an option type by its tag. -/
theorem isOptionType_encodeSpecType_iff {type : ScSpecTypeDef} :
    isOptionType (encodeSpecType texts type).toValue = true ↔
      ∃ valueType, type = .option valueType := by
  rw [isOptionType_eq, Json.toValue_json]
  cases type <;> rw [encodeSpecType]
  case option valueType =>
    rw [Json.get?_normalize_object (by simp)]
    simp
  case result | vec | map | tuple | bytesN | udt =>
    rw [Json.get?_normalize_object (by simp)]
    simp [List.lookup]
  all_goals
    simp [Json.normalize, Json.get?]

theorem struct_of_kind {entry : ScSpecEntry} (kind : entry.kind = "struct") :
    ∃ value, entry = .udtStructV0 value := by
  cases entry with
  | udtStructV0 value => exact ⟨value, rfl⟩
  | _ => simp [ScSpecEntry.kind] at kind

section Struct

variable {value before after : ScSpecUdtStructV0}

/-- With distinct names the map holds exactly the declared fields. -/
theorem getElem?_fieldTypes_iff (injective : Function.Injective texts.escaped)
    (distinct : (value.fields.map (·.name)).Nodup) {key : String} {fieldType : Value} :
    (fieldTypes texts value)[key]? = some fieldType ↔ ∃ field ∈ value.fields,
      texts.escaped field.name = key ∧ (encodeSpecType texts field.type).toValue = fieldType := by
  have keys : (keysOf (value.fields.map fun field =>
      (texts.escaped field.name, (encodeSpecType texts field.type).toValue))).Nodup := by
    have escaped := distinct.map injective
    rw [List.map_map] at escaped
    rw [keysOf, List.map_map]
    exact escaped
  rw [fieldTypes, OrderedMap.getElem?_ofList_of_nodup keys, lookup_eq_some_iff_mem keys]
  simp

theorem mem_fieldTypes_iff (injective : Function.Injective texts.escaped)
    (distinct : (value.fields.map (·.name)).Nodup) {key : String} :
    key ∈ fieldTypes texts value ↔ ∃ field ∈ value.fields, texts.escaped field.name = key := by
  rw [Std.ExtTreeMap.mem_iff_isSome_getElem?, Option.isSome_iff_exists]
  simp only [getElem?_fieldTypes_iff injective distinct]
  constructor
  · rintro ⟨_, field, listed, named, _⟩
    exact ⟨field, listed, named⟩
  · rintro ⟨field, listed, named⟩
    exact ⟨_, field, listed, named, rfl⟩

/-- Between two structs the code recognises exactly the optional growth. -/
theorem isSome_optionalStructFieldsAdded_struct_iff (injective : Function.Injective texts.escaped)
    (beforeDistinct : (before.fields.map (·.name)).Nodup)
    (afterDistinct : (after.fields.map (·.name)).Nodup) :
    (optionalStructFieldsAdded (ScSpecEntry.interfaceEntry texts (.udtStructV0 before))
      (ScSpecEntry.interfaceEntry texts (.udtStructV0 after))).isSome ↔
      OptionalGrowth before after := by
  have fresh : ∀ field : ScSpecUdtStructFieldV0,
      texts.escaped field.name ∉ fieldTypes texts before ↔
        ∀ old ∈ before.fields, old.name ≠ field.name := by
    intro field
    rw [mem_fieldTypes_iff injective beforeDistinct]
    simp [injective.eq_iff]
  rw [isSome_optionalStructFieldsAdded_iff rfl rfl (structFieldsOf_struct before)
    (structFieldsOf_struct after)]
  simp only [KeepsFields, getElem?_fieldTypes_iff injective beforeDistinct,
    getElem?_fieldTypes_iff injective afterDistinct, mem_fieldTypes_iff injective afterDistinct]
  constructor
  · rintro ⟨kept, ⟨_, ⟨added, listed, rfl⟩, absent⟩, optional⟩
    refine ⟨fun field member => ?_, ⟨added, listed, (fresh added).1 absent⟩,
      fun field member new => ?_⟩
    · obtain ⟨same, present, named, typed⟩ := kept _ _ ⟨field, member, rfl, rfl⟩
      exact ⟨same, present, injective named, (toValue_encodeSpecType_inj injective).1 typed⟩
    · exact isOptionType_encodeSpecType_iff.1
        (optional _ _ ⟨field, member, rfl, rfl⟩ ((fresh field).2 new))
  · intro growth
    refine ⟨?_, ?_, ?_⟩
    · rintro _ _ ⟨field, member, rfl, rfl⟩
      obtain ⟨same, present, named, typed⟩ := growth.kept field member
      exact ⟨same, present, congrArg _ named, by rw [typed]⟩
    · obtain ⟨added, listed, new⟩ := growth.grown
      exact ⟨_, ⟨added, listed, rfl⟩, (fresh added).2 new⟩
    · rintro _ _ ⟨field, member, rfl, rfl⟩ absent
      exact isOptionType_encodeSpecType_iff.2
        (growth.optional field member ((fresh field).1 absent))

end Struct

/-- Entries of any other kind never grow in this way. -/
theorem isSome_optionalStructFieldsAdded_entry_iff (injective : Function.Injective texts.escaped)
    {before after : ScSpecEntry} (beforeDistinct : (before.memberNames texts).Nodup)
    (afterDistinct : (after.memberNames texts).Nodup) :
    (optionalStructFieldsAdded (before.interfaceEntry texts)
      (after.interfaceEntry texts)).isSome ↔
      ∃ old new, before = .udtStructV0 old ∧ after = .udtStructV0 new ∧ OptionalGrowth old new := by
  by_cases structs : before.kind = "struct" ∧ after.kind = "struct"
  · obtain ⟨old, rfl⟩ := struct_of_kind structs.1
    obtain ⟨new, rfl⟩ := struct_of_kind structs.2
    have names : ∀ value : ScSpecUdtStructV0,
        ((ScSpecEntry.udtStructV0 value).memberNames texts).Nodup →
          (value.fields.map (·.name)).Nodup := by
      intro value distinct
      apply List.Nodup.of_map texts.toUtf8StringLossy
      rw [List.map_map]
      exact distinct
    rw [isSome_optionalStructFieldsAdded_struct_iff injective (names old beforeDistinct)
      (names new afterDistinct)]
    simp
  · have foreign : before.kind ≠ "struct" ∨ after.kind ≠ "struct" := not_and_or.1 structs
    have none : optionalStructFieldsAdded (before.interfaceEntry texts)
        (after.interfaceEntry texts) = none := by
      rw [optionalStructFieldsAdded, ScSpecEntry.interfaceEntry, ScSpecEntry.interfaceEntry,
        if_pos foreign]
      rfl
    rw [none]
    refine ⟨fun absurd => (by cases absurd), ?_⟩
    rintro ⟨old, new, rfl, rfl, _⟩
    exact absurd ⟨rfl, rfl⟩ structs

end Encoding

/-! ### Reported changes -/

/-- The codes of the findings about user types. -/
def userTypeCodes : List String := ["ABI003", "ABI004", "CAP005", "CAP006"]

/-- The structs of this name in the two specifications grow by optional fields only. -/
def GrowsOptionally (texts : XdrTexts) (sourceSpec targetSpec : List ScSpecEntry) (name : String) :
    Prop :=
  ∃ before after, .udtStructV0 before ∈ sourceSpec ∧ .udtStructV0 after ∈ targetSpec ∧
    texts.toUtf8StringLossy before.name = name ∧ texts.toUtf8StringLossy after.name = name ∧
    OptionalGrowth before after

/-- How one finding reports the change of a user type. -/
structure TypeChangeReport (texts : XdrTexts) (sourceSpec targetSpec : List ScSpecEntry)
    (target : Artifact) (context : ValidationContext) (name : String) (finding : Finding) :
    Prop where
  isError : finding.isError = true
  code : finding.code ∈ userTypeCodes
  removed : finding.code = "ABI003" ↔ target.userTypes[name]? = none
  growth : finding.code = "CAP005" ∨ finding.code = "CAP006" ↔
    GrowsOptionally texts sourceSpec targetSpec name
  supported : finding.code = "CAP005" ↔ GrowsOptionally texts sourceSpec targetSpec name ∧
    (∃ protocol, context.targetProtocolVersion = some protocol ∧ 28 ≤ protocol) ∧
    "m.c" ∈ target.hostImports

section Reports

variable {source target : Artifact} {policy : Policy} {context : ValidationContext}

/-- The findings about user types are those of the loop over the user types. -/
theorem filter_userTypeCodes_compareInterfaces :
    (compareInterfaces source target policy context).filter (·.code ∈ userTypeCodes) =
      forEach source.userTypes fun name old => compareUserType policy context target name old := by
  have functions : CodesWithin ["ABI001", "ABI002"] (forEach source.functions fun name old =>
      compareFunction policy target name old) :=
    codesWithin_forEach fun _ _ => codesWithin_compareFunction
  have events : CodesWithin ["EVT001", "EVT002"] (forEach source.events fun name old =>
      compareEvent policy target name old) :=
    codesWithin_forEach fun _ _ => codesWithin_compareEvent
  have userTypes : CodesWithin userTypeCodes (forEach source.userTypes fun name old =>
      compareUserType policy context target name old) :=
    codesWithin_forEach fun _ _ => codesWithin_compareUserType
  rw [compareInterfaces, List.filter_append, List.filter_append,
    functions.filter_eq_nil (by decide), events.filter_eq_nil (by decide),
    userTypes.filter_eq_self, List.nil_append, List.nil_append]

/-- The sparse read is available on the target protocol. -/
theorem sparseRead_supported_iff :
    (cap0086Protocol ≤ context.targetProtocolVersion.getD 0 ∧
        target.usesCap0086SparseRead = true) ↔
      (∃ protocol, context.targetProtocolVersion = some protocol ∧ 28 ≤ protocol) ∧
        "m.c" ∈ target.hostImports := by
  rw [Artifact.usesCap0086SparseRead, ← Std.ExtTreeSet.mem_iff_contains]
  refine and_congr_left fun _ => ?_
  cases context.targetProtocolVersion with
  | none => simp [cap0086Protocol]
  | some protocol => simp [cap0086Protocol]

/-- A changed type is optional growth, with or without support for it, or a plain change. -/
theorem code_compareChangedType_eq (name : String) (old new : InterfaceEntry) :
    (compareChangedType target context name old new).code =
      if (optionalStructFieldsAdded old new).isSome then
        if cap0086Protocol ≤ context.targetProtocolVersion.getD 0 ∧
          target.usesCap0086SparseRead = true then "CAP005" else "CAP006"
      else "ABI004" := by
  unfold compareChangedType
  cases optionalStructFieldsAdded old new with
  | none => rfl
  | some added =>
      dsimp only
      split <;> rfl

end Reports

/-- The user types of an artifact are those of a well named specification. -/
structure HoldsUserTypes (texts : XdrTexts) (spec : List ScSpecEntry) (artifact : Artifact) :
    Prop where
  named : WellNamed texts spec
  stored : ∀ name stored, artifact.userTypes[name]? = some stored ↔
    ∃ entry ∈ spec, entry.nameSpace = .userType ∧ entry.ownName texts = name ∧
      entry.interfaceEntry texts = stored

theorem holdsUserTypes_of_fromWasm {primitives : Primitives} {readers : WasmReaders}
    {bytes : List UInt8} {spec : List ScSpecEntry} {artifact : Artifact}
    (read : readers.specFromWasm bytes = some spec)
    (built : Artifact.fromWasm primitives readers bytes = .ok artifact) :
    HoldsUserTypes readers.texts spec artifact := by
  obtain ⟨_, parts⟩ := artifactParts_of_fromWasm built
  obtain ⟨_, inventory, specified, extracted, _, _, userTypes, _⟩ := parts.extracted
  obtain rfl := Option.some.inj (specified.symm.trans read)
  refine ⟨(foldlM_extractEntry_eq_ok_iff.1 extracted).1, fun name stored => ?_⟩
  have found : (inventory.names .userType)[name]? = some stored ↔ _ :=
    getElem?_names_of_extracted extracted
  rw [userTypes]
  exact found

theorem HoldsUserTypes.getElem?_ownName {texts : XdrTexts} {spec : List ScSpecEntry}
    {artifact : Artifact} (types : HoldsUserTypes texts spec artifact) {entry : ScSpecEntry}
    (listed : entry ∈ spec) (userType : entry.nameSpace = .userType) :
    artifact.userTypes[entry.ownName texts]? = some (entry.interfaceEntry texts) :=
  (types.stored _ _).2 ⟨entry, listed, userType, rfl, rfl⟩

section Changes

variable {texts : XdrTexts} {sourceSpec targetSpec : List ScSpecEntry} {source target : Artifact}
  {policy : Policy} {context : ValidationContext}

/-- Growth of the structs of a name is growth of the entries of that name. -/
theorem growsOptionally_iff (sourceNamed : WellNamed texts sourceSpec)
    (targetNamed : WellNamed texts targetSpec) {before after : ScSpecEntry}
    (beforeListed : before ∈ sourceSpec) (afterListed : after ∈ targetSpec)
    (beforeType : before.nameSpace = .userType) (afterType : after.nameSpace = .userType)
    (sameName : after.ownName texts = before.ownName texts) :
    GrowsOptionally texts sourceSpec targetSpec (before.ownName texts) ↔
      ∃ old new, before = .udtStructV0 old ∧ after = .udtStructV0 new ∧ OptionalGrowth old new := by
  constructor
  · rintro ⟨old, new, oldListed, newListed, oldName, newName, growth⟩
    refine ⟨old, new, ?_, ?_, growth⟩
    · exact sourceNamed.eq_of_ownName beforeListed oldListed beforeType oldName.symm
    · exact targetNamed.eq_of_ownName afterListed newListed afterType
        (sameName.trans newName.symm)
  · rintro ⟨old, new, rfl, rfl, growth⟩
    exact ⟨old, new, beforeListed, afterListed, rfl, sameName, growth⟩

/-- A user type that stays has no finding when its value stays, and one otherwise. -/
theorem compareUserType_of_present (denied : policy.denyChangedUserTypes = true) {name : String}
    {old new : InterfaceEntry} (present : target.userTypes[name]? = some new) :
    compareUserType policy context target name old =
      if old.canonical = new.canonical then [] else [compareChangedType target context name old new] := by
  simp only [compareUserType, present, denied, Bool.true_and, decide_eq_true_eq, ne_eq, ite_not]

theorem compareUserType_of_absent (denied : policy.denyChangedUserTypes = true) {name : String}
    {old : InterfaceEntry} (absent : target.userTypes[name]? = none) :
    ∃ finding, compareUserType policy context target name old = [finding] ∧
      finding.code = "ABI003" ∧ finding.isError = true := by
  simp only [compareUserType, absent, denied, if_true]
  exact ⟨_, rfl, rfl, rfl⟩

/-- The report of a changed type that stays. -/
theorem report_of_changed (injective : Function.Injective texts.escaped)
    (sourceNamed : WellNamed texts sourceSpec) (targetNamed : WellNamed texts targetSpec)
    {before after : ScSpecEntry} (beforeListed : before ∈ sourceSpec)
    (afterListed : after ∈ targetSpec) (beforeType : before.nameSpace = .userType)
    (afterType : after.nameSpace = .userType)
    (sameName : after.ownName texts = before.ownName texts)
    (present : target.userTypes[before.ownName texts]? = some (after.interfaceEntry texts)) :
    TypeChangeReport texts sourceSpec targetSpec target context (before.ownName texts)
      (compareChangedType target context (before.ownName texts)
        (before.interfaceEntry texts) (after.interfaceEntry texts)) := by
  have grows : (optionalStructFieldsAdded (before.interfaceEntry texts)
      (after.interfaceEntry texts)).isSome ↔
      GrowsOptionally texts sourceSpec targetSpec (before.ownName texts) := by
    rw [isSome_optionalStructFieldsAdded_entry_iff injective
      (sourceNamed.members before beforeListed) (targetNamed.members after afterListed),
      growsOptionally_iff sourceNamed targetNamed beforeListed afterListed beforeType afterType
        sameName]
  refine ⟨isError_compareChangedType .., List.mem_cons_of_mem _ code_compareChangedType, ?_, ?_, ?_⟩
  · rw [present, code_compareChangedType_eq]
    refine ⟨fun code => ?_, fun absent => nomatch absent⟩
    split_ifs at code <;> simp at code
  · rw [code_compareChangedType_eq, ← grows]
    split_ifs <;> simp_all
  · rw [code_compareChangedType_eq, ← grows, ← sparseRead_supported_iff]
    split_ifs <;> simp_all

/-- The report of a type that the target does not have. -/
theorem report_of_removed (targetTypes : HoldsUserTypes texts targetSpec target) {name : String}
    {finding : Finding} (absent : target.userTypes[name]? = none)
    (removed : finding.code = "ABI003") (isError : finding.isError = true) :
    TypeChangeReport texts sourceSpec targetSpec target context name finding := by
  have shrinks : ¬ GrowsOptionally texts sourceSpec targetSpec name := by
    rintro ⟨_, after, _, listed, _, named, _⟩
    have present := targetTypes.getElem?_ownName listed rfl
    rw [ScSpecEntry.ownName, named, absent] at present
    cases present
  exact ⟨isError, by simp [removed, userTypeCodes], by simp [removed, absent],
    by simp [removed, shrinks], by simp [removed, shrinks]⟩

/-- A type that is gone or has another canonical value is reported by one finding. -/
theorem exists_typeChangeReport (context : ValidationContext)
    (injective : Function.Injective texts.escaped)
    (sourceTypes : HoldsUserTypes texts sourceSpec source)
    (targetTypes : HoldsUserTypes texts targetSpec target)
    (denied : policy.denyChangedUserTypes = true) {name : String} {old : InterfaceEntry}
    (stored : source.userTypes[name]? = some old)
    (changed : ¬ ∃ new, target.userTypes[name]? = some new ∧ old.canonical = new.canonical) :
    ∃ finding, compareUserType policy context target name old = [finding] ∧
      TypeChangeReport texts sourceSpec targetSpec target context name finding := by
  obtain ⟨before, beforeListed, beforeType, rfl, rfl⟩ := (sourceTypes.stored name old).1 stored
  cases present : target.userTypes[before.ownName texts]? with
  | none =>
      obtain ⟨finding, single, removed, isError⟩ := compareUserType_of_absent denied present
      exact ⟨finding, single, report_of_removed targetTypes present removed isError⟩
  | some new =>
      obtain ⟨after, afterListed, afterType, sameName, rfl⟩ := (targetTypes.stored _ new).1 present
      refine ⟨_, ?_, report_of_changed injective sourceTypes.named targetTypes.named beforeListed
        afterListed beforeType afterType sameName present⟩
      rw [compareUserType_of_present denied present,
        if_neg fun same => changed ⟨_, present, same⟩]

end Changes

/-! ### Broken fields -/

/-- A field is renamed, retyped or removed, or a required one is added. -/
def BreaksFields (before after : ScSpecUdtStructV0) : Prop :=
  (∃ field ∈ before.fields,
    ∀ other ∈ after.fields, other.name = field.name → other.type ≠ field.type) ∨
  ∃ field ∈ after.fields, (∀ old ∈ before.fields, old.name ≠ field.name) ∧
    ∀ valueType, field.type ≠ .option valueType

theorem BreaksFields.not_growth {before after : ScSpecUdtStructV0}
    (breaks : BreaksFields before after) : ¬ OptionalGrowth before after := by
  intro growth
  rcases breaks with ⟨field, listed, changed⟩ | ⟨field, listed, fresh, required⟩
  · obtain ⟨same, present, named, typed⟩ := growth.kept field listed
    exact changed same present named typed
  · obtain ⟨valueType, optional⟩ := growth.optional field listed fresh
    exact required valueType optional

/-- Fields that are equal up to documentation keep their names and types. -/
theorem BreaksFields.not_same {before after : ScSpecUdtStructV0}
    (breaks : BreaksFields before after) :
    (ScSpecEntry.udtStructV0 before).blankDocs ≠ (ScSpecEntry.udtStructV0 after).blankDocs := by
  intro same
  simp only [ScSpecEntry.blankDocs, ScSpecEntry.udtStructV0.injEq,
    ScSpecUdtStructV0.mk.injEq] at same
  obtain ⟨_, _, _, fields⟩ := same
  rcases breaks with ⟨field, listed, changed⟩ | ⟨field, listed, fresh, _⟩
  · have kept : field.blankDocs ∈ after.fields.map (·.blankDocs) := by
      rw [← fields]
      exact List.mem_map_of_mem listed
    obtain ⟨other, present, blank⟩ := List.mem_map.1 kept
    exact changed other present (congrArg (·.name) blank) (congrArg (·.type) blank)
  · have kept : field.blankDocs ∈ before.fields.map (·.blankDocs) := by
      rw [fields]
      exact List.mem_map_of_mem listed
    obtain ⟨old, present, blank⟩ := List.mem_map.1 kept
    exact fresh old present (congrArg (·.name) blank)

/-- A struct that breaks a field is reported as a plain change. -/
theorem code_of_breaksFields {texts : XdrTexts} {sourceSpec targetSpec : List ScSpecEntry}
    {source target : Artifact} {policy : Policy} {context : ValidationContext}
    (injective : Function.Injective texts.escaped)
    (sourceTypes : HoldsUserTypes texts sourceSpec source)
    (targetTypes : HoldsUserTypes texts targetSpec target)
    (denied : policy.denyChangedUserTypes = true) {before after : ScSpecUdtStructV0}
    (beforeListed : .udtStructV0 before ∈ sourceSpec)
    (afterListed : .udtStructV0 after ∈ targetSpec)
    (sameName : texts.toUtf8StringLossy after.name = texts.toUtf8StringLossy before.name)
    (breaks : BreaksFields before after) :
    ∃ finding, compareUserType policy context target (texts.toUtf8StringLossy before.name)
      (ScSpecEntry.interfaceEntry texts (.udtStructV0 before)) = [finding] ∧
        finding.code = "ABI004" := by
  have stored := sourceTypes.getElem?_ownName beforeListed rfl
  have present := targetTypes.getElem?_ownName afterListed rfl
  rw [ScSpecEntry.ownName] at stored present
  rw [sameName] at present
  have changed : ¬ ∃ new, target.userTypes[texts.toUtf8StringLossy before.name]? = some new ∧
      (ScSpecEntry.interfaceEntry texts (.udtStructV0 before)).canonical = new.canonical := by
    rintro ⟨_, found, same⟩
    obtain rfl := Option.some.inj (present.symm.trans found)
    exact breaks.not_same (blankDocs_eq_of_canonical injective same)
  have shrinks : ¬ GrowsOptionally texts sourceSpec targetSpec
      (texts.toUtf8StringLossy before.name) := by
    intro grows
    obtain ⟨_, _, same, other, growth⟩ := (growsOptionally_iff sourceTypes.named
      targetTypes.named beforeListed afterListed rfl rfl sameName).1 grows
    cases same
    cases other
    exact breaks.not_growth growth
  obtain ⟨finding, single, report⟩ := exists_typeChangeReport context injective sourceTypes
    targetTypes denied stored changed
  have remains := report.removed.not.2 (by rw [present]; simp)
  have unclassified := report.growth.not.2 shrinks
  have code := report.code
  simp only [userTypeCodes, List.mem_cons, List.not_mem_nil, or_false] at code
  exact ⟨finding, single, by tauto⟩

/-- Each user type of the source that is gone or changed is reported by one error,
and no other is. The error speaks of optional growth exactly when a struct keeps its
fields and adds optional ones; a struct that breaks a field never does. -/
theorem userTypeChanges_reported (primitives : Primitives) (readers : WasmReaders)
    (sourceBytes targetBytes : List UInt8) (sourceSpec targetSpec : List ScSpecEntry)
    (source target : Artifact) (policy : Policy) (context : ValidationContext)
    (injective : Function.Injective readers.texts.escaped)
    (sourceRead : readers.specFromWasm sourceBytes = some sourceSpec)
    (targetRead : readers.specFromWasm targetBytes = some targetSpec)
    (sourceBuilt : Artifact.fromWasm primitives readers sourceBytes = .ok source)
    (targetBuilt : Artifact.fromWasm primitives readers targetBytes = .ok target)
    (denied : policy.denyChangedUserTypes = true) :
    (compareInterfaces source target policy context).filter (·.code ∈ userTypeCodes) =
      (forEach source.userTypes fun name old => compareUserType policy context target name old) ∧
    (∀ name old, source.userTypes[name]? = some old →
      ((∃ new, target.userTypes[name]? = some new ∧ old.canonical = new.canonical) →
        compareUserType policy context target name old = []) ∧
      ((¬ ∃ new, target.userTypes[name]? = some new ∧ old.canonical = new.canonical) →
        ∃ finding, compareUserType policy context target name old = [finding] ∧
          TypeChangeReport readers.texts sourceSpec targetSpec target context name finding)) ∧
    ∀ name old before after, source.userTypes[name]? = some old →
      .udtStructV0 before ∈ sourceSpec → readers.texts.toUtf8StringLossy before.name = name →
      .udtStructV0 after ∈ targetSpec → readers.texts.toUtf8StringLossy after.name = name →
      BreaksFields before after →
      ∃ finding, compareUserType policy context target name old = [finding] ∧
        finding.code = "ABI004" := by
  have sourceTypes := holdsUserTypes_of_fromWasm sourceRead sourceBuilt
  have targetTypes := holdsUserTypes_of_fromWasm targetRead targetBuilt
  refine ⟨filter_userTypeCodes_compareInterfaces, fun name old stored =>
    ⟨?_, exists_typeChangeReport context injective sourceTypes targetTypes denied stored⟩, ?_⟩
  · rintro ⟨new, present, same⟩
    rw [compareUserType_of_present denied present, if_pos same]
  · rintro name old before after stored beforeListed rfl afterListed sameName breaks
    have declared := sourceTypes.getElem?_ownName beforeListed rfl
    obtain rfl := Option.some.inj (declared.symm.trans stored)
    exact code_of_breaksFields injective sourceTypes targetTypes denied beforeListed afterListed
      sameName breaks

namespace Sample

/-- A struct entry with its XDR bytes. -/
def structForm (name : String) (fields : List (String × TypeForm)) : ScSpecEntry × List UInt8 :=
  (.udtStructV0 {
    doc := []
    lib := []
    name := utf8 name.toList
    fields := fields.map fun (field, form) =>
      { doc := [], name := utf8 field.toList, type := form.1 } },
  xdrWord 1 ++ xdrString "" ++ xdrString "" ++ xdrString name ++ xdrWord fields.length ++
    fields.flatMap fun (field, form) => xdrString "" ++ xdrString field ++ form.2)

/-- A release with a struct of these fields. -/
def configModule (binver : String) (fields : List (String × TypeForm)) : WasmModule where
  binver := binver
  spec := [upgradeForm, migrateForm, structForm "Config" fields]
  exported := [("upgrade", 1), ("migrate", 2)]

def limitField : String × TypeForm := ("limit", (.u32, xdrWord 4))

def operatorField : String × TypeForm := ("operator", optionForm addressForm)

def oldConfig : WasmModule := configModule "1.0.0" [limitField]

def newConfig : WasmModule := configModule "2.0.0" [operatorField, limitField]

def configModules : List WasmModule := [oldConfig, newConfig]

theorem fromWasm_configModule : ∀ module ∈ configModules, ∃ artifact,
    Artifact.fromWasm Sample.primitives (readers configModules) module.bytes = .ok artifact := by
  intro module listed
  apply Outcome.exists_of_isOk
  revert module
  decide +kernel

theorem specFromWasm_configModule : ∀ module ∈ configModules,
    (readers configModules).specFromWasm module.bytes = some (module.spec.map (·.1)) :=
  specFromWasm_readers (by decide +kernel)

theorem config_mem_spec (binver : String) (fields : List (String × TypeForm)) :
    (structForm "Config" fields).1 ∈ (configModule binver fields).spec.map (·.1) := by
  simp [configModule]

/-- The new release adds one optional field to the struct. -/
theorem config_growsOptionally : GrowsOptionally texts (oldConfig.spec.map (·.1))
    (newConfig.spec.map (·.1)) "Config" := by
  refine ⟨_, _, config_mem_spec _ _, config_mem_spec _ _, by decide +kernel, by decide +kernel,
    ?_, ?_, ?_⟩
  · simp [limitField, operatorField]
  · exact ⟨_, List.mem_cons_self, by decide +kernel⟩
  · intro field listed fresh
    rcases List.mem_cons.1 listed with rfl | kept
    · exact ⟨_, rfl⟩
    · exact absurd rfl (fresh field kept)

end Sample

/-- A struct with a new optional field is reported once, as growth without support. -/
theorem sampleTypeChange_reported : ∃ source target finding old,
    Artifact.fromWasm Sample.primitives (Sample.readers Sample.configModules)
      Sample.oldConfig.bytes = .ok source ∧
    Artifact.fromWasm Sample.primitives (Sample.readers Sample.configModules)
      Sample.newConfig.bytes = .ok target ∧
    source.userTypes["Config"]? = some old ∧
    compareUserType Policy.default Sample.context target "Config" old = [finding] ∧
    finding.code = "CAP006" := by
  have oldListed : Sample.oldConfig ∈ Sample.configModules := by simp [Sample.configModules]
  have newListed : Sample.newConfig ∈ Sample.configModules := by simp [Sample.configModules]
  obtain ⟨source, sourceBuilt⟩ := Sample.fromWasm_configModule _ oldListed
  obtain ⟨target, targetBuilt⟩ := Sample.fromWasm_configModule _ newListed
  have sourceSpecified := Sample.specFromWasm_configModule _ oldListed
  have targetSpecified := Sample.specFromWasm_configModule _ newListed
  obtain ⟨_, reported, _⟩ := userTypeChanges_reported Sample.primitives
    (Sample.readers Sample.configModules) _ _ _ _ source target Policy.default Sample.context
    Sample.escaped_injective sourceSpecified targetSpecified
    sourceBuilt targetBuilt rfl
  have stored := ((holdsUserTypes_of_fromWasm sourceSpecified
    sourceBuilt).stored "Config" _).2 ⟨_, Sample.config_mem_spec _ _, rfl, by decide +kernel, rfl⟩
  have present := ((holdsUserTypes_of_fromWasm targetSpecified
    targetBuilt).stored "Config" _).2 ⟨_, Sample.config_mem_spec _ _, rfl, by decide +kernel, rfl⟩
  have changed : ¬ ∃ new, target.userTypes["Config"]? = some new ∧
      (ScSpecEntry.interfaceEntry Sample.texts
        (Sample.structForm "Config" [Sample.limitField]).1).canonical = new.canonical := by
    rintro ⟨_, found, same⟩
    obtain rfl := Option.some.inj (present.symm.trans found)
    have blank := blankDocs_eq_of_canonical Sample.escaped_injective same
    simp [Sample.structForm, ScSpecEntry.blankDocs] at blank
  obtain ⟨finding, single, report⟩ := (reported "Config" _ stored).2 changed
  refine ⟨source, target, finding, _, sourceBuilt, targetBuilt, stored, single, ?_⟩
  rcases report.growth.2 Sample.config_growsOptionally with supported | unsupported
  · obtain ⟨_, ⟨protocol, given, enough⟩, _⟩ := report.supported.1 supported
    cases given
    exact absurd enough (by decide)
  · exact unsupported

end SorobanUpgrades
