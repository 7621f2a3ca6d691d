/-
Module: SorobanUpgrades.Proofs.CanonicalInterfaces
Purpose: The canonical values of two specification entries are equal exactly when
  the entries differ in nothing but their documentation.
Trusted boundary: none
Main exports: ScSpecEntry.blankDocs, canonicalizeSpecEntry_eq_iff
-/
import SorobanUpgrades.Core.Wasm
import SorobanUpgrades.Library.JsonLayout

namespace SorobanUpgrades

open Json (LaidOut LaidOutItems LaidOutMembers Separated laidOutItems_iff)

/-! ### Entries without documentation -/

def ScSpecFunctionInputV0.blankDocs (input : ScSpecFunctionInputV0) : ScSpecFunctionInputV0 :=
  { input with doc := [] }

def ScSpecUdtStructFieldV0.blankDocs (field : ScSpecUdtStructFieldV0) : ScSpecUdtStructFieldV0 :=
  { field with doc := [] }

def ScSpecUdtUnionCaseV0.blankDocs : ScSpecUdtUnionCaseV0 → ScSpecUdtUnionCaseV0
  | .voidV0 _ name => .voidV0 [] name
  | .tupleV0 _ name type => .tupleV0 [] name type

def ScSpecUdtEnumCaseV0.blankDocs (enumCase : ScSpecUdtEnumCaseV0) : ScSpecUdtEnumCaseV0 :=
  { enumCase with doc := [] }

def ScSpecUdtEnumV0.blankDocs (value : ScSpecUdtEnumV0) : ScSpecUdtEnumV0 :=
  { value with doc := [], cases := value.cases.map (·.blankDocs) }

def ScSpecEventParamV0.blankDocs (param : ScSpecEventParamV0) : ScSpecEventParamV0 :=
  { param with doc := [] }

/-- The entry with every documentation text empty. -/
def ScSpecEntry.blankDocs : ScSpecEntry → ScSpecEntry
  | .functionV0 function =>
      .functionV0 { function with doc := [], inputs := function.inputs.map (·.blankDocs) }
  | .udtStructV0 value =>
      .udtStructV0 { value with doc := [], fields := value.fields.map (·.blankDocs) }
  | .udtUnionV0 value =>
      .udtUnionV0 { value with doc := [], cases := value.cases.map (·.blankDocs) }
  | .udtEnumV0 value => .udtEnumV0 value.blankDocs
  | .udtErrorEnumV0 value => .udtErrorEnumV0 value.blankDocs
  | .eventV0 value =>
      .eventV0 { value with doc := [], params := value.params.map (·.blankDocs) }

/-! ### Stripping and sorting -/

theorem stripDocumentationItems_eq_map (items : List Json) :
    stripDocumentationItems items = items.map stripDocumentation := by
  induction items with
  | nil => rfl
  | cons item items inductionHypothesis => simp [stripDocumentationItems, inductionHypothesis]

theorem stripDocumentationMembers_eq_map (members : List Member) :
    stripDocumentationMembers members = (members.filter fun member => member.1 ≠ "doc").map
      fun member => (member.1, stripDocumentation member.2) := by
  induction members with
  | nil => rfl
  | cons member members inductionHypothesis =>
      obtain ⟨key, value⟩ := member
      by_cases documentation : key = "doc" <;>
        simp [stripDocumentationMembers, documentation, inductionHypothesis]

mutual

/-- The documentation may be stripped before or after the members are sorted. -/
theorem stripDocumentation_normalize :
    ∀ tree : Json, stripDocumentation tree.normalize = (stripDocumentation tree).normalize
  | .null | .bool _ | .number _ | .string _ => rfl
  | .array items => by
      rw [Json.normalize_array, stripDocumentation, stripDocumentationItems_eq_map,
        stripDocumentation, stripDocumentationItems_eq_map, Json.normalize_array, List.map_map,
        List.map_map]
      exact congrArg Json.array
        (List.map_congr_left fun item listed => stripDocumentation_normalizeItems items item listed)
  | .object members => by
      rw [Json.normalize_object, stripDocumentation, stripDocumentationMembers_eq_map,
        stripDocumentation, stripDocumentationMembers_eq_map, Json.normalize_object,
        Json.filter_sortMembers (fun key => decide (key ≠ "doc")), Json.map_sortMembers,
        List.filter_map, List.map_map, List.map_map]
      refine congrArg (Json.object ∘ Json.sortMembers) (List.map_congr_left fun member kept => ?_)
      have same := stripDocumentation_normalizeMembers members member (List.mem_filter.1 kept).1
      exact Prod.ext rfl same

theorem stripDocumentation_normalizeItems : ∀ items : List Json, ∀ item ∈ items,
    stripDocumentation item.normalize = (stripDocumentation item).normalize
  | head :: items, item, listed => by
      rcases List.mem_cons.1 listed with same | later
      · rw [same]
        exact stripDocumentation_normalize head
      · exact stripDocumentation_normalizeItems items item later

theorem stripDocumentation_normalizeMembers : ∀ members : List Member, ∀ member ∈ members,
    stripDocumentation member.2.normalize = (stripDocumentation member.2).normalize
  | (key, value) :: members, member, listed => by
      rcases List.mem_cons.1 listed with same | later
      · rw [same]
        exact stripDocumentation_normalize value
      · exact stripDocumentation_normalizeMembers members member later

end

/-- The canonical value is the value of the stripped encoding. -/
theorem canonicalizeSpecEntry_eq (texts : XdrTexts) (entry : ScSpecEntry) :
    canonicalizeSpecEntry texts entry = (stripDocumentation (encodeSpecEntry texts entry)).toValue := by
  apply Value.ext
  rw [canonicalizeSpecEntry, Json.toValue_json, Json.toValue_json, Json.toValue_json,
    stripDocumentation_normalize, Json.normalize_normalize]

/-! ### The stripped encoding -/

section Encoding

variable {texts : XdrTexts}

mutual

/-- Type expressions carry no documentation. -/
theorem stripDocumentation_encodeSpecType : ∀ type : ScSpecTypeDef,
    stripDocumentation (encodeSpecType texts type) = encodeSpecType texts type
  | .val | .bool | .void | .error | .u32 | .i32 | .u64 | .i64 | .timepoint | .duration | .u128
  | .i128 | .u256 | .i256 | .bytes | .string | .symbol | .address | .muxedAddress => by
      simp [encodeSpecType, stripDocumentation]
  | .bytesN _ | .udt _ => by
      simp [encodeSpecType, encodeXdrString, stripDocumentation, stripDocumentationMembers]
  | .option valueType | .vec valueType => by
      simp [encodeSpecType, stripDocumentation, stripDocumentationMembers,
        stripDocumentation_encodeSpecType valueType]
  | .result first second | .map first second => by
      simp [encodeSpecType, stripDocumentation, stripDocumentationMembers,
        stripDocumentation_encodeSpecType first, stripDocumentation_encodeSpecType second]
  | .tuple valueTypes => by
      simp [encodeSpecType, stripDocumentation, stripDocumentationMembers,
        stripDocumentation_encodeSpecTypes valueTypes]

theorem stripDocumentation_encodeSpecTypes : ∀ types : List ScSpecTypeDef,
    stripDocumentationItems (encodeSpecTypes texts types) = encodeSpecTypes texts types
  | [] => rfl
  | type :: types => by
      rw [encodeSpecTypes, stripDocumentationItems, stripDocumentation_encodeSpecType type,
        stripDocumentation_encodeSpecTypes types]

end

mutual

theorem encodeSpecType_injective (injective : Function.Injective texts.escaped) :
    ∀ left right : ScSpecTypeDef, encodeSpecType texts left = encodeSpecType texts right →
    left = right
  | .val, right | .bool, right | .void, right | .error, right | .u32, right | .i32, right
  | .u64, right | .i64, right | .timepoint, right | .duration, right | .u128, right
  | .i128, right | .u256, right | .i256, right | .bytes, right | .string, right
  | .symbol, right | .address, right | .muxedAddress, right => by
      cases right <;> simp [encodeSpecType]
  | .bytesN size, right => by
      cases right <;> simp [encodeSpecType, UInt32.toNat_inj]
  | .udt name, right => by
      cases right <;> simp [encodeSpecType, encodeXdrString, injective.eq_iff]
  | .option valueType, right => by
      cases right <;> simp [encodeSpecType]
      exact encodeSpecType_injective injective valueType _
  | .vec elementType, right => by
      cases right <;> simp [encodeSpecType]
      exact encodeSpecType_injective injective elementType _
  | .result okType errorType, right => by
      cases right <;> simp [encodeSpecType]
      intro sameOk sameError
      exact ⟨encodeSpecType_injective injective okType _ sameOk,
        encodeSpecType_injective injective errorType _ sameError⟩
  | .map keyType valueType, right => by
      cases right <;> simp [encodeSpecType]
      intro sameKey sameValue
      exact ⟨encodeSpecType_injective injective keyType _ sameKey,
        encodeSpecType_injective injective valueType _ sameValue⟩
  | .tuple valueTypes, right => by
      cases right <;> simp [encodeSpecType]
      exact encodeSpecTypes_injective injective valueTypes _

theorem encodeSpecTypes_injective (injective : Function.Injective texts.escaped) :
    ∀ left right : List ScSpecTypeDef,
    encodeSpecTypes texts left = encodeSpecTypes texts right → left = right
  | [], right => by cases right <;> simp [encodeSpecTypes]
  | type :: types, right => by
      cases right with
      | nil => simp [encodeSpecTypes]
      | cons other others =>
          intro same
          rw [encodeSpecTypes, encodeSpecTypes, List.cons.injEq] at same
          rw [encodeSpecType_injective injective type other same.1,
            encodeSpecTypes_injective injective types others same.2]

end

theorem encodeSpecType_inj (injective : Function.Injective texts.escaped)
    {left right : ScSpecTypeDef} :
    encodeSpecType texts left = encodeSpecType texts right ↔ left = right :=
  ⟨encodeSpecType_injective injective left right, congrArg _⟩

theorem encodeSpecTypes_inj (injective : Function.Injective texts.escaped)
    {left right : List ScSpecTypeDef} :
    encodeSpecTypes texts left = encodeSpecTypes texts right ↔ left = right :=
  ⟨encodeSpecTypes_injective injective left right, congrArg _⟩

theorem encodeXdrString_inj (injective : Function.Injective texts.escaped)
    {left right : XdrString} :
    encodeXdrString texts left = encodeXdrString texts right ↔ left = right := by
  rw [encodeXdrString, encodeXdrString, Json.string.injEq, injective.eq_iff]

@[simp] theorem stripDocumentation_encodeXdrString (value : XdrString) :
    stripDocumentation (encodeXdrString texts value) = encodeXdrString texts value := rfl

@[simp] theorem stripDocumentation_array (items : List Json) :
    stripDocumentation (.array items) = .array (items.map stripDocumentation) := by
  rw [stripDocumentation, stripDocumentationItems_eq_map]

attribute [simp] stripDocumentation_encodeSpecType

@[simp] theorem map_stripDocumentation_encodeSpecTypes (types : List ScSpecTypeDef) :
    (encodeSpecTypes texts types).map stripDocumentation = encodeSpecTypes texts types := by
  rw [← stripDocumentationItems_eq_map, stripDocumentation_encodeSpecTypes]

/-! ### Members -/

theorem stripped_typedMember (doc name : XdrString) (type : ScSpecTypeDef) :
    stripDocumentation (encodeTypedMember texts doc name type) =
      .object [("name", encodeXdrString texts name), ("type_", encodeSpecType texts type)] := by
  simp [encodeTypedMember, stripDocumentation, stripDocumentationMembers]

theorem stripped_input_eq_iff (injective : Function.Injective texts.escaped)
    (left right : ScSpecFunctionInputV0) :
    stripDocumentation (encodeTypedMember texts left.doc left.name left.type) =
        stripDocumentation (encodeTypedMember texts right.doc right.name right.type) ↔
      left.blankDocs = right.blankDocs := by
  simp [stripped_typedMember, ScSpecFunctionInputV0.blankDocs, encodeXdrString_inj injective,
    encodeSpecType_inj injective]

theorem stripped_field_eq_iff (injective : Function.Injective texts.escaped)
    (left right : ScSpecUdtStructFieldV0) :
    stripDocumentation (encodeTypedMember texts left.doc left.name left.type) =
        stripDocumentation (encodeTypedMember texts right.doc right.name right.type) ↔
      left.blankDocs = right.blankDocs := by
  simp [stripped_typedMember, ScSpecUdtStructFieldV0.blankDocs, encodeXdrString_inj injective,
    encodeSpecType_inj injective]

theorem stripped_tagged {tag : String} (plain : tag ≠ "doc") (value : Json) :
    stripDocumentation (.object [(tag, value)]) = .object [(tag, stripDocumentation value)] := by
  simp [stripDocumentation, stripDocumentationMembers, plain]

theorem stripped_voidCase (doc name : XdrString) :
    stripDocumentation (encodeUnionCase texts (.voidV0 doc name)) =
      .object [("void_v0", .object [("name", encodeXdrString texts name)])] := by
  simp [encodeUnionCase, stripDocumentation, stripDocumentationMembers]

theorem stripped_tupleCase (doc name : XdrString) (type : List ScSpecTypeDef) :
    stripDocumentation (encodeUnionCase texts (.tupleV0 doc name type)) =
      .object [("tuple_v0", .object [("name", encodeXdrString texts name),
        ("type_", .array (encodeSpecTypes texts type))])] := by
  simp [encodeUnionCase, stripDocumentation, stripDocumentationMembers,
    stripDocumentationItems_eq_map]

theorem stripped_unionCase_eq_iff (injective : Function.Injective texts.escaped)
    (left right : ScSpecUdtUnionCaseV0) :
    stripDocumentation (encodeUnionCase texts left) =
        stripDocumentation (encodeUnionCase texts right) ↔
      left.blankDocs = right.blankDocs := by
  cases left <;> cases right <;>
    simp [stripped_voidCase, stripped_tupleCase, ScSpecUdtUnionCaseV0.blankDocs,
      encodeXdrString_inj injective, encodeSpecTypes_inj injective]

theorem stripped_enumCase (enumCase : ScSpecUdtEnumCaseV0) :
    stripDocumentation (encodeEnumCase texts enumCase) =
      .object [("name", encodeXdrString texts enumCase.name),
        ("value", .number (.integer enumCase.value.toNat))] := by
  simp [encodeEnumCase, stripDocumentation, stripDocumentationMembers]

theorem stripped_enumCase_eq_iff (injective : Function.Injective texts.escaped)
    (left right : ScSpecUdtEnumCaseV0) :
    stripDocumentation (encodeEnumCase texts left) =
        stripDocumentation (encodeEnumCase texts right) ↔
      left.blankDocs = right.blankDocs := by
  simp [stripped_enumCase, ScSpecUdtEnumCaseV0.blankDocs, encodeXdrString_inj injective,
    UInt32.toNat_inj]

theorem encodeParamLocation_inj {left right : ScSpecEventParamLocationV0} :
    encodeParamLocation left = encodeParamLocation right ↔ left = right := by
  cases left <;> cases right <;> simp [encodeParamLocation]

theorem encodeDataFormat_inj {left right : ScSpecEventDataFormat} :
    encodeDataFormat left = encodeDataFormat right ↔ left = right := by
  cases left <;> cases right <;> simp [encodeDataFormat]

@[simp] theorem stripDocumentation_encodeParamLocation (location : ScSpecEventParamLocationV0) :
    stripDocumentation (encodeParamLocation location) = encodeParamLocation location := by
  cases location <;> rfl

@[simp] theorem stripDocumentation_encodeDataFormat (format : ScSpecEventDataFormat) :
    stripDocumentation (encodeDataFormat format) = encodeDataFormat format := by
  cases format <;> rfl

theorem stripped_eventParam (param : ScSpecEventParamV0) :
    stripDocumentation (encodeEventParam texts param) =
      .object [("name", encodeXdrString texts param.name),
        ("type_", encodeSpecType texts param.type),
        ("location", encodeParamLocation param.location)] := by
  simp [encodeEventParam, stripDocumentation, stripDocumentationMembers]

theorem stripped_eventParam_eq_iff (injective : Function.Injective texts.escaped)
    (left right : ScSpecEventParamV0) :
    stripDocumentation (encodeEventParam texts left) =
        stripDocumentation (encodeEventParam texts right) ↔
      left.blankDocs = right.blankDocs := by
  simp [stripped_eventParam, ScSpecEventParamV0.blankDocs, encodeXdrString_inj injective,
    encodeSpecType_inj injective, encodeParamLocation_inj]

/-! ### Entries -/

/-- Two passes over lists identify the same lists if they identify the same items. -/
theorem map_eq_map_iff {α β γ : Type} {f : α → β} {g : α → γ}
    (same : ∀ left right, f left = f right ↔ g left = g right) :
    ∀ lefts rights : List α, lefts.map f = rights.map f ↔ lefts.map g = rights.map g
  | [], rights => by cases rights <;> simp
  | left :: lefts, rights => by
      cases rights with
      | nil => simp
      | cons right rights => simp [same left right, map_eq_map_iff same lefts rights]

theorem stripped_userType {memberKey : String} (plain : memberKey ≠ "doc") (doc lib name : XdrString)
    (members : List Json) :
    stripDocumentation (encodeUserType texts doc lib name memberKey members) =
      .object [("lib", encodeXdrString texts lib), ("name", encodeXdrString texts name),
        (memberKey, .array (members.map stripDocumentation))] := by
  simp [encodeUserType, stripDocumentation, stripDocumentationMembers, plain,
    stripDocumentationItems_eq_map]

theorem stripped_function (function : ScSpecFunctionV0) :
    stripDocumentation (encodeSpecEntry texts (.functionV0 function)) =
      .object [("function_v0", .object [("name", encodeXdrString texts function.name),
        ("inputs", .array (function.inputs.map fun input =>
          stripDocumentation (encodeTypedMember texts input.doc input.name input.type))),
        ("outputs", .array (encodeSpecTypes texts function.outputs))])] := by
  simp [encodeSpecEntry, stripDocumentation, stripDocumentationMembers,
    stripDocumentationItems_eq_map, Function.comp_def]

theorem stripped_event (value : ScSpecEventV0) :
    stripDocumentation (encodeSpecEntry texts (.eventV0 value)) =
      .object [("event_v0", .object [("lib", encodeXdrString texts value.lib),
        ("name", encodeXdrString texts value.name),
        ("prefix_topics", .array (value.prefixTopics.map (encodeXdrString texts))),
        ("params", .array (value.params.map fun param =>
          stripDocumentation (encodeEventParam texts param))),
        ("data_format", encodeDataFormat value.dataFormat)])] := by
  simp [encodeSpecEntry, stripDocumentation, stripDocumentationMembers,
    stripDocumentationItems_eq_map, Function.comp_def]

/-- The stripped encodings are equal when the entries are equal up to documentation. -/
theorem stripped_entry_eq_iff (injective : Function.Injective texts.escaped)
    (left right : ScSpecEntry) :
    stripDocumentation (encodeSpecEntry texts left) =
        stripDocumentation (encodeSpecEntry texts right) ↔
      left.blankDocs = right.blankDocs := by
  cases left <;> cases right
  case functionV0.functionV0 function other =>
    have inputs := map_eq_map_iff (stripped_input_eq_iff injective) function.inputs other.inputs
    simp [stripped_function, ScSpecEntry.blankDocs, inputs, encodeXdrString_inj injective,
      encodeSpecTypes_inj injective]
  case udtStructV0.udtStructV0 value other =>
    have fields := map_eq_map_iff (stripped_field_eq_iff injective) value.fields other.fields
    simp [encodeSpecEntry, stripped_tagged, stripped_userType, Function.comp_def, ScSpecEntry.blankDocs, fields, encodeXdrString_inj injective]
  case udtUnionV0.udtUnionV0 value other =>
    have members := map_eq_map_iff (stripped_unionCase_eq_iff injective) value.cases other.cases
    simp [encodeSpecEntry, stripped_tagged, stripped_userType, Function.comp_def, ScSpecEntry.blankDocs, members, encodeXdrString_inj injective]
  case udtEnumV0.udtEnumV0 value other | udtErrorEnumV0.udtErrorEnumV0 value other =>
    have members := map_eq_map_iff (stripped_enumCase_eq_iff injective) value.cases other.cases
    simp [encodeSpecEntry, stripped_tagged, stripped_userType, Function.comp_def, ScSpecEntry.blankDocs, ScSpecUdtEnumV0.blankDocs, members,
      encodeXdrString_inj injective]
  case eventV0.eventV0 value other =>
    have params := map_eq_map_iff (stripped_eventParam_eq_iff injective) value.params other.params
    have topics : Function.Injective (List.map (encodeXdrString texts)) :=
      List.map_injective_iff.2 fun _ _ => (encodeXdrString_inj injective).1
    simp [stripped_event, ScSpecEntry.blankDocs, params, topics.eq_iff,
      encodeXdrString_inj injective, encodeDataFormat_inj]
  -- Entries of two kinds differ in their tags.
  all_goals
    simp [encodeSpecEntry, stripDocumentation, stripDocumentationMembers, ScSpecEntry.blankDocs]

/-! ### Layouts -/

/-- The member orders of the stripped encoding. -/
def specLayouts : List (List String) :=
  [["option"], ["result"], ["vec"], ["map"], ["tuple"], ["bytes_n"], ["udt"], ["value_type"],
    ["ok_type", "error_type"], ["element_type"], ["key_type", "value_type"], ["value_types"],
    ["n"], ["name"], ["name", "type_"], ["void_v0"], ["tuple_v0"], ["name", "value"],
    ["name", "type_", "location"], ["lib", "name", "fields"], ["lib", "name", "cases"],
    ["function_v0"], ["udt_struct_v0"], ["udt_union_v0"], ["udt_enum_v0"],
    ["udt_error_enum_v0"], ["event_v0"], ["name", "inputs", "outputs"],
    ["lib", "name", "prefix_topics", "params", "data_format"]]

theorem specLayouts_separated : Separated specLayouts where
  distinct := by decide
  apart := by decide

/-- A variant with named parts. -/
theorem laidOut_tagged {tag : String} {members : List Member} (known : [tag] ∈ specLayouts)
    (order : keysOf members ∈ specLayouts) (parts : LaidOutMembers specLayouts members) :
    LaidOut specLayouts (.object [(tag, .object members)]) :=
  ⟨known, ⟨order, parts⟩, trivial⟩

theorem laidOut_array {items : List Json} (each : ∀ item ∈ items, LaidOut specLayouts item) :
    LaidOut specLayouts (.array items) :=
  laidOutItems_iff.2 each

mutual

theorem laidOut_encodeSpecType : ∀ type : ScSpecTypeDef,
    LaidOut specLayouts (encodeSpecType texts type)
  | .val | .bool | .void | .error | .u32 | .i32 | .u64 | .i64 | .timepoint | .duration | .u128
  | .i128 | .u256 | .i256 | .bytes | .string | .symbol | .address | .muxedAddress => by
      simp [encodeSpecType, LaidOut]
  | .bytesN _ | .udt _ => by
      rw [encodeSpecType]
      apply laidOut_tagged <;> simp [specLayouts, LaidOutMembers, LaidOut, encodeXdrString]
  | .option valueType | .vec valueType => by
      rw [encodeSpecType]
      apply laidOut_tagged (by simp [specLayouts]) (by simp [specLayouts])
      exact ⟨laidOut_encodeSpecType valueType, trivial⟩
  | .result first second | .map first second => by
      rw [encodeSpecType]
      apply laidOut_tagged (by simp [specLayouts]) (by simp [specLayouts])
      exact ⟨laidOut_encodeSpecType first, laidOut_encodeSpecType second, trivial⟩
  | .tuple valueTypes => by
      rw [encodeSpecType]
      apply laidOut_tagged (by simp [specLayouts]) (by simp [specLayouts])
      exact ⟨laidOut_encodeSpecTypes valueTypes, trivial⟩

theorem laidOut_encodeSpecTypes : ∀ types : List ScSpecTypeDef,
    LaidOutItems specLayouts (encodeSpecTypes texts types)
  | [] => trivial
  | type :: types => ⟨laidOut_encodeSpecType type, laidOut_encodeSpecTypes types⟩

end

theorem laidOut_typedMember (doc name : XdrString) (type : ScSpecTypeDef) :
    LaidOut specLayouts (stripDocumentation (encodeTypedMember texts doc name type)) := by
  rw [stripped_typedMember]
  exact ⟨by simp [specLayouts], trivial, laidOut_encodeSpecType type, trivial⟩

theorem laidOut_unionCase (unionCase : ScSpecUdtUnionCaseV0) :
    LaidOut specLayouts (stripDocumentation (encodeUnionCase texts unionCase)) := by
  cases unionCase with
  | voidV0 doc name =>
      rw [stripped_voidCase]
      apply laidOut_tagged (by simp [specLayouts]) (by simp [specLayouts])
      exact ⟨trivial, trivial⟩
  | tupleV0 doc name type =>
      rw [stripped_tupleCase]
      apply laidOut_tagged (by simp [specLayouts]) (by simp [specLayouts])
      exact ⟨trivial, laidOut_encodeSpecTypes type, trivial⟩

theorem laidOut_enumCase (enumCase : ScSpecUdtEnumCaseV0) :
    LaidOut specLayouts (stripDocumentation (encodeEnumCase texts enumCase)) := by
  rw [stripped_enumCase]
  exact ⟨by simp [specLayouts], trivial, trivial, trivial⟩

theorem laidOut_eventParam (param : ScSpecEventParamV0) :
    LaidOut specLayouts (stripDocumentation (encodeEventParam texts param)) := by
  have location : LaidOut specLayouts (encodeParamLocation param.location) := by
    cases param.location <;> trivial
  rw [stripped_eventParam]
  exact ⟨by simp [specLayouts], trivial, laidOut_encodeSpecType param.type, location, trivial⟩

/-- A user type whose members are laid out. -/
theorem laidOut_userType {α : Type} {tag memberKey : String} {doc lib name : XdrString}
    {members : List α} {encode : α → Json} (known : [tag] ∈ specLayouts)
    (order : ["lib", "name", memberKey] ∈ specLayouts) (plainTag : tag ≠ "doc")
    (plainKey : memberKey ≠ "doc")
    (each : ∀ member, LaidOut specLayouts (stripDocumentation (encode member))) :
    LaidOut specLayouts (stripDocumentation (.object [(tag,
      encodeUserType texts doc lib name memberKey (members.map encode))])) := by
  rw [stripped_tagged plainTag, stripped_userType plainKey]
  have parts : LaidOut specLayouts (.array ((members.map encode).map stripDocumentation)) :=
    laidOut_array (by simpa using fun member _ => each member)
  exact laidOut_tagged known order ⟨trivial, trivial, parts, trivial⟩

theorem laidOut_entry (entry : ScSpecEntry) :
    LaidOut specLayouts (stripDocumentation (encodeSpecEntry texts entry)) := by
  cases entry with
  | functionV0 function =>
      rw [stripped_function]
      have inputs : LaidOut specLayouts (.array (function.inputs.map fun input =>
          stripDocumentation (encodeTypedMember texts input.doc input.name input.type))) :=
        laidOut_array (by simpa using fun input _ => laidOut_typedMember _ _ _)
      exact laidOut_tagged (by decide) (by simp [specLayouts])
        ⟨trivial, inputs, laidOut_encodeSpecTypes function.outputs, trivial⟩
  | udtStructV0 value =>
      exact laidOut_userType (by decide) (by decide) (by decide) (by decide)
        fun field => laidOut_typedMember field.doc field.name field.type
  | udtUnionV0 value =>
      exact laidOut_userType (by decide) (by decide) (by decide) (by decide) laidOut_unionCase
  | udtEnumV0 value =>
      exact laidOut_userType (by decide) (by decide) (by decide) (by decide) laidOut_enumCase
  | udtErrorEnumV0 value =>
      exact laidOut_userType (by decide) (by decide) (by decide) (by decide) laidOut_enumCase
  | eventV0 value =>
      rw [stripped_event]
      have topics : LaidOut specLayouts (.array (value.prefixTopics.map (encodeXdrString texts))) :=
        laidOut_array (by simp [encodeXdrString, LaidOut])
      have params : LaidOut specLayouts (.array (value.params.map fun param =>
          stripDocumentation (encodeEventParam texts param))) :=
        laidOut_array (by simpa using fun param _ => laidOut_eventParam param)
      have format : LaidOut specLayouts (encodeDataFormat value.dataFormat) := by
        cases value.dataFormat <;> trivial
      exact laidOut_tagged (by decide) (by simp [specLayouts])
        ⟨trivial, trivial, topics, params, format, trivial⟩

/-- A canonical value determines its entry up to documentation. -/
theorem blankDocs_eq_of_canonical (injective : Function.Injective texts.escaped)
    {left right : ScSpecEntry}
    (same : canonicalizeSpecEntry texts left = canonicalizeSpecEntry texts right) :
    left.blankDocs = right.blankDocs := by
  rw [canonicalizeSpecEntry_eq, canonicalizeSpecEntry_eq] at same
  have layouts := LaidOut.eq_of_normalize_eq specLayouts_separated (laidOut_entry left)
    (laidOut_entry right) (congrArg Value.json same)
  exact (stripped_entry_eq_iff injective left right).1 layouts

/-- Entries that differ in their documentation only have one canonical value. -/
theorem canonical_eq_of_blankDocs (injective : Function.Injective texts.escaped)
    {left right : ScSpecEntry} (same : left.blankDocs = right.blankDocs) :
    canonicalizeSpecEntry texts left = canonicalizeSpecEntry texts right := by
  rw [canonicalizeSpecEntry_eq, canonicalizeSpecEntry_eq]
  exact congrArg Json.toValue ((stripped_entry_eq_iff injective left right).2 same)

end Encoding

/-- The canonical values of two entries are equal exactly when the entries are equal
up to documentation. No name is lost, whatever it is. -/
theorem canonicalizeSpecEntry_eq_iff (texts : XdrTexts)
    (injective : Function.Injective texts.escaped) (left right : ScSpecEntry) :
    canonicalizeSpecEntry texts left = canonicalizeSpecEntry texts right ↔
      left.blankDocs = right.blankDocs := by
  rw [canonicalizeSpecEntry_eq, canonicalizeSpecEntry_eq, ← stripped_entry_eq_iff injective]
  constructor
  · intro same
    exact LaidOut.eq_of_normalize_eq specLayouts_separated (laidOut_entry left)
      (laidOut_entry right) (congrArg Value.json same)
  · exact congrArg Json.toValue

namespace Sample

theorem escaped_injective : Function.Injective texts.escaped := by
  have bytes : Function.Injective fun byte : UInt8 => Char.ofNat byte.toNat := by
    intro left right same
    have valid : ∀ byte : UInt8, (Char.ofNat byte.toNat).toNat = byte.toNat := by
      intro byte
      have small := byte.toNat_lt
      rw [Char.toNat_ofNat, if_pos]
      exact Or.inl (by omega)
    have codes := congrArg Char.toNat same
    simp only [valid] at codes
    exact UInt8.toNat_inj.1 codes
  intro left right same
  exact List.map_injective_iff.2 bytes (String.ofList_injective same)

/-- An entrypoint with one parameter of type `u32`. -/
def documentedFunction (doc input : String) : ScSpecEntry :=
  .functionV0 {
    doc := utf8 doc.toList
    name := utf8 "set".toList
    inputs := [{ doc := utf8 doc.toList, name := utf8 input.toList, type := .u32 }]
    outputs := [] }

end Sample

/-- Two texts on a parameter named `doc` have one value, another name has another. -/
theorem sampleFunction_canonical :
    canonicalizeSpecEntry Sample.texts (Sample.documentedFunction "old" "doc") =
        canonicalizeSpecEntry Sample.texts (Sample.documentedFunction "new" "doc") ∧
      canonicalizeSpecEntry Sample.texts (Sample.documentedFunction "old" "doc") ≠
        canonicalizeSpecEntry Sample.texts (Sample.documentedFunction "old" "key") := by
  constructor
  · exact (canonicalizeSpecEntry_eq_iff Sample.texts Sample.escaped_injective _ _).2 rfl
  · intro same
    have blank := (canonicalizeSpecEntry_eq_iff Sample.texts Sample.escaped_injective _ _).1 same
    simp only [Sample.documentedFunction, ScSpecEntry.blankDocs, ScSpecEntry.functionV0.injEq,
      ScSpecFunctionV0.mk.injEq, List.map_cons, List.cons.injEq, ScSpecFunctionInputV0.blankDocs,
      ScSpecFunctionInputV0.mk.injEq] at blank
    exact absurd blank.2.2.1.1.2.1 (by decide)

end SorobanUpgrades
