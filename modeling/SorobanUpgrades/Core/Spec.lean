/-
Module: SorobanUpgrades.Core.Spec
Purpose: Contract specification entries, their canonical JSON values, and the
  inventory of an artifact that is extracted from them.
Trusted boundary: human-reviewed spec
Main exports: ScSpecTypeDef, ScSpecEntry, canonicalizeSpecEntry, collectUdtNames,
  SpecInventory, extractSpec
-/
import SorobanUpgrades.Core.Primitives

namespace SorobanUpgrades

/-! ### Specification entries -/

/-- The bytes of an XDR string. -/
abbrev XdrString := List UInt8

/-- The types of a contract specification, as XDR defines them. [SRC lib.rs:475-516] -/
inductive ScSpecTypeDef where
  | val
  | bool
  | void
  | error
  | u32
  | i32
  | u64
  | i64
  | timepoint
  | duration
  | u128
  | i128
  | u256
  | i256
  | bytes
  | string
  | symbol
  | address
  | muxedAddress
  | option (valueType : ScSpecTypeDef)
  | result (okType errorType : ScSpecTypeDef)
  | vec (elementType : ScSpecTypeDef)
  | map (keyType valueType : ScSpecTypeDef)
  | tuple (valueTypes : List ScSpecTypeDef)
  | bytesN (n : UInt32)
  | udt (name : XdrString)
deriving Repr

/-- An input of a function. -/
structure ScSpecFunctionInputV0 where
  doc : XdrString
  name : XdrString
  type : ScSpecTypeDef
deriving Repr

/-- A function of the contract. -/
structure ScSpecFunctionV0 where
  doc : XdrString
  name : XdrString
  inputs : List ScSpecFunctionInputV0
  outputs : List ScSpecTypeDef
deriving Repr

/-- A field of a struct. -/
structure ScSpecUdtStructFieldV0 where
  doc : XdrString
  name : XdrString
  type : ScSpecTypeDef
deriving Repr

/-- A struct. -/
structure ScSpecUdtStructV0 where
  doc : XdrString
  lib : XdrString
  name : XdrString
  fields : List ScSpecUdtStructFieldV0
deriving Repr

/-- A case of a union, without or with values. -/
inductive ScSpecUdtUnionCaseV0 where
  | voidV0 (doc name : XdrString)
  | tupleV0 (doc name : XdrString) (type : List ScSpecTypeDef)
deriving Repr

/-- The name of either form. [SRC lib.rs:364-367] -/
def ScSpecUdtUnionCaseV0.name : ScSpecUdtUnionCaseV0 → XdrString
  | .voidV0 _ name => name
  | .tupleV0 _ name _ => name

/-- A union. -/
structure ScSpecUdtUnionV0 where
  doc : XdrString
  lib : XdrString
  name : XdrString
  cases : List ScSpecUdtUnionCaseV0
deriving Repr

/-- A case of an enum or of an error enum. -/
structure ScSpecUdtEnumCaseV0 where
  doc : XdrString
  name : XdrString
  value : UInt32
deriving Repr

/-- An enum or an error enum. -/
structure ScSpecUdtEnumV0 where
  doc : XdrString
  lib : XdrString
  name : XdrString
  cases : List ScSpecUdtEnumCaseV0
deriving Repr

/-- Whether an event parameter is a topic. -/
inductive ScSpecEventParamLocationV0 where
  | data
  | topicList
deriving DecidableEq, Repr

/-- A parameter of an event. -/
structure ScSpecEventParamV0 where
  doc : XdrString
  name : XdrString
  type : ScSpecTypeDef
  location : ScSpecEventParamLocationV0
deriving Repr

/-- How the data parameters of an event are packed. -/
inductive ScSpecEventDataFormat where
  | singleValue
  | vec
  | map
deriving DecidableEq, Repr

/-- An event of the contract. -/
structure ScSpecEventV0 where
  doc : XdrString
  lib : XdrString
  name : XdrString
  prefixTopics : List XdrString
  params : List ScSpecEventParamV0
  dataFormat : ScSpecEventDataFormat
deriving Repr

/-- An entry of a contract specification. [SRC lib.rs:282-438] -/
inductive ScSpecEntry where
  | functionV0 (function : ScSpecFunctionV0)
  | udtStructV0 (value : ScSpecUdtStructV0)
  | udtUnionV0 (value : ScSpecUdtUnionV0)
  | udtEnumV0 (value : ScSpecUdtEnumV0)
  | udtErrorEnumV0 (value : ScSpecUdtEnumV0)
  | eventV0 (value : ScSpecEventV0)
deriving Repr

/-! ### JSON values of entries

The derived encoding: objects keyed by field names and variants tagged by their
name. -/

/-- The text forms of an XDR string. -/
structure XdrTexts where
  /-- UTF-8 decoding with replacement of invalid bytes. -/
  toUtf8StringLossy : XdrString → String
  /-- The escaped form that stands for the string in JSON. -/
  escaped : XdrString → String

section Encoding

variable (texts : XdrTexts)

/-- XDR strings print escaped. -/
def encodeXdrString (value : XdrString) : Json := .string (texts.escaped value)

mutual

/-- The `serde` form of a type: a name, or an object with one key. -/
def encodeSpecType : ScSpecTypeDef → Json
  | .val => .string "val"
  | .bool => .string "bool"
  | .void => .string "void"
  | .error => .string "error"
  | .u32 => .string "u32"
  | .i32 => .string "i32"
  | .u64 => .string "u64"
  | .i64 => .string "i64"
  | .timepoint => .string "timepoint"
  | .duration => .string "duration"
  | .u128 => .string "u128"
  | .i128 => .string "i128"
  | .u256 => .string "u256"
  | .i256 => .string "i256"
  | .bytes => .string "bytes"
  | .string => .string "string"
  | .symbol => .string "symbol"
  | .address => .string "address"
  | .muxedAddress => .string "muxed_address"
  | .option valueType =>
      .object [("option", .object [("value_type", encodeSpecType valueType)])]
  | .result okType errorType =>
      .object [("result", .object [("ok_type", encodeSpecType okType),
        ("error_type", encodeSpecType errorType)])]
  | .vec elementType =>
      .object [("vec", .object [("element_type", encodeSpecType elementType)])]
  | .map keyType valueType =>
      .object [("map", .object [("key_type", encodeSpecType keyType),
        ("value_type", encodeSpecType valueType)])]
  | .tuple valueTypes =>
      .object [("tuple", .object [("value_types", .array (encodeSpecTypes valueTypes))])]
  | .bytesN n => .object [("bytes_n", .object [("n", .number (.integer n.toNat))])]
  | .udt name => .object [("udt", .object [("name", encodeXdrString texts name)])]

/-- The same for each type of a tuple. -/
def encodeSpecTypes : List ScSpecTypeDef → List Json
  | [] => []
  | type :: types => encodeSpecType type :: encodeSpecTypes types

end

/-- A function input or a struct field. -/
def encodeTypedMember (doc name : XdrString) (type : ScSpecTypeDef) : Json :=
  .object [("doc", encodeXdrString texts doc), ("name", encodeXdrString texts name),
    ("type_", encodeSpecType texts type)]

/-- The `serde` form of a union case. -/
def encodeUnionCase : ScSpecUdtUnionCaseV0 → Json
  | .voidV0 doc name =>
      .object [("void_v0", .object [("doc", encodeXdrString texts doc),
        ("name", encodeXdrString texts name)])]
  | .tupleV0 doc name type =>
      .object [("tuple_v0", .object [("doc", encodeXdrString texts doc),
        ("name", encodeXdrString texts name), ("type_", .array (encodeSpecTypes texts type))])]

/-- The `serde` form of an enum case. -/
def encodeEnumCase (enumCase : ScSpecUdtEnumCaseV0) : Json :=
  .object [("doc", encodeXdrString texts enumCase.doc), ("name", encodeXdrString texts enumCase.name),
    ("value", .number (.integer enumCase.value.toNat))]

/-- The `serde` form of a parameter location. -/
def encodeParamLocation : ScSpecEventParamLocationV0 → Json
  | .data => .string "data"
  | .topicList => .string "topic_list"

/-- The `serde` form of an event parameter. -/
def encodeEventParam (param : ScSpecEventParamV0) : Json :=
  .object [("doc", encodeXdrString texts param.doc), ("name", encodeXdrString texts param.name),
    ("type_", encodeSpecType texts param.type), ("location", encodeParamLocation param.location)]

/-- The `serde` form of a data format. -/
def encodeDataFormat : ScSpecEventDataFormat → Json
  | .singleValue => .string "single_value"
  | .vec => .string "vec"
  | .map => .string "map"

/-- A user type with its list of fields or cases. -/
def encodeUserType (doc lib name : XdrString) (memberKey : String) (members : List Json) : Json :=
  .object [("doc", encodeXdrString texts doc), ("lib", encodeXdrString texts lib),
    ("name", encodeXdrString texts name), (memberKey, .array members)]

/-- The `serde` form of an entry: an object whose one key is the kind. [SRC lib.rs:533] -/
def encodeSpecEntry : ScSpecEntry → Json
  | .functionV0 function =>
      .object [("function_v0", .object [("doc", encodeXdrString texts function.doc),
        ("name", encodeXdrString texts function.name),
        ("inputs", .array (function.inputs.map fun input =>
          encodeTypedMember texts input.doc input.name input.type)),
        ("outputs", .array (encodeSpecTypes texts function.outputs))])]
  | .udtStructV0 value =>
      .object [("udt_struct_v0", encodeUserType texts value.doc value.lib value.name "fields"
        (value.fields.map fun field => encodeTypedMember texts field.doc field.name field.type))]
  | .udtUnionV0 value =>
      .object [("udt_union_v0", encodeUserType texts value.doc value.lib value.name "cases"
        (value.cases.map (encodeUnionCase texts)))]
  | .udtEnumV0 value =>
      .object [("udt_enum_v0", encodeUserType texts value.doc value.lib value.name "cases"
        (value.cases.map (encodeEnumCase texts)))]
  | .udtErrorEnumV0 value =>
      .object [("udt_error_enum_v0", encodeUserType texts value.doc value.lib value.name "cases"
        (value.cases.map (encodeEnumCase texts)))]
  | .eventV0 value =>
      .object [("event_v0", .object [("doc", encodeXdrString texts value.doc),
        ("lib", encodeXdrString texts value.lib), ("name", encodeXdrString texts value.name),
        ("prefix_topics", .array (value.prefixTopics.map (encodeXdrString texts))),
        ("params", .array (value.params.map (encodeEventParam texts))),
        ("data_format", encodeDataFormat value.dataFormat)])]

end Encoding

/-! ### Canonical values -/

mutual

/-- Drop every member named `doc`, at any depth. [SRC lib.rs:540-555] -/
def stripDocumentation : Json → Json
  | .array items => .array (stripDocumentationItems items)
  | .object members => .object (stripDocumentationMembers members)
  | tree => tree

/-- The same for each item of an array. [SRC lib.rs:548-552] -/
def stripDocumentationItems : List Json → List Json
  | [] => []
  | item :: items => stripDocumentation item :: stripDocumentationItems items

/-- The members that stay, each stripped. [SRC lib.rs:542-547] -/
def stripDocumentationMembers : List Member → List Member
  | [] => []
  | (key, value) :: members =>
      if key = "doc" then stripDocumentationMembers members
      else (key, stripDocumentation value) :: stripDocumentationMembers members

end

/-- The value of an entry without its documentation. [SRC lib.rs:532-536] -/
def canonicalizeSpecEntry (texts : XdrTexts) (entry : ScSpecEntry) : Value :=
  (stripDocumentation (encodeSpecEntry texts entry).toValue.json).toValue

/-! ### Extraction -/

section Extraction

variable (texts : XdrTexts)

mutual

/-- Add the user types that occur in a type. [SRC lib.rs:475-516] -/
def collectUdtNames (destination : StringSet) : ScSpecTypeDef → StringSet
  | .udt name => destination.insert (texts.toUtf8StringLossy name)
  | .option valueType => collectUdtNames destination valueType
  | .result okType errorType =>
      collectUdtNames (collectUdtNames destination okType) errorType
  | .vec elementType => collectUdtNames destination elementType
  | .map keyType valueType =>
      collectUdtNames (collectUdtNames destination keyType) valueType
  | .tuple valueTypes => collectUdtNamesOfAll destination valueTypes
  | _ => destination

/-- The same for each member of a tuple. [SRC lib.rs:490-494] -/
def collectUdtNamesOfAll (destination : StringSet) : List ScSpecTypeDef → StringSet
  | [] => destination
  | type :: types => collectUdtNamesOfAll (collectUdtNames destination type) types

end

/-- The user types that occur in a type. -/
def udtNames (type : ScSpecTypeDef) : List String := (collectUdtNames texts ∅ type).toList

/-- Refuse a name that occurs twice. [SRC lib.rs:557-573] -/
def ensureUniqueSpecMembers (kind owner : String) (names : List String) : Except Error Unit :=
  go ∅ names
where
  go (unique : StringSet) : List String → Except Error Unit
    | [] => .ok ()
    | name :: names =>
        if unique.contains name then .error (.duplicateSpecMember kind owner name)
        else go (unique.insert name) names

/-- Insert an entry under its own name, which must be new. [SRC lib.rs:319-334] -/
def insertUnique (duplicateKind kind name : String) (canonical : Value)
    (destination : StringMap InterfaceEntry) : Except Error (StringMap InterfaceEntry) :=
  if destination.contains name then .error (.duplicateSpecName duplicateKind name)
  else .ok (destination.insert name { kind, name, canonical })

/-- All kinds of user types share one collection. [SRC lib.rs:575-599] -/
def insertUserType (kind name : String) (canonical : Value)
    (userTypes : StringMap InterfaceEntry) : Except Error (StringMap InterfaceEntry) :=
  insertUnique "user-defined type" kind name canonical userTypes

/-- The collections that the extraction fills. [SRC lib.rs:274-278] -/
structure SpecInventory where
  functions : StringMap InterfaceEntry
  events : StringMap InterfaceEntry
  userTypes : StringMap InterfaceEntry
  publicTypeBoundaries : OrderedSet PublicTypeBoundary
  typeReferences : OrderedSet TypeReference

/-- The collections before the loop. [SRC lib.rs:274-278] -/
def SpecInventory.empty : SpecInventory where
  functions := ∅
  events := ∅
  userTypes := ∅
  publicTypeBoundaries := ∅
  typeReferences := ∅

/-- The user types that stand in the inputs and outputs of a function. [SRC lib.rs:293-318] -/
def functionBoundaries (function : ScSpecFunctionV0) : List PublicTypeBoundary :=
  let name := texts.toUtf8StringLossy function.name
  (function.inputs.zipIdx.flatMap fun (input, index) =>
    (udtNames texts input.type).map fun rootType =>
      { function := name
        position := .input
        index := UInt64.ofNat index
        label := some (texts.toUtf8StringLossy input.name)
        rootType := rootType : PublicTypeBoundary }) ++
  (function.outputs.zipIdx.flatMap fun (output, index) =>
    (udtNames texts output).map fun rootType =>
      { function := name
        position := .output
        index := UInt64.ofNat index
        label := none
        rootType := rootType : PublicTypeBoundary })

/-- The user types that stand in one member of a user type. [SRC lib.rs:347-355] -/
def memberReferences (ownerType member : String) (type : ScSpecTypeDef) : List TypeReference :=
  (udtNames texts type).map fun targetType => { ownerType, member, targetType }

/-- The references of a struct, by field. [SRC lib.rs:346-356] -/
def structReferences (value : ScSpecUdtStructV0) : List TypeReference :=
  value.fields.flatMap fun field =>
    memberReferences texts (texts.toUtf8StringLossy value.name)
      (texts.toUtf8StringLossy field.name) field.type

/-- The references of a union. A member is a case name with an index. [SRC lib.rs:369-384] -/
def unionReferences (value : ScSpecUdtUnionV0) : List TypeReference :=
  value.cases.flatMap fun
    | .voidV0 _ _ => []
    | .tupleV0 _ name type =>
        let caseName := texts.toUtf8StringLossy name
        type.zipIdx.flatMap fun (valueType, index) =>
          memberReferences texts (texts.toUtf8StringLossy value.name)
            s!"{caseName}[{index}]" valueType

/-- Insert each item into an ordered set. -/
def insertAll {α : Type} [Ord α] [Std.TransOrd α] (items : List α)
    (destination : OrderedSet α) : OrderedSet α :=
  items.foldl (·.insert ·) destination

/-- The body of the extraction loop. [SRC lib.rs:281-438] -/
def extractEntry (inventory : SpecInventory) (entry : ScSpecEntry) :
    Except Error SpecInventory := do
  let canonical := canonicalizeSpecEntry texts entry
  let lossy := texts.toUtf8StringLossy
  match entry with
  | .functionV0 function =>
      let name := lossy function.name
      ensureUniqueSpecMembers "function" name (function.inputs.map (lossy ·.name))
      let publicTypeBoundaries :=
        insertAll (functionBoundaries texts function) inventory.publicTypeBoundaries
      let functions ← insertUnique "function" "function" name canonical inventory.functions
      .ok { inventory with publicTypeBoundaries, functions }
  | .udtStructV0 value =>
      let ownerType := lossy value.name
      ensureUniqueSpecMembers "struct" ownerType (value.fields.map (lossy ·.name))
      let typeReferences := insertAll (structReferences texts value) inventory.typeReferences
      let userTypes ← insertUserType "struct" ownerType canonical inventory.userTypes
      .ok { inventory with typeReferences, userTypes }
  | .udtUnionV0 value =>
      let ownerType := lossy value.name
      ensureUniqueSpecMembers "union" ownerType (value.cases.map (lossy ·.name))
      let typeReferences := insertAll (unionReferences texts value) inventory.typeReferences
      let userTypes ← insertUserType "union" ownerType canonical inventory.userTypes
      .ok { inventory with typeReferences, userTypes }
  | .udtEnumV0 value =>
      let name := lossy value.name
      ensureUniqueSpecMembers "enum" name (value.cases.map (lossy ·.name))
      let userTypes ← insertUserType "enum" name canonical inventory.userTypes
      .ok { inventory with userTypes }
  | .udtErrorEnumV0 value =>
      let name := lossy value.name
      ensureUniqueSpecMembers "error enum" name (value.cases.map (lossy ·.name))
      let userTypes ← insertUserType "error_enum" name canonical inventory.userTypes
      .ok { inventory with userTypes }
  | .eventV0 value =>
      let name := lossy value.name
      ensureUniqueSpecMembers "event" name (value.params.map (lossy ·.name))
      let events ← insertUnique "event" "event" name canonical inventory.events
      .ok { inventory with events }

/-- The loop over the entries of a specification. [SRC lib.rs:280-439] -/
def extractSpec (spec : List ScSpecEntry) : Except Error SpecInventory :=
  spec.foldlM (extractEntry texts) .empty

end Extraction

end SorobanUpgrades
