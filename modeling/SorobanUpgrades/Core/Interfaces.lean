/-
Module: SorobanUpgrades.Core.Interfaces
Purpose: The comparison of two contract specifications: functions, events and
  user-defined types.
Trusted boundary: human-reviewed spec
Main exports: structFieldsOf, artifactStructFields, optionalStructFieldsAdded,
  compareInterfaces
-/
import SorobanUpgrades.Core.Checks

namespace SorobanUpgrades

/-! ### Struct definitions -/

/-- One field of a struct definition. [SRC lib.rs:2257-2262] -/
def structField (field : Json) : Option (String × Value) := do
  let name ← (← field.get? "name").asStr
  let fieldType ← field.get? "type_"
  some (name, fieldType.toValue)

/-- `struct_fields`. A repeated name keeps the last type. [SRC lib.rs:2251-2264] -/
def structFieldsOf (entry : InterfaceEntry) : Option (StringMap Value) := do
  let fields ← (← entry.canonical.json.pointer ["udt_struct_v0", "fields"]).asArray
  let pairs ← fields.mapM structField
  some (Std.ExtTreeMap.ofList pairs compare)

/-- The readable structs of an artifact with their fields. [SRC lib.rs:2080-2088] -/
def artifactStructFields (artifact : Artifact) : StringMap (StringMap Value) :=
  Std.ExtTreeMap.ofList (filterMapSnd structFieldsOf artifact.userTypes.toList) compare

/-- An object with the key `option`. [SRC lib.rs:2266-2270] -/
def isOptionType (value : Value) : Bool :=
  value.json.asObject.any fun members => (members.lookup "option").isSome

/-- The fields a struct gains when it only gains optional fields. [SRC lib.rs:2229-2249] -/
def optionalStructFieldsAdded (old new : InterfaceEntry) : Option (List String) := do
  if old.kind ≠ "struct" ∨ new.kind ≠ "struct" then none
  let oldFields ← structFieldsOf old
  let newFields ← structFieldsOf new
  if newFields.size ≤ oldFields.size ∨
      oldFields.toList.any (fun (name, oldType) => newFields[name]? ≠ some oldType) then none
  let added ← (newFields.toList.filter fun (name, _) => !oldFields.contains name).mapM
    fun (name, fieldType) => if isOptionType fieldType then some name else none
  if added.isEmpty then none else some added

/-! ### Comparison -/

/-- ABI001 and ABI002: a function of the source in the target. [SRC lib.rs:2136-2154] -/
def compareFunction (policy : Policy) (target : Artifact) (name : String)
    (old : InterfaceEntry) : List Finding :=
  match target.functions[name]? with
  | none =>
      if policy.denyRemovedFunctions then
        [error "ABI001" "Public function removed"
          s!"The target contract removes `{name}` from the public specification."
          "Preserve the function, introduce a compatibility shim, or document and explicitly approve the breaking change."]
      else []
  | some new =>
      if policy.denyChangedFunctions && decide (old.canonical ≠ new.canonical) then
        [error "ABI002" "Public function signature changed"
          s!"The inputs, output, or specification of `{name}` changed."
          "Add a new entrypoint and keep the old signature until downstream clients have migrated."]
      else []

/-- EVT001 and EVT002: an event of the source in the target. [SRC lib.rs:2156-2174] -/
def compareEvent (policy : Policy) (target : Artifact) (name : String)
    (old : InterfaceEntry) : List Finding :=
  match target.events[name]? with
  | none =>
      if policy.denyRemovedEvents then
        [error "EVT001" "Contract event was removed"
          s!"The target contract removes event `{name}` from the public specification."
          "Keep the event schema or complete a reviewed indexer migration before the release."]
      else []
  | some new =>
      if policy.denyChangedEvents && decide (old.canonical ≠ new.canonical) then
        [error "EVT002" "Contract event schema changed"
          s!"The topics, parameters, types, or data format of event `{name}` changed."
          "Add a new event name and keep the old schema for existing consumers."]
      else []

/-- How a changed user-defined type is reported. Every form is an error. [SRC lib.rs:2188-2223] -/
def compareChangedType (target : Artifact) (context : ValidationContext) (name : String)
    (old new : InterfaceEntry) : Finding :=
  match optionalStructFieldsAdded old new with
  | some added =>
      let labels := joined added
      if cap0086Protocol ≤ context.targetProtocolVersion.getD 0 ∧
          target.usesCap0086SparseRead = true then
        error "CAP005" "CAP-0086 reader binding is not proven for the changed type"
          s!"The `{name}` struct adds only optional field(s): {labels}. Protocol support and a global sparse-read import are present, but the artifact does not prove that this specific type is decoded through that reader."
          "Provide generated type-to-reader evidence and test old/new reader-writer directions against historical state before approving the change."
      else
        error "CAP006" "Optional field addition is not supported by the selected artifact and protocol"
          s!"The `{name}` struct adds optional field(s) {labels}, but compatibility requires both protocol 28+ and a candidate that imports CAP-0086 sparse decoding."
          "Use explicit versioned migration today, or rebuild with CAP-0086 support after activation and re-run validation against the target protocol."
  | none =>
      error "ABI004" "Contract Spec type changed"
        s!"The `{name}` {old.kind} definition changed in a way this policy does not classify as compatible. Contract Spec alone does not prove the type's runtime role."
        "Introduce a versioned type and migration path instead of mutating the existing definition in place."

theorem isError_compareChangedType (target : Artifact) (context : ValidationContext)
    (name : String) (old new : InterfaceEntry) :
    (compareChangedType target context name old new).isError = true := by
  unfold compareChangedType
  cases optionalStructFieldsAdded old new with
  | none => rfl
  | some added =>
      dsimp only
      split <;> rfl

/-- ABI003, or the report of a changed type. [SRC lib.rs:2176-2226] -/
def compareUserType (policy : Policy) (context : ValidationContext) (target : Artifact)
    (name : String) (old : InterfaceEntry) : List Finding :=
  match target.userTypes[name]? with
  | none =>
      if policy.denyChangedUserTypes then
        [error "ABI003" "Contract Spec type removed"
          s!"The target contract removes the `{name}` {old.kind} definition. Contract Spec alone does not identify every public, stored, or cross-contract use of this type."
          "Preserve the type or prove every relevant public, storage, and cross-contract migration path before approving removal."]
      else []
  | some new =>
      if policy.denyChangedUserTypes && decide (old.canonical ≠ new.canonical) then
        [compareChangedType target context name old new]
      else []

/-- Every function, event and user type of the source against the target. Additions raise nothing.
[SRC lib.rs:2129-2227] -/
def compareInterfaces (source target : Artifact) (policy : Policy) (context : ValidationContext) :
    List Finding :=
  (forEach source.functions fun name old => compareFunction policy target name old) ++
  (forEach source.events fun name old => compareEvent policy target name old) ++
  (forEach source.userTypes fun name old =>
    compareUserType policy context target name old)

end SorobanUpgrades
