/-
Module: SorobanUpgrades.Proofs.SpecExtraction
Purpose: The extraction of a specification refuses exactly the repeated names and
  finds every entry and every use of a user type.
Trusted boundary: none
Main exports: OccursIn, WellNamed, SpecInventory.ExactFor, extractSpec_exact
-/
import SorobanUpgrades.Library.Outcome
import SorobanUpgrades.Core.Wasm

namespace SorobanUpgrades

open Outcome (bind_eq_ok_iff seq_eq_ok_iff)

/-! ### Uses of user types -/

/-- The user type `name` stands at some depth of a type expression. -/
inductive OccursIn (texts : XdrTexts) (name : String) : ScSpecTypeDef → Prop where
  | udt {bytes : XdrString} (decoded : texts.toUtf8StringLossy bytes = name) :
      OccursIn texts name (.udt bytes)
  | option {valueType : ScSpecTypeDef} (inside : OccursIn texts name valueType) :
      OccursIn texts name (.option valueType)
  | okType {okType errorType : ScSpecTypeDef} (inside : OccursIn texts name okType) :
      OccursIn texts name (.result okType errorType)
  | errorType {okType errorType : ScSpecTypeDef} (inside : OccursIn texts name errorType) :
      OccursIn texts name (.result okType errorType)
  | vec {elementType : ScSpecTypeDef} (inside : OccursIn texts name elementType) :
      OccursIn texts name (.vec elementType)
  | keyType {keyType valueType : ScSpecTypeDef} (inside : OccursIn texts name keyType) :
      OccursIn texts name (.map keyType valueType)
  | valueType {keyType valueType : ScSpecTypeDef} (inside : OccursIn texts name valueType) :
      OccursIn texts name (.map keyType valueType)
  | tuple {valueTypes : List ScSpecTypeDef} {valueType : ScSpecTypeDef}
      (listed : valueType ∈ valueTypes) (inside : OccursIn texts name valueType) :
      OccursIn texts name (.tuple valueTypes)

section Types

variable {texts : XdrTexts} {name : String}

mutual

/-- The collection adds the user types of a type expression. -/
theorem mem_collectUdtNames_iff : ∀ (type : ScSpecTypeDef) (destination : StringSet),
    name ∈ collectUdtNames texts destination type ↔
      name ∈ destination ∨ OccursIn texts name type
  | .udt bytes, destination => by
      rw [collectUdtNames, Std.ExtTreeSet.mem_insert, Std.compare_eq_iff_eq, or_comm]
      refine or_congr_right ⟨.udt, fun occurs => ?_⟩
      cases occurs with
      | udt decoded => exact decoded
  | .option valueType, destination => by
      rw [collectUdtNames, mem_collectUdtNames_iff valueType]
      refine or_congr_right ⟨.option, fun occurs => ?_⟩
      cases occurs with
      | option inside => exact inside
  | .result okType errorType, destination => by
      rw [collectUdtNames, mem_collectUdtNames_iff errorType, mem_collectUdtNames_iff okType,
        or_assoc]
      refine or_congr_right ⟨fun inside => inside.elim .okType .errorType, fun occurs => ?_⟩
      cases occurs with
      | okType inside => exact Or.inl inside
      | errorType inside => exact Or.inr inside
  | .vec elementType, destination => by
      rw [collectUdtNames, mem_collectUdtNames_iff elementType]
      refine or_congr_right ⟨.vec, fun occurs => ?_⟩
      cases occurs with
      | vec inside => exact inside
  | .map keyType valueType, destination => by
      rw [collectUdtNames, mem_collectUdtNames_iff valueType, mem_collectUdtNames_iff keyType,
        or_assoc]
      refine or_congr_right ⟨fun inside => inside.elim .keyType .valueType, fun occurs => ?_⟩
      cases occurs with
      | keyType inside => exact Or.inl inside
      | valueType inside => exact Or.inr inside
  | .tuple valueTypes, destination => by
      rw [collectUdtNames, mem_collectUdtNamesOfAll_iff valueTypes]
      refine or_congr_right ⟨fun ⟨_, listed, inside⟩ => .tuple listed inside, fun occurs => ?_⟩
      cases occurs with
      | tuple listed inside => exact ⟨_, listed, inside⟩
  | .val, _ | .bool, _ | .void, _ | .error, _ | .u32, _ | .i32, _ | .u64, _ | .i64, _
  | .timepoint, _ | .duration, _ | .u128, _ | .i128, _ | .u256, _ | .i256, _ | .bytes, _
  | .string, _ | .symbol, _ | .address, _ | .muxedAddress, _ | .bytesN _, _ => by
      simp only [collectUdtNames, iff_self_or]
      intro occurs
      cases occurs

theorem mem_collectUdtNamesOfAll_iff : ∀ (types : List ScSpecTypeDef) (destination : StringSet),
    name ∈ collectUdtNamesOfAll texts destination types ↔
      name ∈ destination ∨ ∃ type ∈ types, OccursIn texts name type
  | [], destination => by simp [collectUdtNamesOfAll]
  | type :: types, destination => by
      rw [collectUdtNamesOfAll, mem_collectUdtNamesOfAll_iff types, mem_collectUdtNames_iff type,
        or_assoc, List.exists_mem_cons_iff]

end

theorem mem_udtNames_iff {type : ScSpecTypeDef} :
    name ∈ udtNames texts type ↔ OccursIn texts name type := by
  rw [udtNames, Std.ExtTreeSet.mem_toList, mem_collectUdtNames_iff]
  simp

end Types

/-! ### Repeated names -/

/-- The three kinds of names that must be distinct among themselves. -/
inductive NameSpace where
  | function
  | event
  | userType
deriving DecidableEq, Repr

namespace ScSpecEntry

/-- The collection that an entry goes to. -/
def nameSpace : ScSpecEntry → NameSpace
  | .functionV0 _ => .function
  | .eventV0 _ => .event
  | .udtStructV0 _ | .udtUnionV0 _ | .udtEnumV0 _ | .udtErrorEnumV0 _ => .userType

/-- The kind that an entry is recorded with. -/
def kind : ScSpecEntry → String
  | .functionV0 _ => "function"
  | .udtStructV0 _ => "struct"
  | .udtUnionV0 _ => "union"
  | .udtEnumV0 _ => "enum"
  | .udtErrorEnumV0 _ => "error_enum"
  | .eventV0 _ => "event"

variable (texts : XdrTexts)

/-- The decoded name of the entry. -/
def ownName : ScSpecEntry → String
  | .functionV0 function => texts.toUtf8StringLossy function.name
  | .udtStructV0 value => texts.toUtf8StringLossy value.name
  | .udtUnionV0 value => texts.toUtf8StringLossy value.name
  | .udtEnumV0 value => texts.toUtf8StringLossy value.name
  | .udtErrorEnumV0 value => texts.toUtf8StringLossy value.name
  | .eventV0 value => texts.toUtf8StringLossy value.name

/-- The decoded names of the inputs, fields, cases or parameters. -/
def memberNames : ScSpecEntry → List String
  | .functionV0 function => function.inputs.map (texts.toUtf8StringLossy ·.name)
  | .udtStructV0 value => value.fields.map (texts.toUtf8StringLossy ·.name)
  | .udtUnionV0 value => value.cases.map (texts.toUtf8StringLossy ·.name)
  | .udtEnumV0 value => value.cases.map (texts.toUtf8StringLossy ·.name)
  | .udtErrorEnumV0 value => value.cases.map (texts.toUtf8StringLossy ·.name)
  | .eventV0 value => value.params.map (texts.toUtf8StringLossy ·.name)

/-- What the inventory stores for the entry. -/
def interfaceEntry (entry : ScSpecEntry) : InterfaceEntry where
  kind := entry.kind
  name := entry.ownName texts
  canonical := canonicalizeSpecEntry texts entry

end ScSpecEntry

/-- No two entries of one kind share a name, and no entry repeats a member name. -/
structure WellNamed (texts : XdrTexts) (spec : List ScSpecEntry) : Prop where
  entries : spec.Pairwise fun earlier later =>
    earlier.nameSpace = later.nameSpace → earlier.ownName texts ≠ later.ownName texts
  members : ∀ entry ∈ spec, (entry.memberNames texts).Nodup

/-- Entries of one kind are told apart by their names. -/
theorem WellNamed.eq_of_ownName {texts : XdrTexts} {spec : List ScSpecEntry}
    (named : WellNamed texts spec) {left right : ScSpecEntry} (leftListed : left ∈ spec)
    (rightListed : right ∈ spec) (sameSpace : left.nameSpace = right.nameSpace)
    (sameName : left.ownName texts = right.ownName texts) : left = right := by
  by_contra differ
  have symmetric : Std.Symm fun left right : ScSpecEntry =>
      left.nameSpace = right.nameSpace → left.ownName texts ≠ right.ownName texts :=
    ⟨fun _ _ apart same => (apart same.symm).symm⟩
  exact named.entries.forall leftListed rightListed differ sameSpace sameName

theorem ensureUniqueSpecMembers_go_eq_ok_iff {kind owner : String} {names : List String}
    {unique : StringSet} :
    ensureUniqueSpecMembers.go kind owner unique names = .ok () ↔
      (∀ name ∈ names, name ∉ unique) ∧ names.Nodup := by
  induction names generalizing unique with
  | nil => simp [ensureUniqueSpecMembers.go]
  | cons name names inductionHypothesis =>
      simp only [ensureUniqueSpecMembers.go, ← Std.ExtTreeSet.mem_iff_contains]
      by_cases known : name ∈ unique
      · simp [known]
      · rw [if_neg known, inductionHypothesis, List.nodup_cons, List.forall_mem_cons]
        simp only [Std.ExtTreeSet.mem_insert, Std.compare_eq_iff_eq, not_or]
        constructor
        · rintro ⟨fresh, distinct⟩
          exact ⟨⟨known, fun other listed => (fresh other listed).2⟩,
            fun repeated => (fresh name repeated).1 rfl, distinct⟩
        · rintro ⟨⟨_, fresh⟩, single, distinct⟩
          refine ⟨fun other listed => ⟨?_, fresh other listed⟩, distinct⟩
          rintro rfl
          exact single listed

theorem ensureUniqueSpecMembers_eq_ok_iff {kind owner : String} {names : List String} :
    ensureUniqueSpecMembers kind owner names = .ok () ↔ names.Nodup := by
  rw [ensureUniqueSpecMembers, ensureUniqueSpecMembers_go_eq_ok_iff]
  simp

theorem insertUnique_eq_ok_iff {duplicateKind kind name : String} {canonical : Value}
    {destination result : StringMap InterfaceEntry} :
    insertUnique duplicateKind kind name canonical destination = .ok result ↔
      name ∉ destination ∧ destination.insert name { kind, name, canonical } = result := by
  simp only [insertUnique, ← Std.ExtTreeMap.mem_iff_contains]
  by_cases known : name ∈ destination <;> simp [known]

/-! ### One turn of the extraction -/

namespace SpecInventory

/-- The collection of one kind of names. -/
def names (inventory : SpecInventory) : NameSpace → StringMap InterfaceEntry
  | .function => inventory.functions
  | .event => inventory.events
  | .userType => inventory.userTypes

end SpecInventory

section Turn

variable {texts : XdrTexts}

/-- The uses of user types that one function contributes. -/
def ScSpecEntry.boundaries (texts : XdrTexts) : ScSpecEntry → List PublicTypeBoundary
  | .functionV0 function => functionBoundaries texts function
  | _ => []

/-- The uses of user types that one user type contributes. -/
def ScSpecEntry.references (texts : XdrTexts) : ScSpecEntry → List TypeReference
  | .udtStructV0 value => structReferences texts value
  | .udtUnionV0 value => unionReferences texts value
  | _ => []

theorem mem_insertAll_iff {α : Type} [Ord α] [Std.TransOrd α] [Std.LawfulEqOrd α]
    {items : List α} {destination : OrderedSet α} {item : α} :
    item ∈ insertAll items destination ↔ item ∈ destination ∨ item ∈ items := by
  induction items generalizing destination with
  | nil => simp [insertAll]
  | cons head items inductionHypothesis =>
      have rest : insertAll (head :: items) destination =
          insertAll items (destination.insert head) := rfl
      rw [rest, inductionHypothesis, Std.ExtTreeSet.mem_insert, Std.compare_eq_iff_eq,
        List.mem_cons, or_comm (a := head = item), or_assoc, eq_comm (a := head)]

namespace SpecInventory

/-- The inventory with an entry of a new name. -/
def add (texts : XdrTexts) (inventory : SpecInventory) (entry : ScSpecEntry) : SpecInventory :=
  let collection := fun space =>
    if space = entry.nameSpace then
      (inventory.names space).insert (entry.ownName texts) (entry.interfaceEntry texts)
    else inventory.names space
  { functions := collection .function
    events := collection .event
    userTypes := collection .userType
    publicTypeBoundaries := insertAll (entry.boundaries texts) inventory.publicTypeBoundaries
    typeReferences := insertAll (entry.references texts) inventory.typeReferences }

theorem names_add (inventory : SpecInventory) (entry : ScSpecEntry) (space : NameSpace) :
    (inventory.add texts entry).names space =
      if space = entry.nameSpace then
        (inventory.names space).insert (entry.ownName texts) (entry.interfaceEntry texts)
      else inventory.names space := by
  cases space <;> rfl

end SpecInventory

/-- Every branch checks the members and inserts the entry under its own name. -/
theorem checkedInsert_eq_ok_iff {memberKind owner duplicateKind kind name : String}
    {members : List String} {canonical : Value} {destination : StringMap InterfaceEntry}
    {rebuild : StringMap InterfaceEntry → SpecInventory} {next : SpecInventory} :
    (do
      ensureUniqueSpecMembers memberKind owner members
      let collection ← insertUnique duplicateKind kind name canonical destination
      .ok (rebuild collection)) = Except.ok next ↔
      members.Nodup ∧ name ∉ destination ∧
        rebuild (destination.insert name { kind, name, canonical }) = next := by
  rw [seq_eq_ok_iff, ensureUniqueSpecMembers_eq_ok_iff, bind_eq_ok_iff]
  simp only [insertUnique_eq_ok_iff, Except.ok.injEq]
  constructor
  · rintro ⟨distinct, _, ⟨fresh, rfl⟩, built⟩
    exact ⟨distinct, fresh, built⟩
  · rintro ⟨distinct, fresh, built⟩
    exact ⟨distinct, _, ⟨fresh, rfl⟩, built⟩

/-- A turn succeeds on a new name without repeated members, and adds the entry. -/
theorem extractEntry_eq_ok_iff {inventory next : SpecInventory} {entry : ScSpecEntry} :
    extractEntry texts inventory entry = .ok next ↔
      (entry.memberNames texts).Nodup ∧
        entry.ownName texts ∉ inventory.names entry.nameSpace ∧
        inventory.add texts entry = next := by
  cases entry <;> exact checkedInsert_eq_ok_iff

end Turn

/-! ### The whole extraction -/

section Runs

variable {texts : XdrTexts} {spec : List ScSpecEntry} {inventory result : SpecInventory}

/-- The names of the specification are new to the inventory. -/
def FreshFor (texts : XdrTexts) (inventory : SpecInventory) (spec : List ScSpecEntry) : Prop :=
  ∀ entry ∈ spec, entry.ownName texts ∉ inventory.names entry.nameSpace

theorem freshFor_empty : FreshFor texts .empty spec := by
  intro entry _
  cases entry.nameSpace <;> simp [SpecInventory.names, SpecInventory.empty]

theorem mem_names_add_iff {entry : ScSpecEntry} {space : NameSpace} {name : String} :
    name ∈ (inventory.add texts entry).names space ↔
      (space = entry.nameSpace ∧ entry.ownName texts = name) ∨ name ∈ inventory.names space := by
  rw [SpecInventory.names_add]
  by_cases same : space = entry.nameSpace
  · rw [if_pos same, Std.ExtTreeMap.mem_insert, Std.compare_eq_iff_eq]
    simp only [same, true_and]
  · rw [if_neg same]
    simp only [same, false_and, false_or]

/-- Names stay new after a turn when they differ from the name of its entry. -/
theorem freshFor_add_iff {entry : ScSpecEntry} :
    FreshFor texts (inventory.add texts entry) spec ↔
      (∀ later ∈ spec, entry.nameSpace = later.nameSpace →
        entry.ownName texts ≠ later.ownName texts) ∧ FreshFor texts inventory spec := by
  simp only [FreshFor, mem_names_add_iff, not_or, not_and, ← forall_and]
  refine forall_congr' fun later => forall_congr' fun _ => and_congr_left fun _ => ?_
  exact imp_congr_left eq_comm

/-- The run from any inventory: it succeeds on new and distinct names, and adds
the entries one after the other. -/
theorem foldlM_extractEntry_eq_ok_iff :
    spec.foldlM (extractEntry texts) inventory = .ok result ↔
      WellNamed texts spec ∧ FreshFor texts inventory spec ∧
        spec.foldl (SpecInventory.add texts) inventory = result := by
  induction spec generalizing inventory with
  | nil =>
      rw [List.foldlM_nil, List.foldl_nil]
      constructor
      · intro done
        exact ⟨⟨List.Pairwise.nil, by simp⟩, by simp [FreshFor], Except.ok.inj done⟩
      · rintro ⟨_, _, rfl⟩
        rfl
  | cons entry spec inductionHypothesis =>
      rw [List.foldlM_cons, bind_eq_ok_iff]
      simp only [extractEntry_eq_ok_iff, inductionHypothesis]
      constructor
      · rintro ⟨_, ⟨distinct, fresh, rfl⟩, named, later, built⟩
        obtain ⟨apart, rest⟩ := freshFor_add_iff.1 later
        exact ⟨⟨List.pairwise_cons.2 ⟨apart, named.entries⟩,
          List.forall_mem_cons.2 ⟨distinct, named.members⟩⟩,
          List.forall_mem_cons.2 ⟨fresh, rest⟩, built⟩
      · rintro ⟨named, new, built⟩
        obtain ⟨apart, entries⟩ := List.pairwise_cons.1 named.entries
        obtain ⟨distinct, members⟩ := List.forall_mem_cons.1 named.members
        obtain ⟨fresh, rest⟩ := List.forall_mem_cons.1 new
        exact ⟨_, ⟨distinct, fresh, rfl⟩, ⟨entries, members⟩, freshFor_add_iff.2 ⟨apart, rest⟩,
          built⟩

theorem mem_publicTypeBoundaries_foldl_iff {boundary : PublicTypeBoundary} :
    boundary ∈ (spec.foldl (SpecInventory.add texts) inventory).publicTypeBoundaries ↔
      boundary ∈ inventory.publicTypeBoundaries ∨
        ∃ entry ∈ spec, boundary ∈ entry.boundaries texts := by
  induction spec generalizing inventory with
  | nil => simp
  | cons entry spec inductionHypothesis =>
      rw [List.foldl_cons, inductionHypothesis, SpecInventory.add, mem_insertAll_iff, or_assoc,
        List.exists_mem_cons_iff]

theorem mem_typeReferences_foldl_iff {reference : TypeReference} :
    reference ∈ (spec.foldl (SpecInventory.add texts) inventory).typeReferences ↔
      reference ∈ inventory.typeReferences ∨
        ∃ entry ∈ spec, reference ∈ entry.references texts := by
  induction spec generalizing inventory with
  | nil => simp
  | cons entry spec inductionHypothesis =>
      rw [List.foldl_cons, inductionHypothesis, SpecInventory.add, mem_insertAll_iff, or_assoc,
        List.exists_mem_cons_iff]

/-- With new and distinct names every entry keeps its place. -/
theorem getElem?_names_foldl_iff (named : WellNamed texts spec)
    (fresh : FreshFor texts inventory spec) {space : NameSpace} {name : String}
    {stored : InterfaceEntry} :
    ((spec.foldl (SpecInventory.add texts) inventory).names space)[name]? = some stored ↔
      (inventory.names space)[name]? = some stored ∨
        ∃ entry ∈ spec, entry.nameSpace = space ∧ entry.ownName texts = name ∧
          entry.interfaceEntry texts = stored := by
  induction spec generalizing inventory with
  | nil => simp
  | cons entry spec inductionHypothesis =>
      obtain ⟨apart, entries⟩ := List.pairwise_cons.1 named.entries
      obtain ⟨_, members⟩ := List.forall_mem_cons.1 named.members
      obtain ⟨new, rest⟩ := List.forall_mem_cons.1 fresh
      rw [List.foldl_cons, inductionHypothesis ⟨entries, members⟩ (freshFor_add_iff.2 ⟨apart, rest⟩),
        SpecInventory.names_add, List.exists_mem_cons_iff, ← or_assoc]
      refine or_congr_left ?_
      by_cases same : space = entry.nameSpace
      · subst same
        rw [if_pos rfl, Std.ExtTreeMap.getElem?_insert]
        by_cases own : entry.ownName texts = name
        · subst own
          have absent : (inventory.names entry.nameSpace)[entry.ownName texts]? = none :=
            Std.ExtTreeMap.getElem?_eq_none new
          simp [absent]
        · simp [own]
      · rw [if_neg same]
        simp [Ne.symm same]

end Runs

/-! ### The inventory -/

/-- A user type stands in an input or an output of a function of the specification. -/
inductive IsBoundary (texts : XdrTexts) (spec : List ScSpecEntry) : PublicTypeBoundary → Prop where
  | input {function : ScSpecFunctionV0} {index : Nat} {input : ScSpecFunctionInputV0}
      {rootType : String} (entry : .functionV0 function ∈ spec)
      (listed : function.inputs[index]? = some input)
      (occurs : OccursIn texts rootType input.type) :
      IsBoundary texts spec {
        function := texts.toUtf8StringLossy function.name
        position := .input
        index := UInt64.ofNat index
        label := some (texts.toUtf8StringLossy input.name)
        rootType := rootType }
  | output {function : ScSpecFunctionV0} {index : Nat} {output : ScSpecTypeDef}
      {rootType : String} (entry : .functionV0 function ∈ spec)
      (listed : function.outputs[index]? = some output)
      (occurs : OccursIn texts rootType output) :
      IsBoundary texts spec {
        function := texts.toUtf8StringLossy function.name
        position := .output
        index := UInt64.ofNat index
        label := none
        rootType := rootType }

/-- A user type stands in a struct field or in a member of a tuple case. -/
inductive IsReference (texts : XdrTexts) (spec : List ScSpecEntry) : TypeReference → Prop where
  | field {value : ScSpecUdtStructV0} {field : ScSpecUdtStructFieldV0} {targetType : String}
      (entry : .udtStructV0 value ∈ spec) (listed : field ∈ value.fields)
      (occurs : OccursIn texts targetType field.type) :
      IsReference texts spec {
        ownerType := texts.toUtf8StringLossy value.name
        member := texts.toUtf8StringLossy field.name
        targetType := targetType }
  | caseMember {value : ScSpecUdtUnionV0} {doc name : XdrString} {types : List ScSpecTypeDef}
      {index : Nat} {type : ScSpecTypeDef} {targetType : String}
      (entry : .udtUnionV0 value ∈ spec) (listed : .tupleV0 doc name types ∈ value.cases)
      (member : types[index]? = some type) (occurs : OccursIn texts targetType type) :
      IsReference texts spec {
        ownerType := texts.toUtf8StringLossy value.name
        member := s!"{texts.toUtf8StringLossy name}[{index}]"
        targetType := targetType }

section Inventory

variable {texts : XdrTexts} {spec : List ScSpecEntry}

theorem exists_boundaries_iff {boundary : PublicTypeBoundary} :
    (∃ entry ∈ spec, boundary ∈ entry.boundaries texts) ↔ IsBoundary texts spec boundary := by
  constructor
  · rintro ⟨entry, listed, contributes⟩
    cases entry with
    | functionV0 function =>
        simp only [ScSpecEntry.boundaries, functionBoundaries, List.mem_append, List.mem_flatMap,
          List.mem_map, mem_udtNames_iff, List.mem_zipIdx_iff_getElem?] at contributes
        rcases contributes with ⟨⟨input, index⟩, found, _, occurs, rfl⟩ |
          ⟨⟨output, index⟩, found, _, occurs, rfl⟩
        · exact .input listed found occurs
        · exact .output listed found occurs
    | _ => cases contributes
  · intro isBoundary
    cases isBoundary with
    | input entry listed occurs =>
        refine ⟨_, entry, List.mem_append_left _ (List.mem_flatMap.2 ⟨(_, _),
          List.mem_zipIdx_iff_getElem?.2 listed, ?_⟩)⟩
        exact List.mem_map.2 ⟨_, mem_udtNames_iff.2 occurs, rfl⟩
    | output entry listed occurs =>
        refine ⟨_, entry, List.mem_append_right _ (List.mem_flatMap.2 ⟨(_, _),
          List.mem_zipIdx_iff_getElem?.2 listed, ?_⟩)⟩
        exact List.mem_map.2 ⟨_, mem_udtNames_iff.2 occurs, rfl⟩

theorem mem_memberReferences_iff {ownerType member : String} {type : ScSpecTypeDef}
    {reference : TypeReference} :
    reference ∈ memberReferences texts ownerType member type ↔
      ∃ targetType, OccursIn texts targetType type ∧
        { ownerType, member, targetType } = reference := by
  simp only [memberReferences, List.mem_map, mem_udtNames_iff]

theorem exists_references_iff {reference : TypeReference} :
    (∃ entry ∈ spec, reference ∈ entry.references texts) ↔ IsReference texts spec reference := by
  constructor
  · rintro ⟨entry, listed, contributes⟩
    cases entry with
    | udtStructV0 value =>
        obtain ⟨field, member, contributes⟩ := List.mem_flatMap.1 contributes
        obtain ⟨_, occurs, rfl⟩ := mem_memberReferences_iff.1 contributes
        exact .field listed member occurs
    | udtUnionV0 value =>
        obtain ⟨unionCase, member, contributes⟩ := List.mem_flatMap.1 contributes
        cases unionCase with
        | voidV0 doc name => cases contributes
        | tupleV0 doc name types =>
            obtain ⟨⟨type, index⟩, found, contributes⟩ := List.mem_flatMap.1 contributes
            obtain ⟨_, occurs, rfl⟩ := mem_memberReferences_iff.1 contributes
            exact .caseMember listed member (List.mem_zipIdx_iff_getElem?.1 found) occurs
    | _ => cases contributes
  · intro isReference
    cases isReference with
    | field entry listed occurs =>
        exact ⟨_, entry, List.mem_flatMap.2 ⟨_, listed,
          mem_memberReferences_iff.2 ⟨_, occurs, rfl⟩⟩⟩
    | caseMember entry listed member occurs =>
        refine ⟨_, entry, List.mem_flatMap.2 ⟨_, listed, List.mem_flatMap.2 ⟨(_, _),
          List.mem_zipIdx_iff_getElem?.2 member, ?_⟩⟩⟩
        exact mem_memberReferences_iff.2 ⟨_, occurs, rfl⟩

/-- The inventory holds the entries of the specification, each in the collection of
its kind, and the uses of user types, and nothing else. -/
structure SpecInventory.ExactFor (inventory : SpecInventory) (texts : XdrTexts)
    (spec : List ScSpecEntry) : Prop where
  entries : ∀ space, (inventory.names space).toList.Perm
    ((spec.filter (·.nameSpace = space)).map fun entry =>
      (entry.ownName texts, entry.interfaceEntry texts))
  boundaries : ∀ boundary,
    boundary ∈ inventory.publicTypeBoundaries ↔ IsBoundary texts spec boundary
  references : ∀ reference, reference ∈ inventory.typeReferences ↔ IsReference texts spec reference

/-- The entries of well named specifications are stored once each. -/
theorem perm_entries (named : WellNamed texts spec) (space : NameSpace) :
    ((spec.foldl (SpecInventory.add texts) .empty).names space).toList.Perm
      ((spec.filter (·.nameSpace = space)).map fun entry =>
        (entry.ownName texts, entry.interfaceEntry texts)) := by
  have stored := (OrderedMap.nodup_keysOf_toList
    ((spec.foldl (SpecInventory.add texts) .empty).names space)).of_map
  have distinct : ((spec.filter (·.nameSpace = space)).map fun entry =>
      (entry.ownName texts, entry.interfaceEntry texts)).Nodup := by
    rw [List.nodup_iff_pairwise_ne, List.pairwise_map, List.pairwise_filter]
    refine named.entries.imp fun apart left right same => ?_
    have spaces := (of_decide_eq_true left).trans (of_decide_eq_true right).symm
    exact apart spaces (congrArg Prod.fst same)
  rw [List.perm_ext_iff_of_nodup stored distinct]
  rintro ⟨name, entry⟩
  have empty : (SpecInventory.empty.names space)[name]? = none := by
    cases space <;> simp [SpecInventory.names, SpecInventory.empty]
  rw [OrderedMap.mem_toList_iff, getElem?_names_foldl_iff named freshFor_empty, empty]
  simp [and_assoc]

/-- What an inventory stores under a name is the entry of that name. -/
theorem getElem?_names_of_extracted {inventory : SpecInventory}
    (extracted : extractSpec texts spec = .ok inventory) {space : NameSpace} {name : String}
    {stored : InterfaceEntry} :
    (inventory.names space)[name]? = some stored ↔
      ∃ entry ∈ spec, entry.nameSpace = space ∧ entry.ownName texts = name ∧
        entry.interfaceEntry texts = stored := by
  obtain ⟨named, fresh, rfl⟩ := foldlM_extractEntry_eq_ok_iff.1 extracted
  rw [getElem?_names_foldl_iff named fresh]
  refine or_iff_right ?_
  cases space <;> simp [SpecInventory.names, SpecInventory.empty]

/-- A stored function is a function entry of the specification. -/
theorem function_of_extracted {inventory : SpecInventory}
    (extracted : extractSpec texts spec = .ok inventory) {name : String}
    {stored : InterfaceEntry} (found : inventory.functions[name]? = some stored) :
    ∃ function, .functionV0 function ∈ spec ∧ texts.toUtf8StringLossy function.name = name ∧
      ScSpecEntry.interfaceEntry texts (.functionV0 function) = stored := by
  have collected : (inventory.names .function)[name]? = some stored := found
  obtain ⟨entry, member, kind, own, interface⟩ :=
    (getElem?_names_of_extracted extracted).1 collected
  cases entry with
  | functionV0 function => exact ⟨function, member, own, interface⟩
  | _ => cases kind

end Inventory

/-- The extraction succeeds exactly on well named specifications. Its inventory holds
every entry once and every use of a user type. -/
theorem extractSpec_exact (texts : XdrTexts) (spec : List ScSpecEntry) :
    ((∃ inventory, extractSpec texts spec = .ok inventory) ↔ WellNamed texts spec) ∧
      ∀ inventory, extractSpec texts spec = .ok inventory → inventory.ExactFor texts spec := by
  constructor
  · constructor
    · rintro ⟨inventory, extracted⟩
      exact (foldlM_extractEntry_eq_ok_iff.1 extracted).1
    · intro named
      exact ⟨_, foldlM_extractEntry_eq_ok_iff.2 ⟨named, freshFor_empty, rfl⟩⟩
  · intro inventory extracted
    obtain ⟨named, _, rfl⟩ := foldlM_extractEntry_eq_ok_iff.1 extracted
    refine ⟨perm_entries named, fun boundary => ?_, fun reference => ?_⟩
    · rw [mem_publicTypeBoundaries_foldl_iff, exists_boundaries_iff]
      simp [SpecInventory.empty]
    · rw [mem_typeReferences_foldl_iff, exists_references_iff]
      simp [SpecInventory.empty]

end SorobanUpgrades
