/-
Module: SorobanUpgrades.Core.Wasm
Purpose: The reading of an artifact from WASM bytes: sections, metadata, imports,
  and the calls each export reaches.
Trusted boundary: human-reviewed spec
Main exports: Payload, WasmReaders, CallSearch, inspectExportCallEvidence,
  Artifact.fromWasm
-/
import SorobanUpgrades.Library.Loop
import SorobanUpgrades.Library.Sha256
import SorobanUpgrades.Core.Spec

namespace SorobanUpgrades

/-- `MAX_ARTIFACT_SIZE_BYTES`. [SRC lib.rs:24] -/
def maxArtifactSizeBytes : Nat := 16 * 1024 * 1024

/-! ### Parsed modules -/

/-- The type of an import. -/
inductive TypeRef where
  | func (typeIndex : UInt32)
  | table
  | memory
  | global
  | tag
  | funcExact (typeIndex : UInt32)
deriving DecidableEq, Repr

/-- The import is a function. Exact function types do not match. [SRC lib.rs:672] -/
def TypeRef.isFunc : TypeRef → Bool
  | .func _ => true
  | _ => false

/-- An import of a module. -/
structure Import where
  module : String
  name : String
  ty : TypeRef
deriving DecidableEq, Repr

/-- What an export is. -/
inductive ExternalKind where
  | func
  | table
  | memory
  | global
  | tag
  | funcExact
deriving DecidableEq, Repr

/-- An export of a module. -/
structure Export where
  name : String
  kind : ExternalKind
  index : UInt32
deriving DecidableEq, Repr

/-- The operators of a function body, as far as calls go. [SRC lib.rs:717-729] -/
inductive Operator where
  | call (functionIndex : UInt32)
  | returnCall (functionIndex : UInt32)
  | callIndirect
  | returnCallIndirect
  | callRef
  | returnCallRef
  | other
deriving DecidableEq, Repr

/-- The payloads of a parsed module. [SRC lib.rs:695-735] -/
inductive Payload where
  | customSection (name : String) (data : List UInt8)
  | importSection (imports : List Import)
  | exportSection (exports : List Export)
  | codeSectionEntry (operators : List Operator)
  | other
deriving DecidableEq, Repr

/-- The WASM and XDR readers, and the text forms of XDR strings. -/
structure WasmReaders where
  texts : XdrTexts
  /-- The payloads of a module that the validator accepts. -/
  parseAll : List UInt8 → Option (List Payload)
  /-- `soroban_spec::read::from_wasm`. -/
  specFromWasm : List UInt8 → Option (List ScSpecEntry)
  /-- The key and value of each metadata entry. -/
  metaEntries : List UInt8 → Option (List (XdrString × XdrString))
  /-- The protocol and pre-release number of each interface version. -/
  envMetaEntries : List UInt8 → Option (List (UInt32 × UInt32))

/-- The value of a reader, or its failure. -/
def readOr {α : Type} (failure : Error) : Option α → Except Error α
  | some value => .ok value
  | none => .error failure

/-! ### Custom sections -/

/-- The contents of the custom sections of one name. -/
def customSections (name : String) (payloads : List Payload) : List (List UInt8) :=
  payloads.filterMap fun
    | .customSection sectionName data => if sectionName = name then some data else none
    | _ => none

/-- There is one `contractspecv0` section. [SRC lib.rs:518-530] -/
def requireSingleContractSpecSection (payloads : List Payload) : Except Error Unit :=
  let count := (customSections "contractspecv0" payloads).length
  if count = 1 then .ok () else .error (.contractSpecSectionCount count)

/-- The metadata of all `contractmetav0` sections, whose keys differ. [SRC lib.rs:601-626] -/
def readContractMetadata (readers : WasmReaders) (payloads : List Payload) :
    Except Error (StringMap String) := do
  let entries ← readOr .xdr (readers.metaEntries (customSections "contractmetav0" payloads).flatten)
  entries.foldlM insertMetadata ∅
where
  insertMetadata (metadata : StringMap String) (entry : XdrString × XdrString) :
      Except Error (StringMap String) :=
    let key := readers.texts.toUtf8StringLossy entry.1
    if metadata.contains key then .error (.duplicateMetadataKey key)
    else .ok (metadata.insert key (readers.texts.toUtf8StringLossy entry.2))

/-- The one interface version of the one `contractenvmetav0` section. [SRC lib.rs:628-651] -/
def readContractEnvMetadata (readers : WasmReaders) (payloads : List Payload) :
    Except Error (UInt32 × UInt32) :=
  match customSections "contractenvmetav0" payloads with
  | [raw] => do
      let entries ← readOr .xdr (readers.envMetaEntries raw)
      match entries with
      | [version] => .ok version
      | _ => .error (.contractEnvVersionCount entries.length)
  | sections => .error (.contractEnvMetaSectionCount sections.length)

/-! ### Function imports -/

/-- An imported function with its index. [SRC lib.rs:228-232] -/
structure FunctionImport where
  functionIndex : UInt32
  module : String
  name : String
deriving DecidableEq, Repr

/-- The module and the name, with a dot between them. [SRC lib.rs:235-237] -/
def FunctionImport.canonicalName (functionImport : FunctionImport) : String :=
  s!"{functionImport.module}.{functionImport.name}"

/-- The imported functions, in index order. [SRC lib.rs:668-684] -/
def importedFunctions (payloads : List Payload) : List Import :=
  payloads.flatMap fun
    | .importSection imports => imports.filter (·.ty.isFunc)
    | _ => []

/-- A count of imports as a 32-bit index. [SRC lib.rs:673-675] -/
def importIndex (count : Nat) : Except Error UInt32 :=
  if count < UInt32.size then .ok (UInt32.ofNat count)
  else .error (.callGraph "too many function imports to inspect")

/-- The imported functions with their indices. [SRC lib.rs:666-686] -/
def inspectFunctionImports (payloads : List Payload) : Except Error (List FunctionImport) :=
  (importedFunctions payloads).zipIdx.mapM fun (item, position) => do
    let functionIndex ← importIndex position
    .ok { functionIndex, module := item.module, name := item.name }

/-- The names of the imported functions. [SRC lib.rs:659-664] -/
def readHostImports (payloads : List Payload) : Except Error StringSet := do
  let imports ← inspectFunctionImports payloads
  .ok (Std.ExtTreeSet.ofList (imports.map (·.canonicalName)) compare)

/-! ### Export call evidence -/

/-- What a function body calls. [SRC lib.rs:654-657] -/
structure FunctionBodyCalls where
  directCalls : List UInt32
  hasDynamicDispatch : Bool
deriving DecidableEq, Repr

namespace FunctionBodyCalls

/-- Note the call that an operator makes, if it makes one. [SRC lib.rs:717-729] -/
def read (calls : FunctionBodyCalls) : Operator → FunctionBodyCalls
  | .call functionIndex | .returnCall functionIndex =>
      { calls with directCalls := calls.directCalls ++ [functionIndex] }
  | .callIndirect | .returnCallIndirect | .callRef | .returnCallRef =>
      { calls with hasDynamicDispatch := true }
  | .other => calls

/-- The calls of a whole body. [SRC lib.rs:714-730] -/
def ofOperators (operators : List Operator) : FunctionBodyCalls :=
  operators.foldl read { directCalls := [], hasDynamicDispatch := false }

end FunctionBodyCalls

/-- The exported functions with their indices. [SRC lib.rs:705-712] -/
def functionExports (payloads : List Payload) : StringMap UInt32 :=
  payloads.foldl (fun functionExports payload =>
    match payload with
    | .exportSection exports => exports.foldl insertExport functionExports
    | _ => functionExports) ∅
where
  insertExport (functionExports : StringMap UInt32) (item : Export) : StringMap UInt32 :=
    if item.kind = .func then functionExports.insert item.name item.index else functionExports

/-- The bodies of the functions that the module defines, in index order. [SRC lib.rs:713-732] -/
def functionBodies (payloads : List Payload) : List FunctionBodyCalls :=
  payloads.filterMap fun
    | .codeSectionEntry operators => some (.ofOperators operators)
    | _ => none

/-- The variables of the traversal. The top of the stack comes first. [SRC lib.rs:761-764] -/
structure CallSearch where
  pending : List UInt32
  visited : OrderedSet UInt32
  evidence : ExportCallEvidence

namespace CallSearch

variable (importedFunctionCount : UInt32) (functionImports : List String)
  (functionBodies : List FunctionBodyCalls)

/-- One turn of the loop: an import is recorded, a new body is entered. [SRC lib.rs:765-785] -/
def turn (search : CallSearch) : Except Error CallSearch :=
  match search.pending with
  | [] => .ok search
  | current :: pending =>
      if current < importedFunctionCount then
        match functionImports[current.toNat]? with
        | some name =>
            .ok { search with
              pending := pending
              evidence := { search.evidence with
                hostImports := search.evidence.hostImports.insert name } }
        | none => .error (.callGraph "function import index is out of range")
      else if search.visited.contains current then
        .ok { search with pending := pending }
      else
        match functionBodies[(current - importedFunctionCount).toNat]? with
        | some body =>
            .ok {
              pending := body.directCalls ++ pending
              visited := search.visited.insert current
              evidence := { search.evidence with
                dynamicDispatchReachable :=
                  search.evidence.dynamicDispatchReachable || body.hasDynamicDispatch } }
        | none => .error (.callGraph "function body index is out of range")

/-- The loop has ended, or failed. -/
def halted : Except Error CallSearch → Bool
  | .ok search => search.pending.isEmpty
  | .error _ => true

/-- A failure ends the traversal. -/
def step : Except Error CallSearch → Except Error CallSearch
  | .ok search => search.turn importedFunctionCount functionImports functionBodies
  | .error failure => .error failure

/-- The state before the loop. [SRC lib.rs:741-764] -/
def initial (functionIndex : UInt32) : CallSearch where
  pending := [functionIndex]
  visited := ∅
  evidence := { hostImports := ∅, dynamicDispatchReachable := false }

/-- A bound on the number of turns: every body pushes its calls once. -/
def fuel : Nat := (functionBodies.map (·.directCalls.length)).sum + 2

end CallSearch

/-- What the calls from one function reach. [SRC lib.rs:756-787] -/
def collectExportCallEvidence (functionIndex importedFunctionCount : UInt32)
    (functionImports : List String) (functionBodies : List FunctionBodyCalls) :
    Except Error ExportCallEvidence := do
  let search ← runLoop CallSearch.halted
    (CallSearch.step importedFunctionCount functionImports functionBodies)
    (CallSearch.fuel functionBodies) (.ok (CallSearch.initial functionIndex))
  .ok search.evidence

/-- The call evidence of every exported function. [SRC lib.rs:688-754] -/
def inspectExportCallEvidence (payloads : List Payload) :
    Except Error (StringMap ExportCallEvidence) := do
  let functionImports := (importedFunctions payloads).map fun item => s!"{item.module}.{item.name}"
  let importedFunctionCount ← importIndex functionImports.length
  let result ← (functionExports payloads).toList.mapM fun (name, functionIndex) => do
    let evidence ← collectExportCallEvidence functionIndex importedFunctionCount functionImports
      (functionBodies payloads)
    .ok (name, evidence)
  .ok (Std.ExtTreeMap.ofList result compare)

/-! ### Artifacts -/

/-- A module has at most 16 MiB. [SRC lib.rs:260-265] -/
def requireArtifactSize (bytes : List UInt8) : Except Error Unit :=
  if maxArtifactSizeBytes < bytes.length then
    .error (.artifactTooLarge bytes.length maxArtifactSizeBytes)
  else .ok ()

/-- `Artifact::from_wasm`: size, validation, sections, metadata, imports and calls, then the entries
of the specification. [SRC lib.rs:259-456] -/
def Artifact.fromWasm (primitives : Primitives) (readers : WasmReaders) (bytes : List UInt8) :
    Except Error Artifact := do
  requireArtifactSize bytes
  let payloads ← readOr .wasm (readers.parseAll bytes)
  let sha256 := primitives.hexEncode (primitives.sha256 bytes)
  requireSingleContractSpecSection payloads
  let (envProtocolVersion, envPreRelease) ← readContractEnvMetadata readers payloads
  let spec ← readOr .spec (readers.specFromWasm bytes)
  let metadata ← readContractMetadata readers payloads
  let hostImports ← readHostImports payloads
  let exportCallEvidence ← inspectExportCallEvidence payloads
  let inventory ← extractSpec readers.texts spec
  .ok {
    formatVersion := 1
    sha256 := sha256
    sizeBytes := UInt64.ofNat bytes.length
    envProtocolVersion := envProtocolVersion
    envPreRelease := envPreRelease
    metadata := metadata
    hostImports := hostImports
    functions := inventory.functions
    events := inventory.events
    userTypes := inventory.userTypes
    publicTypeBoundaries := inventory.publicTypeBoundaries.toList
    typeReferences := inventory.typeReferences.toList
    exportCallEvidence := exportCallEvidence }

/-! ### Sample modules

Contracts with an upgrade and a migration function, written out as WASM bytes. -/

namespace Sample

/-- A 32-bit word of XDR. -/
def xdrWord (value : Nat) : List UInt8 := Sha256.bigEndian (UInt32.ofNat value)

/-- A string of XDR: length, bytes, padding. -/
def xdrString (text : String) : List UInt8 :=
  let bytes := utf8 text.toList
  xdrWord bytes.length ++ bytes ++ List.replicate ((4 - bytes.length % 4) % 4) 0

/-- A type with its XDR bytes. -/
abbrev TypeForm := ScSpecTypeDef × List UInt8

/-- The type `Address`. -/
def addressForm : TypeForm := (.address, xdrWord 19)

/-- The type `BytesN<32>`. -/
def wasmHashForm : TypeForm := (.bytesN 32, xdrWord 1006 ++ xdrWord 32)

/-- An optional value. -/
def optionForm (form : TypeForm) : TypeForm := (.option form.1, xdrWord 1000 ++ form.2)

/-- A function entry with its XDR bytes. -/
def functionForm (name : String) (inputs : List (String × TypeForm)) :
    ScSpecEntry × List UInt8 :=
  (.functionV0 {
    doc := []
    name := utf8 name.toList
    inputs := inputs.map fun (input, form) =>
      { doc := [], name := utf8 input.toList, type := form.1 }
    outputs := [] },
  xdrWord 0 ++ xdrString "" ++ xdrString name ++ xdrWord inputs.length ++
    (inputs.flatMap fun (input, form) => xdrString "" ++ xdrString input ++ form.2) ++ xdrWord 0)

/-- The standard `upgrade` entrypoint. -/
def upgradeForm : ScSpecEntry × List UInt8 :=
  functionForm "upgrade" [("new_wasm_hash", wasmHashForm), ("operator", addressForm)]

/-- A migration entrypoint with its operator. -/
def migrateForm : ScSpecEntry × List UInt8 := functionForm "migrate" [("operator", addressForm)]

/-- A length or index below 2^14 in LEB128. -/
def leb (value : Nat) : List UInt8 :=
  if value < 128 then [UInt8.ofNat value]
  else [UInt8.ofNat (value % 128 + 128), UInt8.ofNat (value / 128)]

/-- Contents after their length. -/
def prefixed (content : List UInt8) : List UInt8 := leb content.length ++ content

/-- A name of a module. -/
def wasmName (name : String) : List UInt8 := prefixed (utf8 name.toList)

/-- Function 0 is the host function that replaces the executable, function 1 calls
it and function 2 returns its argument. The exports are a choice of these. -/
structure WasmModule where
  binver : String
  spec : List (ScSpecEntry × List UInt8)
  exported : List (String × UInt32)

namespace WasmModule

/-- The version entry. -/
def metadata (module : WasmModule) : List UInt8 :=
  xdrWord 0 ++ xdrString "binver" ++ xdrString module.binver

/-- The interface version of protocol 27. -/
def envMetadata : List UInt8 := xdrWord 0 ++ xdrWord 27 ++ xdrWord 0

/-- The custom sections. -/
def customs (module : WasmModule) : List (String × List UInt8) := [
    ("contractspecv0", module.spec.flatMap (·.2)),
    ("contractenvmetav0", envMetadata),
    ("contractmetav0", module.metadata)]

/-- What a parser finds in the module. -/
def payloads (module : WasmModule) : List Payload :=
  [.other, .other, .importSection [⟨"l", "6", .func 0⟩], .other,
    .exportSection (module.exported.map fun (name, index) => ⟨name, .func, index⟩), .other,
    .codeSectionEntry [.other, .call 0, .other], .codeSectionEntry [.other, .other]] ++
  (module.customs.map fun (name, data) => .customSection name data) ++ [.other]

/-- The module in binary form. -/
def bytes (module : WasmModule) : List UInt8 :=
  [0x00, 0x61, 0x73, 0x6d, 0x01, 0x00, 0x00, 0x00] ++
  1 :: prefixed [2, 0x60, 1, 0x7e, 1, 0x7e, 0x60, 2, 0x7e, 0x7e, 1, 0x7e] ++
  2 :: prefixed (1 :: wasmName "l" ++ wasmName "6" ++ [0, 0]) ++
  3 :: prefixed [2, 1, 0] ++
  7 :: prefixed (leb module.exported.length ++
    module.exported.flatMap fun (name, index) => wasmName name ++ 0 :: leb index.toNat) ++
  10 :: prefixed (2 :: prefixed [0, 0x20, 0, 0x10, 0, 0x0b] ++ prefixed [0, 0x20, 0, 0x0b]) ++
  module.customs.flatMap fun (name, data) => 0 :: prefixed (wasmName name ++ data)

end WasmModule

/-- The samples hold ASCII names only. -/
def texts : XdrTexts where
  toUtf8StringLossy value := String.ofList (asciiText value)
  escaped value := String.ofList (asciiText value)

/-- The readers on the bytes of the given modules. -/
def readers (modules : List WasmModule) : WasmReaders where
  texts := texts
  parseAll bytes := (modules.find? (·.bytes == bytes)).map (·.payloads)
  specFromWasm bytes := (modules.find? (·.bytes == bytes)).map (·.spec.map (·.1))
  metaEntries raw := (modules.find? (·.metadata == raw)).map fun module =>
    [(utf8 "binver".toList, utf8 module.binver.toList)]
  envMetaEntries raw := if raw = WasmModule.envMetadata then some [(27, 0)] else none

/-- A first release. -/
def sourceModule : WasmModule where
  binver := "1.0.0"
  spec := [upgradeForm, migrateForm]
  exported := [("upgrade", 1), ("migrate", 2)]

/-- The next release with the same entrypoints. -/
def targetModule : WasmModule := { sourceModule with binver := "2.0.0" }

/-- The release after it. -/
def latestModule : WasmModule := { sourceModule with binver := "3.0.0" }

/-- A next release that keeps `migrate` in its specification but not as an export. -/
def hollowModule : WasmModule := { targetModule with exported := [("upgrade", 1)] }

/-- Releases whose `store` function takes a value below 64 options. -/
def deepModule (binver : String) : WasmModule where
  binver := binver
  spec := [upgradeForm, functionForm "store" [("value", optionForm^[64] (.u32, xdrWord 4))]]
  exported := [("upgrade", 1), ("store", 2)]

/-- All of these modules. -/
def releaseModules : List WasmModule :=
  [sourceModule, targetModule, latestModule, hollowModule, deepModule "1.0.0",
    deepModule "2.0.0"]

/-- The readers on all of these modules. -/
def releaseReaders : WasmReaders := readers releaseModules

end Sample

end SorobanUpgrades
