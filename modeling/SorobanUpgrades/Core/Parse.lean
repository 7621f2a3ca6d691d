/-
Module: SorobanUpgrades.Core.Parse
Purpose: Strict JSON parsing: a visitor that refuses repeated object keys, then
  the typed reading of the document.
Trusted boundary: human-reviewed spec
Main exports: JsonReader, JsonReader.Lawful, UniqueJson.visit, parseJsonStrict
-/
import SorobanUpgrades.Core.Wasm

namespace SorobanUpgrades

/-! ### The JSON reader -/

/-- A JSON parser with its limit on nested arrays and objects. -/
structure JsonReader where
  read : List UInt8 → Option Json
  recursionLimit : Nat

/-- The bytes of a printed document with its final newline. -/
def printedBytes (tree : Json) : List UInt8 := utf8 (tree.pretty ++ ['\n'])

/-- A printed document is read back, unless it nests too deeply. -/
structure JsonReader.Lawful (reader : JsonReader) : Prop where
  read_printed : ∀ tree : Json,
    reader.read (printedBytes tree) = if tree.depth ≤ reader.recursionLimit then some tree else none

/-! ### Repeated keys -/

namespace UniqueJson

mutual

/-- Visit every value of a document and refuse an object that repeats a key. [SRC lib.rs:72-154] -/
def visit : Json → Except JsonError Unit
  | .array items => visitSeq items
  | .object members => visitMap ∅ members
  | _ => .ok ()

/-- The items of an array, in order. [SRC lib.rs:131-137] -/
def visitSeq : List Json → Except JsonError Unit
  | [] => .ok ()
  | item :: items => do
      visit item
      visitSeq items

/-- The members of an object. `keys` are the keys read before. [SRC lib.rs:139-153] -/
def visitMap (keys : StringSet) : List Member → Except JsonError Unit
  | [] => .ok ()
  | (key, value) :: members =>
      if keys.contains key then .error (.duplicateKey key)
      else do
        visit value
        visitMap (keys.insert key) members

end

end UniqueJson

/-! ### Typed documents -/

section Parsing

variable (reader : JsonReader)

/-- The typed reading alone. -/
def fromSlice {α : Type} [JsonCodec α] (bytes : List UInt8) : Except Error α := do
  let tree ← readOr (.json .unreadable) (reader.read bytes)
  readOr (.json .unexpectedShape) (decode tree)

/-- Read a document twice: once for repeated keys, then for its type. [SRC lib.rs:156-164] -/
def parseJsonStrict {α : Type} [JsonCodec α] (bytes : List UInt8) : Except Error α := do
  let tree ← readOr (.json .unreadable) (reader.read bytes)
  (UniqueJson.visit tree).mapError .json
  readOr (.json .unexpectedShape) (decode tree)

/-- `Policy::from_json`. The format version is not checked here. [SRC lib.rs:848-850] -/
def Policy.fromJson (bytes : List UInt8) : Except Error Policy := parseJsonStrict reader bytes

/-- `StorageSchema::from_json`. [SRC lib.rs:891-893] -/
def StorageSchema.fromJson (bytes : List UInt8) : Except Error StorageSchema :=
  parseJsonStrict reader bytes

/-- The history records the digest of the bytes it was read from. [SRC lib.rs:927-931] -/
def SchemaHistory.fromJson (primitives : Primitives) (bytes : List UInt8) :
    Except Error SchemaHistory := do
  let history : SchemaHistory ← parseJsonStrict reader bytes
  .ok { history with sourceSha256 := primitives.hexEncode (primitives.sha256 bytes) }

/-- `UpgradePlan::from_json`. [SRC lib.rs:2497-2499] -/
def UpgradePlan.fromJson (bytes : List UInt8) : Except Error UpgradePlan :=
  parseJsonStrict reader bytes

end Parsing

end SorobanUpgrades
