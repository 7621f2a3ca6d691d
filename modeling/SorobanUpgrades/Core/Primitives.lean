/-
Module: SorobanUpgrades.Core.Primitives
Purpose: The code outside the repository that the checker calls, as parameters,
  together with the text predicates and the secret scan built on them.
Trusted boundary: human-reviewed spec
Main exports: Primitives, Primitives.Lawful, Error, containsStellarPrivateKey
-/
import SorobanUpgrades.Library.TextScan
import SorobanUpgrades.Library.Semver
import SorobanUpgrades.Core.Serialize

namespace SorobanUpgrades

/-! ### Third-party functions -/

/-- Hashing, hex, strkey decoding and semantic-version parsing. -/
structure Primitives where
  sha256 : List UInt8 → List UInt8
  hexEncode : List UInt8 → String
  /-- `stellar_strkey::Contract::from_string` succeeds. -/
  contractFromString : String → Bool
  /-- `stellar_strkey::Strkey::from_string` reads an ed25519 private key. -/
  privateKeyFromString : String → Bool
  parseVersion : String → Option Version

/-- Whether a character belongs to the base32 alphabet of a strkey. -/
def isBase32 (character : Char) : Bool :=
  character.isUpper || ('2'.toNat ≤ character.toNat && character.toNat ≤ '7'.toNat)

/-- Whether a character is a lower-case hex digit. -/
def isLowerHex (character : Char) : Bool := character ∈ hexDigits

/-- What the third-party functions document about their texts. -/
structure Primitives.Lawful (primitives : Primitives) : Prop where
  /-- A strkey is base32 text, and the version byte of a private key makes its
  first character `S`. -/
  privateKey_base32 : ∀ text, primitives.privateKeyFromString text = true →
    text.toList.head? = some 'S' ∧ text.toList.all isBase32 = true
  /-- Hex encoding writes lower-case digits. -/
  hexEncode_lower : ∀ bytes, (primitives.hexEncode bytes).toList.all isLowerHex = true

namespace Primitives

variable (primitives : Primitives)

/-- The hex digest of a text in UTF-8. -/
def hexDigest (text : List Char) : String :=
  primitives.hexEncode (primitives.sha256 (utf8 text))

/-- The hex digest of the printed JSON form of a value. [SRC lib.rs:1225-1229] -/
def canonicalSha256 {α : Type} [JsonCodec α] (value : α) : String :=
  primitives.hexDigest (encode value).compact

end Primitives

/-! ### Errors -/

/-- Why a JSON document was refused. -/
inductive JsonError where
  | unreadable
  | duplicateKey (key : String)
  | unexpectedShape
deriving DecidableEq, Repr

/-- Why an artifact, a document or a plan is refused. The texts of readers outside the repository
are left out. [SRC lib.rs:34-70] -/
inductive Error where
  | artifactTooLarge (sizeBytes limitBytes : Nat)
  | spec
  | contractSpecSectionCount (count : Nat)
  | contractEnvMetaSectionCount (count : Nat)
  | contractEnvVersionCount (count : Nat)
  | duplicateSpecName (kind name : String)
  | duplicateSpecMember (kind owner name : String)
  | duplicateMetadataKey (key : String)
  | wasm
  | callGraph (detail : String)
  | xdr
  | json (detail : JsonError)
  | invalidContractId (contractId : String)
  | plan (detail : String)
deriving DecidableEq, Repr

/-! ### Text predicates -/

/-- The length of a text in bytes. -/
def byteLength (text : String) : Nat := text.utf8ByteSize

/-- `char::is_control`: the general category `Cc`. -/
def isControl (character : Char) : Bool :=
  character.toNat < 0x20 || (0x7f ≤ character.toNat && character.toNat < 0xa0)

/-- `char::is_whitespace`: the property `White_Space`. -/
def isWhitespace (character : Char) : Bool :=
  (0x09 ≤ character.toNat && character.toNat ≤ 0x0d) ||
    (0x2000 ≤ character.toNat && character.toNat ≤ 0x200a) ||
    [0x20, 0x85, 0xa0, 0x1680, 0x2028, 0x2029, 0x202f, 0x205f, 0x3000].contains character.toNat

/-- `str::trim`: a text without its leading and trailing white space. -/
def trim (text : List Char) : List Char :=
  ((text.dropWhile isWhitespace).reverse.dropWhile isWhitespace).reverse

theorem trim_eq_nil_iff {text : List Char} :
    trim text = [] ↔ ∀ character ∈ text, isWhitespace character = true := by
  rw [trim, List.reverse_eq_nil_iff, List.dropWhile_eq_nil_iff]
  constructor
  · intro blank character listed
    rw [← List.takeWhile_append_dropWhile (p := isWhitespace) (l := text)] at listed
    rcases List.mem_append.1 listed with early | late
    · exact List.mem_takeWhile_imp early
    · exact blank character (List.mem_reverse.2 late)
  · intro blank character listed
    exact blank character ((List.dropWhile_sublist _).mem (List.mem_reverse.1 listed))

/-- `join(", ")`. -/
def joined (texts : List String) : String := ", ".intercalate texts

/-! ### Secret scan -/

/-- `STELLAR_SECRET_SEED_LENGTH`. [SRC lib.rs:2972] -/
def stellarSecretSeedLength : Nat := 56

/-- Whether a window of bytes is a private key in text form. [SRC lib.rs:2978-2985] -/
def isPrivateKeyWindow (primitives : Primitives) (candidate : List UInt8) : Bool :=
  candidate.head? == some 83 && candidate.all isAscii &&
    primitives.privateKeyFromString (String.ofList (asciiText candidate))

/-- Some 56 bytes in a row spell a private key. [SRC lib.rs:2974-2986] -/
def containsStellarPrivateKey (primitives : Primitives) (value : List Char) : Bool :=
  (windows stellarSecretSeedLength (utf8 value)).any (isPrivateKeyWindow primitives)

end SorobanUpgrades
