/-
Module: SorobanUpgrades.Proofs.StrictParsing
Purpose: Strict parsing accepts the documents without repeated keys that the
  typed reading accepts, and reads printed values back.
Trusted boundary: none
Main exports: UniqueJson.visit_eq_ok_iff, parseJsonStrict_eq_ok_iff,
  parseJsonStrict_printed
-/
import SorobanUpgrades.Library.Outcome
import SorobanUpgrades.Core.Parse

namespace SorobanUpgrades

open Outcome (bind_eq_ok_iff seq_eq_ok_iff)

@[simp] theorem readOr_eq_ok_iff {α : Type} {failure : Error} {read : Option α} {value : α} :
    readOr failure read = .ok value ↔ read = some value := by
  cases read <;> simp [readOr]

/-! ### Repeated keys -/

namespace UniqueJson

mutual

/-- The visitor accepts exactly the documents in which no object repeats a key. -/
theorem visit_eq_ok_iff : ∀ tree : Json, visit tree = .ok () ↔ tree.UniqueKeys
  | .null | .bool _ | .number _ | .string _ => by simp [visit, Json.UniqueKeys]
  | .array items => by rw [visit, Json.UniqueKeys, visitSeq_eq_ok_iff]
  | .object members => by
      rw [visit, Json.UniqueKeys, visitMap_eq_ok_iff]
      simp

theorem visitSeq_eq_ok_iff :
    ∀ items : List Json, visitSeq items = .ok () ↔ Json.UniqueKeysItems items
  | [] => by simp [visitSeq, Json.UniqueKeysItems]
  | item :: items => by
      rw [visitSeq, seq_eq_ok_iff, visit_eq_ok_iff item, visitSeq_eq_ok_iff items,
        Json.UniqueKeysItems]

/-- The keys seen so far are kept apart from the keys to come. -/
theorem visitMap_eq_ok_iff : ∀ (members : List Member) (keys : StringSet),
    visitMap keys members = .ok () ↔
      ((∀ key ∈ keysOf members, keys.contains key = false) ∧ (keysOf members).Nodup) ∧
        Json.UniqueKeysMembers members
  | [], keys => by simp [visitMap, Json.UniqueKeysMembers]
  | (key, value) :: members, keys => by
      rw [visitMap, keysOf_cons, List.forall_mem_cons, List.nodup_cons, Json.UniqueKeysMembers]
      cases seen : keys.contains key with
      | true => simp
      | false =>
          rw [if_neg (by simp), seq_eq_ok_iff, visit_eq_ok_iff value,
            visitMap_eq_ok_iff members (keys.insert key)]
          have later : (∀ other ∈ keysOf members, (keys.insert key).contains other = false) ↔
              key ∉ keysOf members ∧ ∀ other ∈ keysOf members, keys.contains other = false := by
            simp only [Std.ExtTreeSet.contains_insert, Bool.or_eq_false_iff, forall_and]
            refine and_congr_left fun _ => ?_
            simp only [beq_eq_false_iff_ne, ne_eq, Std.compare_eq_iff_eq]
            exact ⟨fun apart listed => apart key listed rfl,
              fun absent other listed same => absent (same ▸ listed)⟩
          rw [later]
          tauto

end

end UniqueJson

/-! ### Typed documents -/

section Parsing

variable {reader : JsonReader} {α : Type} [JsonCodec α]

/-- A strict parse is a typed reading of a document without repeated keys. -/
theorem parseJsonStrict_eq_ok_iff {bytes : List UInt8} {value : α} :
    parseJsonStrict reader bytes = .ok value ↔
      ∃ tree, reader.read bytes = some tree ∧ tree.UniqueKeys ∧ decode tree = some value := by
  have lifted : ∀ outcome : Except JsonError Unit,
      outcome.mapError Error.json = .ok () ↔ outcome = .ok () := by
    intro outcome
    cases outcome <;> simp [Except.mapError]
  rw [parseJsonStrict, bind_eq_ok_iff]
  simp only [readOr_eq_ok_iff, seq_eq_ok_iff, lifted, UniqueJson.visit_eq_ok_iff]

/-- A printed value is read back exactly when its document is not nested too deeply. -/
theorem parseJsonStrict_printed (lawful : reader.Lawful) {value other : α} :
    parseJsonStrict reader (printedBytes (encode value)) = .ok other ↔
      (encode value).depth ≤ reader.recursionLimit ∧ value = other := by
  rw [parseJsonStrict_eq_ok_iff, lawful.read_printed]
  constructor
  · rintro ⟨tree, read, _, decoded⟩
    split at read
    case isTrue shallow =>
      cases read
      rw [decode_encode, Option.some.injEq] at decoded
      exact ⟨shallow, decoded⟩
    case isFalse => cases read
  · rintro ⟨shallow, rfl⟩
    exact ⟨_, if_pos shallow, uniqueKeys_encode value, decode_encode value⟩

end Parsing

/-! ### Ambiguous documents -/

namespace UniqueJson

mutual

/-- The visitor fails for no other reason than a repeated key. -/
theorem visit_eq_ok_or_duplicateKey : ∀ tree : Json,
    visit tree = .ok () ∨ ∃ key, visit tree = .error (.duplicateKey key)
  | .null | .bool _ | .number _ | .string _ => by simp [visit]
  | .array items => by
      rw [visit]
      exact visitSeq_eq_ok_or_duplicateKey items
  | .object members => by
      rw [visit]
      exact visitMap_eq_ok_or_duplicateKey members ∅

theorem visitSeq_eq_ok_or_duplicateKey : ∀ items : List Json,
    visitSeq items = .ok () ∨ ∃ key, visitSeq items = .error (.duplicateKey key)
  | [] => Or.inl rfl
  | item :: items => by
      rw [visitSeq]
      rcases visit_eq_ok_or_duplicateKey item with passed | ⟨key, refused⟩
      · rw [passed]
        exact visitSeq_eq_ok_or_duplicateKey items
      · rw [refused]
        exact Or.inr ⟨key, rfl⟩

theorem visitMap_eq_ok_or_duplicateKey : ∀ (members : List Member) (keys : StringSet),
    visitMap keys members = .ok () ∨ ∃ key, visitMap keys members = .error (.duplicateKey key)
  | [], _ => Or.inl rfl
  | (key, value) :: members, keys => by
      rw [visitMap]
      by_cases seen : keys.contains key = true
      · rw [if_pos seen]
        exact Or.inr ⟨key, rfl⟩
      · rw [if_neg seen]
        rcases visit_eq_ok_or_duplicateKey value with passed | ⟨inner, refused⟩
        · rw [passed]
          exact visitMap_eq_ok_or_duplicateKey members (keys.insert key)
        · rw [refused]
          exact Or.inr ⟨inner, rfl⟩

end

end UniqueJson

/-- A readable document passes through the visitor and then the typed reading. -/
theorem parseJsonStrict_of_read {reader : JsonReader} {α : Type} [JsonCodec α]
    {bytes : List UInt8} {tree : Json} (read : reader.read bytes = some tree) :
    parseJsonStrict (α := α) reader bytes =
      ((UniqueJson.visit tree).mapError Error.json >>= fun _ => fromSlice reader bytes) := by
  rw [parseJsonStrict, fromSlice, read]
  rfl

/-- A document is refused when an object in it, at any depth, repeats a key. Any other
document is read as the typed reading alone reads it. -/
theorem parseJsonStrict_ambiguous (reader : JsonReader) {α : Type} [JsonCodec α]
    (bytes : List UInt8) (tree : Json) (read : reader.read bytes = some tree) :
    (tree.RepeatsKey → ∃ key, parseJsonStrict (α := α) reader bytes =
      .error (.json (.duplicateKey key))) ∧
    (¬ tree.RepeatsKey → parseJsonStrict (α := α) reader bytes = fromSlice reader bytes) := by
  constructor
  · intro repeats
    have refused : ¬ UniqueJson.visit tree = .ok () := by
      rw [UniqueJson.visit_eq_ok_iff, Json.uniqueKeys_iff_not_repeatsKey, not_not]
      exact repeats
    obtain ⟨key, duplicate⟩ :=
      (UniqueJson.visit_eq_ok_or_duplicateKey tree).resolve_left refused
    refine ⟨key, ?_⟩
    rw [parseJsonStrict_of_read read, duplicate]
    rfl
  · intro distinct
    have passed : UniqueJson.visit tree = .ok () := by
      rw [UniqueJson.visit_eq_ok_iff, Json.uniqueKeys_iff_not_repeatsKey]
      exact distinct
    rw [parseJsonStrict_of_read read, passed]
    rfl

namespace Sample

/-- A policy that relaxes one rule in its first member and keeps it in the second. -/
def ambiguousPolicy : Json :=
  .object [("denyRemovedFunctions", .bool false), ("denyRemovedFunctions", .bool true)]

def laxPolicy : Json := .object [("denyRemovedFunctions", .bool false)]

/-- The reader on these two documents. -/
def policyReader : JsonReader where
  read bytes := [ambiguousPolicy, laxPolicy].find? (printedBytes · = bytes)
  recursionLimit := 127

end Sample

/-- The policy that names a rule twice is refused, the other is read with its one rule. -/
theorem samplePolicy_ambiguous :
    (∃ key, Policy.fromJson Sample.policyReader (printedBytes Sample.ambiguousPolicy) =
      .error (.json (.duplicateKey key))) ∧
    Policy.fromJson Sample.policyReader (printedBytes Sample.laxPolicy) =
      .ok { Policy.default with denyRemovedFunctions := false } := by
  constructor
  · refine (parseJsonStrict_ambiguous Sample.policyReader _ Sample.ambiguousPolicy
      (by decide +kernel)).1 ⟨_, .here, by decide +kernel⟩
  · have distinct : Sample.laxPolicy.UniqueKeys := by simp [Sample.laxPolicy, Json.UniqueKeys]
    refine ((parseJsonStrict_ambiguous Sample.policyReader _ Sample.laxPolicy
      (by decide +kernel)).2 (Json.uniqueKeys_iff_not_repeatsKey.1 distinct)).trans ?_
    decide +kernel

end SorobanUpgrades
