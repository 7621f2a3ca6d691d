/-
Module: SorobanUpgrades.Library.Json
Purpose: JSON trees with members in document order, and the key-sorted values
  a reader builds from them.
Trusted boundary: human-reviewed spec
Main exports: Number, Json, Json.get?, Json.pointer, Json.normalize, Json.UniqueKeys,
  Json.strings, Json.depth, Value, Json.toValue
-/
import SorobanUpgrades.Library.Ordered

namespace SorobanUpgrades

/-- Characters a JSON number is written with. -/
def isNumberChar (character : Char) : Bool :=
  character.isDigit || character ∈ ['+', '-', '.', 'e', 'E']

/-- The exact token of a number that is not an integer. The fraction or
exponent mark keeps it apart from every integer token. -/
structure FloatToken where
  text : List Char
  numeric : text.all isNumberChar = true
  marked : text.any (fun character => character ∈ ['.', 'e', 'E']) = true
deriving DecidableEq, Repr

/-- A JSON number, taken as an exact token. -/
inductive Number where
  | integer (value : Int)
  | float (token : FloatToken)
deriving DecidableEq, Repr

/-- A JSON document tree. Object members stand in document order and a key may
occur twice, since that is what a reader meets in a text. -/
inductive Json where
  | null
  | bool (value : Bool)
  | number (value : Number)
  | string (value : String)
  | array (items : List Json)
  | object (members : List (String × Json))
deriving Repr, Inhabited

/-- An object member. -/
abbrev Member := String × Json

namespace Json

mutual

/-- Structural equality test. -/
def same : Json → Json → Bool
  | .null, .null => true
  | .bool left, .bool right => left == right
  | .number left, .number right => left == right
  | .string left, .string right => left == right
  | .array left, .array right => sameItems left right
  | .object left, .object right => sameMembers left right
  | _, _ => false

/-- Equal items in order. -/
def sameItems : List Json → List Json → Bool
  | [], [] => true
  | left :: lefts, right :: rights => same left right && sameItems lefts rights
  | _, _ => false

/-- Equal members in order. -/
def sameMembers : List Member → List Member → Bool
  | [], [] => true
  | (leftKey, left) :: lefts, (rightKey, right) :: rights =>
      leftKey == rightKey && same left right && sameMembers lefts rights
  | _, _ => false

end

mutual

theorem same_iff_eq : ∀ left right : Json, same left right = true ↔ left = right
  | .null, right => by cases right <;> simp [same]
  | .bool _, right => by cases right <;> simp [same]
  | .number _, right => by cases right <;> simp [same]
  | .string _, right => by cases right <;> simp [same]
  | .array items, right => by
      cases right with
      | array others => simp [same, sameItems_iff_eq items others]
      | _ => simp [same]
  | .object members, right => by
      cases right with
      | object others => simp [same, sameMembers_iff_eq members others]
      | _ => simp [same]

theorem sameItems_iff_eq : ∀ left right : List Json, sameItems left right = true ↔ left = right
  | [], right => by cases right <;> simp [sameItems]
  | item :: items, right => by
      cases right with
      | nil => simp [sameItems]
      | cons other others =>
          simp [sameItems, same_iff_eq item other, sameItems_iff_eq items others]

theorem sameMembers_iff_eq :
    ∀ left right : List Member, sameMembers left right = true ↔ left = right
  | [], right => by cases right <;> simp [sameMembers]
  | (key, value) :: members, right => by
      cases right with
      | nil => simp [sameMembers]
      | cons other others =>
          obtain ⟨otherKey, otherValue⟩ := other
          simp [sameMembers, same_iff_eq value otherValue, sameMembers_iff_eq members others]

end

instance : DecidableEq Json := fun left right =>
  decidable_of_iff _ (same_iff_eq left right)

/-! ### Reading a tree -/

/-- The array items, when the tree is an array. -/
def asArray : Json → Option (List Json)
  | .array items => some items
  | _ => none

/-- The text, when the tree is a string. -/
def asStr : Json → Option String
  | .string value => some value
  | _ => none

/-- The object members, when the tree is an object. -/
def asObject : Json → Option (List Member)
  | .object members => some members
  | _ => none

/-- The value of an object member. -/
def get? (key : String) : Json → Option Json
  | .object members => members.lookup key
  | _ => none

/-- An array position written without sign or leading zeros. -/
def arrayIndex (token : String) : Option Nat :=
  match token.toNat? with
  | some position => if toString position = token then some position else none
  | none => none

/-- Follow a JSON pointer, given as its list of reference tokens. -/
def pointer : List String → Json → Option Json
  | [], tree => some tree
  | token :: tokens, .object members =>
      match members.lookup token with
      | some tree => pointer tokens tree
      | none => none
  | token :: tokens, .array items =>
      match (arrayIndex token).bind (items[·]?) with
      | some tree => pointer tokens tree
      | none => none
  | _ :: _, _ => none

/-! ### Measures of a tree -/

mutual

/-- Nesting depth: the number of arrays and objects around the deepest value. -/
def depth : Json → Nat
  | .array items => depthItems items + 1
  | .object members => depthMembers members + 1
  | _ => 0

/-- The greatest depth of the items. -/
def depthItems : List Json → Nat
  | [] => 0
  | item :: items => max item.depth (depthItems items)

/-- The greatest depth of the members' values. -/
def depthMembers : List Member → Nat
  | [] => 0
  | (_, value) :: members => max value.depth (depthMembers members)

end

mutual

/-- Every string value and every key of a tree, in document order. -/
def strings : Json → List String
  | .string value => [value]
  | .array items => stringsItems items
  | .object members => stringsMembers members
  | _ => []

/-- The strings of all items. -/
def stringsItems : List Json → List String
  | [] => []
  | item :: items => item.strings ++ stringsItems items

/-- The keys and strings of all members. -/
def stringsMembers : List Member → List String
  | [] => []
  | (key, value) :: members => key :: (value.strings ++ stringsMembers members)

end

theorem stringsMembers_eq_flatMap (members : List Member) :
    stringsMembers members = members.flatMap fun member => member.1 :: member.2.strings := by
  induction members with
  | nil => rfl
  | cons member members inductionHypothesis =>
      obtain ⟨key, value⟩ := member
      simp [stringsMembers, inductionHypothesis]

/-- The strings of a member are strings of the object. -/
theorem mem_strings_of_member (before : List Member) {after : List Member} {key text : String} {value : Json}
    (listed : text ∈ value.strings) :
    text ∈ (Json.object (before ++ (key, value) :: after)).strings := by
  simp only [strings, stringsMembers_eq_flatMap, List.flatMap_append, List.flatMap_cons,
    List.mem_append, List.mem_cons]
  tauto

/-- Another value of one member brings in the strings of this value only. -/
theorem mem_strings_replace (before : List Member) {after : List Member} {key text : String} {new : Json}
    (old : Json) (listed : text ∈ (Json.object (before ++ (key, new) :: after)).strings) :
    text ∈ new.strings ∨ text ∈ (Json.object (before ++ (key, old) :: after)).strings := by
  simp only [strings, stringsMembers_eq_flatMap, List.flatMap_append, List.flatMap_cons,
    List.mem_append, List.mem_cons] at listed ⊢
  tauto

mutual

/-- No object of the tree repeats a key. -/
def UniqueKeys : Json → Prop
  | .array items => UniqueKeysItems items
  | .object members => (keysOf members).Nodup ∧ UniqueKeysMembers members
  | _ => True

/-- Every item has unique keys. -/
def UniqueKeysItems : List Json → Prop
  | [] => True
  | item :: items => item.UniqueKeys ∧ UniqueKeysItems items

/-- Every member's value has unique keys. -/
def UniqueKeysMembers : List Member → Prop
  | [] => True
  | (_, value) :: members => value.UniqueKeys ∧ UniqueKeysMembers members

end

theorem uniqueKeysItems_iff {items : List Json} :
    UniqueKeysItems items ↔ ∀ item ∈ items, item.UniqueKeys := by
  induction items with
  | nil => simp [UniqueKeysItems]
  | cons item items inductionHypothesis => simp [UniqueKeysItems, inductionHypothesis]

theorem uniqueKeysMembers_iff {members : List Member} :
    UniqueKeysMembers members ↔ ∀ key value, (key, value) ∈ members → value.UniqueKeys := by
  induction members with
  | nil => simp [UniqueKeysMembers]
  | cons member members inductionHypothesis =>
      obtain ⟨head, headValue⟩ := member
      constructor
      · rintro ⟨first, rest⟩ key value listed
        rcases List.mem_cons.1 listed with equal | later
        · cases equal
          exact first
        · exact inductionHypothesis.1 rest key value later
      · intro all
        exact ⟨all head headValue List.mem_cons_self,
          inductionHypothesis.2 fun key value listed =>
            all key value (List.mem_cons_of_mem _ listed)⟩

@[simp] theorem uniqueKeys_array {items : List Json} :
    (Json.array items).UniqueKeys ↔ ∀ item ∈ items, item.UniqueKeys := by
  rw [UniqueKeys, uniqueKeysItems_iff]

@[simp] theorem uniqueKeys_object {members : List Member} :
    (Json.object members).UniqueKeys ↔
      (keysOf members).Nodup ∧ ∀ key value, (key, value) ∈ members → value.UniqueKeys := by
  rw [UniqueKeys, uniqueKeysMembers_iff]

/-- A value stands at some depth of a tree. -/
inductive OccursIn (value : Json) : Json → Prop where
  | here : OccursIn value value
  | item {items : List Json} {item : Json} (listed : item ∈ items)
      (inside : OccursIn value item) : OccursIn value (.array items)
  | member {members : List Member} {key : String} {child : Json}
      (listed : (key, child) ∈ members) (inside : OccursIn value child) :
      OccursIn value (.object members)

/-- Some object, at any depth, has two members of one key. -/
def RepeatsKey (tree : Json) : Prop :=
  ∃ members, OccursIn (.object members) tree ∧ ¬ (keysOf members).Nodup

theorem UniqueKeys.of_occursIn {value tree : Json} (unique : tree.UniqueKeys)
    (occurs : OccursIn value tree) : value.UniqueKeys := by
  induction occurs with
  | here => exact unique
  | item listed _ inductionHypothesis =>
      exact inductionHypothesis (uniqueKeys_array.1 unique _ listed)
  | member listed _ inductionHypothesis =>
      exact inductionHypothesis ((uniqueKeys_object.1 unique).2 _ _ listed)

mutual

theorem uniqueKeys_of_not_repeatsKey : ∀ tree : Json, ¬ tree.RepeatsKey → tree.UniqueKeys
  | .null, _ | .bool _, _ | .number _, _ | .string _, _ => by simp [UniqueKeys]
  | .array items, distinct => by
      rw [UniqueKeys]
      exact uniqueKeysItems_of_not_repeatsKey items fun item listed ⟨members, occurs, repeated⟩ =>
        distinct ⟨members, .item listed occurs, repeated⟩
  | .object members, distinct => by
      rw [UniqueKeys]
      refine ⟨by_contra fun repeated => distinct ⟨members, .here, repeated⟩, ?_⟩
      exact uniqueKeysMembers_of_not_repeatsKey members
        fun key child listed ⟨inner, occurs, repeated⟩ =>
          distinct ⟨inner, .member listed occurs, repeated⟩

theorem uniqueKeysItems_of_not_repeatsKey : ∀ items : List Json,
    (∀ item ∈ items, ¬ item.RepeatsKey) → UniqueKeysItems items
  | [], _ => trivial
  | item :: items, distinct => by
      obtain ⟨first, rest⟩ := List.forall_mem_cons.1 distinct
      exact ⟨uniqueKeys_of_not_repeatsKey item first, uniqueKeysItems_of_not_repeatsKey items rest⟩

theorem uniqueKeysMembers_of_not_repeatsKey : ∀ members : List Member,
    (∀ key child, (key, child) ∈ members → ¬ child.RepeatsKey) → UniqueKeysMembers members
  | [], _ => trivial
  | (key, child) :: members, distinct =>
      ⟨uniqueKeys_of_not_repeatsKey child (distinct key child List.mem_cons_self),
        uniqueKeysMembers_of_not_repeatsKey members fun other inner listed =>
          distinct other inner (List.mem_cons_of_mem _ listed)⟩

end

/-- The recursive check looks at every object of the tree. -/
theorem uniqueKeys_iff_not_repeatsKey {tree : Json} : tree.UniqueKeys ↔ ¬ tree.RepeatsKey := by
  refine ⟨?_, uniqueKeys_of_not_repeatsKey tree⟩
  rintro unique ⟨members, occurs, repeated⟩
  exact repeated (uniqueKeys_object.1 (unique.of_occursIn occurs)).1

/-! ### Normal form

A reader that keeps objects in a sorted map forgets the member order and keeps
the last of two members with one key. -/

/-- Collect members into key order, the last one of a key winning. -/
def sortMembers {ν : Type} (members : List (String × ν)) : List (String × ν) :=
  (Std.ExtTreeMap.ofList members compare).toList

mutual

/-- Sort the members of every object. -/
def normalize : Json → Json
  | .array items => .array (normalizeItems items)
  | .object members => .object (sortMembers (normalizeMembers members))
  | .null => .null
  | .bool value => .bool value
  | .number value => .number value
  | .string value => .string value

/-- Each item normalized. -/
def normalizeItems : List Json → List Json
  | [] => []
  | item :: items => item.normalize :: normalizeItems items

/-- Each member's value normalized. -/
def normalizeMembers : List Member → List Member
  | [] => []
  | (key, value) :: members => (key, value.normalize) :: normalizeMembers members

end

theorem normalizeItems_eq_map (items : List Json) :
    normalizeItems items = items.map normalize := by
  induction items with
  | nil => rfl
  | cons item items inductionHypothesis => simp [normalizeItems, inductionHypothesis]

theorem normalizeMembers_eq_map (members : List Member) :
    normalizeMembers members = members.map fun member => (member.1, member.2.normalize) := by
  induction members with
  | nil => rfl
  | cons member members inductionHypothesis =>
      obtain ⟨key, value⟩ := member
      simp [normalizeMembers, inductionHypothesis]

theorem normalize_array (items : List Json) :
    (Json.array items).normalize = .array (items.map normalize) := by
  rw [normalize, normalizeItems_eq_map]

theorem normalize_object (members : List Member) :
    (Json.object members).normalize =
      .object (sortMembers (members.map fun member => (member.1, member.2.normalize))) := by
  rw [normalize, normalizeMembers_eq_map]

section SortMembers

variable {ν : Type}

theorem nodup_keysOf_sortMembers (members : List (String × ν)) :
    (keysOf (sortMembers members)).Nodup :=
  OrderedMap.nodup_keysOf_toList _

theorem lookup_sortMembers (members : List (String × ν)) (key : String) :
    (sortMembers members).lookup key = members.reverse.lookup key := by
  rw [sortMembers, OrderedMap.lookup_toList, OrderedMap.getElem?_ofList]

theorem lookup_sortMembers_of_nodup {members : List (String × ν)}
    (distinct : (keysOf members).Nodup) (key : String) :
    (sortMembers members).lookup key = members.lookup key := by
  rw [sortMembers, OrderedMap.lookup_toList, OrderedMap.getElem?_ofList_of_nodup distinct]

theorem mem_of_mem_sortMembers {members : List (String × ν)} {member : String × ν}
    (listed : member ∈ sortMembers members) : member ∈ members := by
  obtain ⟨key, value⟩ := member
  rw [← lookup_eq_some_iff_mem (nodup_keysOf_sortMembers members), lookup_sortMembers] at listed
  exact List.mem_reverse.1 (mem_of_lookup_eq_some listed)

theorem sortMembers_sortMembers (members : List (String × ν)) :
    sortMembers (sortMembers members) = sortMembers members := by
  rw [sortMembers, sortMembers, OrderedMap.ofList_toList]

/-- Sorted member lists are equal as soon as all lookups agree. -/
theorem sortMembers_eq_of_lookup {left right : List (String × ν)}
    (agree : ∀ key, (sortMembers left).lookup key = (sortMembers right).lookup key) :
    sortMembers left = sortMembers right := by
  have maps : Std.ExtTreeMap.ofList left compare = Std.ExtTreeMap.ofList right compare := by
    apply Std.ExtTreeMap.ext_getElem?
    intro key
    simpa [sortMembers, OrderedMap.lookup_toList] using agree key
  rw [sortMembers, sortMembers, maps]

/-- The value of a key that a filter keeps. -/
theorem lookup_filter_of_keep {members : List (String × ν)} {keep : String → Bool} {key : String}
    (kept : keep key = true) :
    (members.filter (keep ·.1)).lookup key = members.lookup key := by
  induction members with
  | nil => rfl
  | cons member members inductionHypothesis =>
      obtain ⟨head, value⟩ := member
      rw [List.lookup_cons]
      by_cases same : key = head
      · subst same
        simp [kept]
      · rw [beq_eq_false_iff_ne.2 same, ← inductionHypothesis, List.filter_cons]
        split
        · rw [List.lookup_cons, beq_eq_false_iff_ne.2 same]
        · rfl

/-- Sorted members agree under a filter exactly when they agree on the kept keys. -/
theorem filter_sortMembers_eq_iff {left right : List (String × ν)} (keep : String → Bool) :
    (sortMembers left).filter (keep ·.1) = (sortMembers right).filter (keep ·.1) ↔
      ∀ key, keep key = true → (sortMembers left).lookup key = (sortMembers right).lookup key := by
  constructor
  · intro equal key kept
    rw [← lookup_filter_of_keep kept, equal, lookup_filter_of_keep kept]
  · intro agree
    have maps : (Std.ExtTreeMap.ofList left compare).filter (fun key _ => keep key) =
        (Std.ExtTreeMap.ofList right compare).filter (fun key _ => keep key) := by
      apply Std.ExtTreeMap.ext_getElem?
      intro key
      rw [Std.ExtTreeMap.getElem?_filter', Std.ExtTreeMap.getElem?_filter']
      cases kept : keep key with
      | false => simp
      | true =>
          have same := agree key kept
          rw [sortMembers, sortMembers, OrderedMap.lookup_toList,
            OrderedMap.lookup_toList] at same
          rw [same]
    have lists := congrArg Std.ExtTreeMap.toList maps
    rwa [Std.ExtTreeMap.toList_filter, Std.ExtTreeMap.toList_filter] at lists

end SortMembers

mutual

theorem normalize_normalize : ∀ tree : Json, tree.normalize.normalize = tree.normalize
  | .null | .bool _ | .number _ | .string _ => by simp [normalize]
  | .array items => by
      rw [normalize_array, normalize_array, List.map_map]
      exact congrArg Json.array
        (List.map_congr_left fun item listed => normalize_normalizeItems items item listed)
  | .object members => by
      rw [normalize_object, normalize_object]
      have fixed : (sortMembers (members.map fun member => (member.1, member.2.normalize))).map
          (fun member => (member.1, member.2.normalize)) =
          sortMembers (members.map fun member => (member.1, member.2.normalize)) := by
        refine (List.map_congr_left fun member listed => ?_).trans (List.map_id _)
        obtain ⟨source, original, rfl⟩ := List.mem_map.1 (mem_of_mem_sortMembers listed)
        exact congrArg (Prod.mk source.1)
          (normalize_normalizeMembers members source original)
      rw [fixed, sortMembers_sortMembers]

theorem normalize_normalizeItems :
    ∀ items : List Json, ∀ item ∈ items, item.normalize.normalize = item.normalize
  | [], _, listed => by cases listed
  | head :: items, item, listed => by
      rcases List.mem_cons.1 listed with equal | later
      · rw [equal, normalize_normalize head]
      · exact normalize_normalizeItems items item later

theorem normalize_normalizeMembers :
    ∀ members : List Member, ∀ member ∈ members,
      member.2.normalize.normalize = member.2.normalize
  | [], _, listed => by cases listed
  | (key, value) :: members, member, listed => by
      rcases List.mem_cons.1 listed with equal | later
      · rw [equal]
        exact normalize_normalize value
      · exact normalize_normalizeMembers members member later

end

mutual

theorem uniqueKeys_normalize : ∀ tree : Json, tree.normalize.UniqueKeys
  | .null | .bool _ | .number _ | .string _ => by simp [normalize, UniqueKeys]
  | .array items => by
      rw [normalize_array, uniqueKeys_array]
      intro item listed
      obtain ⟨original, member, rfl⟩ := List.mem_map.1 listed
      exact uniqueKeys_normalizeItems items original member
  | .object members => by
      rw [normalize_object, uniqueKeys_object]
      refine ⟨nodup_keysOf_sortMembers _, fun key value listed => ?_⟩
      obtain ⟨member, original, equal⟩ := List.mem_map.1 (mem_of_mem_sortMembers listed)
      cases equal
      exact uniqueKeys_normalizeMembers members member original

theorem uniqueKeys_normalizeItems :
    ∀ items : List Json, ∀ item ∈ items, item.normalize.UniqueKeys
  | [], _, listed => by cases listed
  | head :: items, item, listed => by
      rcases List.mem_cons.1 listed with equal | later
      · rw [equal]
        exact uniqueKeys_normalize head
      · exact uniqueKeys_normalizeItems items item later

theorem uniqueKeys_normalizeMembers :
    ∀ members : List Member, ∀ member ∈ members, member.2.normalize.UniqueKeys
  | [], _, listed => by cases listed
  | (key, value) :: members, member, listed => by
      rcases List.mem_cons.1 listed with equal | later
      · rw [equal]
        exact uniqueKeys_normalize value
      · exact uniqueKeys_normalizeMembers members member later

end

/-- A tree is canonical when every object lists its members in key order. -/
def Canonical (tree : Json) : Prop := tree.normalize = tree

instance (tree : Json) : Decidable tree.Canonical :=
  inferInstanceAs (Decidable (tree.normalize = tree))

theorem Canonical.uniqueKeys {tree : Json} (canonical : tree.Canonical) : tree.UniqueKeys := by
  rw [← canonical]
  exact uniqueKeys_normalize tree

end Json

/-- A JSON value as a reader holds it: objects are sorted maps. -/
structure Value where
  json : Json
  canonical : json.Canonical
deriving DecidableEq, Repr

namespace Value

theorem ext {left right : Value} (equal : left.json = right.json) : left = right := by
  cases left
  cases right
  cases equal
  rfl

/-- The compact literal `null`. -/
instance : Inhabited Value := ⟨⟨.null, rfl⟩⟩

end Value

/-- Read a document tree into a value. -/
def Json.toValue (tree : Json) : Value := ⟨tree.normalize, Json.normalize_normalize tree⟩

@[simp] theorem Json.toValue_json (tree : Json) : tree.toValue.json = tree.normalize := rfl

end SorobanUpgrades
