/-
Module: SorobanUpgrades.Library.JsonLayout
Purpose: Trees whose objects have known member orders. Such a tree is determined by
  its key-sorted value, although the value forgets the order.
Trusted boundary: none
Main exports: Json.LaidOut, Json.Separated, Json.LaidOut.eq_of_normalize_eq,
  Json.filter_sortMembers, Json.map_sortMembers, Json.get?_normalize_object,
  Json.pointer_normalize_object
-/
import SorobanUpgrades.Library.Json

namespace SorobanUpgrades.Json

/-! ### Sorting and other passes over members -/

section Members

variable {ν μ : Type}

theorem filter_sortMembers (keep : String → Bool) (members : List (String × ν)) :
    (sortMembers members).filter (keep ·.1) = sortMembers (members.filter (keep ·.1)) := by
  have maps : (Std.ExtTreeMap.ofList members compare).filter (fun key _ => keep key) =
      Std.ExtTreeMap.ofList (members.filter (keep ·.1)) compare := by
    apply Std.ExtTreeMap.ext_getElem?
    intro key
    rw [Std.ExtTreeMap.getElem?_filter', OrderedMap.getElem?_ofList, OrderedMap.getElem?_ofList,
      ← List.filter_reverse]
    cases kept : keep key with
    | true =>
        rw [lookup_filter_of_keep kept]
        cases members.reverse.lookup key <;> rfl
    | false =>
        have dropped : key ∉ keysOf (members.reverse.filter (keep ·.1)) := by
          simp [keysOf, kept]
        rw [lookup_eq_none_iff_not_mem.2 dropped]
        simp
  rw [sortMembers, sortMembers, ← maps, Std.ExtTreeMap.toList_filter]

theorem map_sortMembers (f : ν → μ) (members : List (String × ν)) :
    (sortMembers members).map (fun member => (member.1, f member.2)) =
      sortMembers (members.map fun member => (member.1, f member.2)) := by
  have maps : (Std.ExtTreeMap.ofList members compare).map (fun _ value => f value) =
      Std.ExtTreeMap.ofList (members.map fun member => (member.1, f member.2)) compare := by
    apply Std.ExtTreeMap.ext_getElem?
    intro key
    rw [Std.ExtTreeMap.getElem?_map, OrderedMap.getElem?_ofList, OrderedMap.getElem?_ofList,
      ← List.map_reverse, lookup_mapSnd]
  rw [sortMembers, sortMembers, ← maps, Std.ExtTreeMap.toList_map]

/-- Member lists with the same keys in the same order are equal as soon as their
lookups agree. -/
theorem eq_of_lookup_eq {left right : List (String × ν)} (sameKeys : keysOf left = keysOf right)
    (distinct : (keysOf left).Nodup) (agree : ∀ key, left.lookup key = right.lookup key) :
    left = right := by
  induction left generalizing right with
  | nil =>
      cases right with
      | nil => rfl
      | cons member members => cases sameKeys
  | cons member members inductionHypothesis =>
      obtain ⟨key, value⟩ := member
      cases right with
      | nil => cases sameKeys
      | cons other others =>
          obtain ⟨otherKey, otherValue⟩ := other
          rw [keysOf_cons, keysOf_cons, List.cons.injEq] at sameKeys
          obtain ⟨rfl, sameRest⟩ := sameKeys
          rw [keysOf_cons, List.nodup_cons] at distinct
          have first := agree key
          simp only [List.lookup_cons_self, Option.some.injEq] at first
          have rest : members = others := by
            apply inductionHypothesis sameRest distinct.2
            intro later
            by_cases same : later = key
            · subst same
              rw [lookup_eq_none_iff_not_mem.2 distinct.1,
                lookup_eq_none_iff_not_mem.2 (sameRest ▸ distinct.1)]
            · have skipped := agree later
              simpa [List.lookup_cons, beq_eq_false_iff_ne.2 same] using skipped
          rw [first, rest]

end Members

/-- The members of a sorted object, by their keys. -/
theorem get?_normalize_object {members : List Member} (distinct : (keysOf members).Nodup)
    (key : String) :
    (Json.object members).normalize.get? key = (members.lookup key).map normalize := by
  have sorted : (keysOf (members.map fun member => (member.1, member.2.normalize))).Nodup := by
    rwa [keysOf_mapSnd]
  rw [normalize_object, get?, lookup_sortMembers_of_nodup sorted, lookup_mapSnd]

/-- A pointer into an object goes on in the member it names. -/
theorem pointer_object (members : List Member) (token : String) (tokens : List String) :
    (Json.object members).pointer (token :: tokens) =
      ((Json.object members).get? token).bind (·.pointer tokens) := by
  rw [pointer, get?]
  cases members.lookup token <;> rfl

theorem pointer_normalize_object {members : List Member} (distinct : (keysOf members).Nodup)
    (token : String) (tokens : List String) :
    (Json.object members).normalize.pointer (token :: tokens) =
      (members.lookup token).bind (·.normalize.pointer tokens) := by
  have found := get?_normalize_object distinct token
  rw [normalize_object] at found ⊢
  rw [pointer_object, found]
  cases members.lookup token <;> rfl

/-! ### Layouts -/

/-- The key orders of the objects of a format. No order repeats a key and no two
orders have the same keys. -/
structure Separated (layouts : List (List String)) : Prop where
  distinct : ∀ layout ∈ layouts, layout.Nodup
  apart : ∀ left ∈ layouts, ∀ right ∈ layouts, left ⊆ right → right ⊆ left → left = right

mutual

/-- Every object of the tree has one of the key orders. -/
def LaidOut (layouts : List (List String)) : Json → Prop
  | .array items => LaidOutItems layouts items
  | .object members => keysOf members ∈ layouts ∧ LaidOutMembers layouts members
  | _ => True

/-- Every item is laid out. -/
def LaidOutItems (layouts : List (List String)) : List Json → Prop
  | [] => True
  | item :: items => LaidOut layouts item ∧ LaidOutItems layouts items

/-- Every member's value is laid out. -/
def LaidOutMembers (layouts : List (List String)) : List Member → Prop
  | [] => True
  | (_, value) :: members => LaidOut layouts value ∧ LaidOutMembers layouts members

end

theorem laidOutItems_iff {layouts : List (List String)} {items : List Json} :
    LaidOutItems layouts items ↔ ∀ item ∈ items, LaidOut layouts item := by
  induction items with
  | nil => simp [LaidOutItems]
  | cons item items inductionHypothesis => simp [LaidOutItems, inductionHypothesis]

section Determined

variable {layouts : List (List String)}

theorem keysOf_normalizeMembers (members : List Member) :
    keysOf (normalizeMembers members) = keysOf members := by
  rw [normalizeMembers_eq_map, keysOf_mapSnd]

/-- Objects with the same sorted members have the same key order. -/
theorem keysOf_eq_of_sortMembers_eq (separated : Separated layouts)
    {left right : List (String × Json)} (leftOrder : keysOf left ∈ layouts)
    (rightOrder : keysOf right ∈ layouts) (same : sortMembers left = sortMembers right) :
    keysOf left = keysOf right := by
  have keys : ∀ key, key ∈ keysOf left ↔ key ∈ keysOf right := by
    intro key
    rw [← lookup_isSome_iff_mem, ← lookup_isSome_iff_mem,
      ← lookup_sortMembers_of_nodup (separated.distinct _ leftOrder),
      ← lookup_sortMembers_of_nodup (separated.distinct _ rightOrder), same]
  exact separated.apart _ leftOrder _ rightOrder (fun key => (keys key).1) fun key => (keys key).2

mutual

/-- A laid out tree is determined by its normal form. -/
theorem LaidOut.eq_of_normalize_eq (separated : Separated layouts) : ∀ {left right : Json},
    LaidOut layouts left → LaidOut layouts right → left.normalize = right.normalize →
    left = right
  | .null, right, _, _, same => by cases right <;> simp_all [normalize]
  | .bool _, right, _, _, same => by cases right <;> simp_all [normalize]
  | .number _, right, _, _, same => by cases right <;> simp_all [normalize]
  | .string _, right, _, _, same => by cases right <;> simp_all [normalize]
  | .array items, right, leftShape, rightShape, same => by
      cases right with
      | array others =>
          rw [normalize, normalize, Json.array.injEq] at same
          rw [LaidOutItems.eq_of_normalize_eq separated leftShape rightShape same]
      | _ => simp [normalize] at same
  | .object members, right, leftShape, rightShape, same => by
      cases right with
      | object others =>
          rw [LaidOut] at leftShape rightShape
          rw [normalize, normalize, Json.object.injEq] at same
          have leftOrder : keysOf (normalizeMembers members) ∈ layouts := by
            rw [keysOf_normalizeMembers]
            exact leftShape.1
          have rightOrder : keysOf (normalizeMembers others) ∈ layouts := by
            rw [keysOf_normalizeMembers]
            exact rightShape.1
          have lists : normalizeMembers members = normalizeMembers others := by
            apply eq_of_lookup_eq
              (keysOf_eq_of_sortMembers_eq separated leftOrder rightOrder same)
              (separated.distinct _ leftOrder)
            intro key
            rw [← lookup_sortMembers_of_nodup (separated.distinct _ leftOrder), same,
              lookup_sortMembers_of_nodup (separated.distinct _ rightOrder)]
          rw [LaidOutMembers.eq_of_normalize_eq separated leftShape.2 rightShape.2 lists]
      | _ => simp [normalize] at same

theorem LaidOutItems.eq_of_normalize_eq (separated : Separated layouts) :
    ∀ {left right : List Json}, LaidOutItems layouts left → LaidOutItems layouts right →
    normalizeItems left = normalizeItems right → left = right
  | [], right, _, _, same => by cases right <;> simp_all [normalizeItems]
  | item :: items, right, leftShape, rightShape, same => by
      cases right with
      | nil => simp [normalizeItems] at same
      | cons other others =>
          rw [normalizeItems, normalizeItems, List.cons.injEq] at same
          rw [LaidOut.eq_of_normalize_eq separated leftShape.1 rightShape.1 same.1,
            LaidOutItems.eq_of_normalize_eq separated leftShape.2 rightShape.2 same.2]

theorem LaidOutMembers.eq_of_normalize_eq (separated : Separated layouts) :
    ∀ {left right : List Member}, LaidOutMembers layouts left → LaidOutMembers layouts right →
    normalizeMembers left = normalizeMembers right → left = right
  | [], right, _, _, same => by cases right <;> simp_all [normalizeMembers]
  | (key, value) :: members, right, leftShape, rightShape, same => by
      cases right with
      | nil => simp [normalizeMembers] at same
      | cons other others =>
          obtain ⟨otherKey, otherValue⟩ := other
          rw [normalizeMembers, normalizeMembers, List.cons.injEq, Prod.mk.injEq] at same
          rw [same.1.1, LaidOut.eq_of_normalize_eq separated leftShape.1 rightShape.1 same.1.2,
            LaidOutMembers.eq_of_normalize_eq separated leftShape.2 rightShape.2 same.2]

end

end Determined

end SorobanUpgrades.Json
