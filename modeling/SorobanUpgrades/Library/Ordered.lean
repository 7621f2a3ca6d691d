/-
Module: SorobanUpgrades.Library.Ordered
Purpose: Ordered maps and sets whose equality is extensional, with the facts
  about association lists and last-wins collection that clients reason by.
Trusted boundary: none
Main exports: OrderedMap, OrderedSet, StringMap, StringSet, lookup_eq_some_iff_mem,
  OrderedMap.lookup_toList, OrderedMap.ofList_toList, OrderedMap.getElem?_ofList,
  OrderedMap.insertNew
-/
import SorobanUpgrades.Library.Outcome

namespace SorobanUpgrades

/-- A finite map iterated in key order. Two maps are equal exactly when they
agree on every lookup. -/
abbrev OrderedMap (κ : Type) (ν : Type) [Ord κ] := Std.ExtTreeMap κ ν compare

/-- A finite set iterated in order. -/
abbrev OrderedSet (α : Type) [Ord α] := Std.ExtTreeSet α compare

/-- `BTreeMap<String, _>`. -/
abbrev StringMap (ν : Type) := OrderedMap String ν

/-- `BTreeSet<String>`. -/
abbrev StringSet := OrderedSet String

section AssociationLists

variable {κ ν : Type} [DecidableEq κ]

/-- The keys of an association list, in order and with repetitions. -/
def keysOf (entries : List (κ × ν)) : List κ := entries.map Prod.fst

omit [DecidableEq κ] in
@[simp] theorem keysOf_nil : keysOf ([] : List (κ × ν)) = [] := rfl

omit [DecidableEq κ] in
@[simp] theorem keysOf_cons (entry : κ × ν) (entries : List (κ × ν)) :
    keysOf (entry :: entries) = entry.1 :: keysOf entries := rfl

omit [DecidableEq κ] in
theorem mem_keysOf_of_mem {entries : List (κ × ν)} {key : κ} {value : ν}
    (member : (key, value) ∈ entries) : key ∈ keysOf entries :=
  List.mem_map.2 ⟨(key, value), member, rfl⟩

/-- When no key repeats, looking a key up is membership of the pair. -/
theorem lookup_eq_some_iff_mem {entries : List (κ × ν)}
    (distinct : (keysOf entries).Nodup) {key : κ} {value : ν} :
    entries.lookup key = some value ↔ (key, value) ∈ entries := by
  induction entries with
  | nil => simp
  | cons entry entries inductionHypothesis =>
      obtain ⟨head, headValue⟩ := entry
      rw [keysOf_cons, List.nodup_cons] at distinct
      rw [List.lookup_cons]
      by_cases same : key = head
      · subst same
        have absent : (key, value) ∉ entries := fun member =>
          distinct.1 (mem_keysOf_of_mem member)
        simp [absent, eq_comm]
      · have skipped : (key == head) = false := by simpa using same
        simp [skipped, same, inductionHypothesis distinct.2]

theorem lookup_eq_none_iff_not_mem {entries : List (κ × ν)} {key : κ} :
    entries.lookup key = none ↔ key ∉ keysOf entries := by
  induction entries with
  | nil => simp
  | cons entry entries inductionHypothesis =>
      obtain ⟨head, headValue⟩ := entry
      rw [List.lookup_cons]
      by_cases same : key = head
      · simp [same]
      · have skipped : (key == head) = false := by simpa using same
        simp [skipped, same, inductionHypothesis]

theorem lookup_isSome_iff_mem {entries : List (κ × ν)} {key : κ} :
    (entries.lookup key).isSome ↔ key ∈ keysOf entries := by
  rw [← Option.ne_none_iff_isSome, ne_eq, lookup_eq_none_iff_not_mem, not_not]

theorem mem_of_lookup_eq_some {entries : List (κ × ν)} {key : κ} {value : ν}
    (found : entries.lookup key = some value) : (key, value) ∈ entries := by
  induction entries with
  | nil => simp at found
  | cons entry entries inductionHypothesis =>
      obtain ⟨head, headValue⟩ := entry
      rw [List.lookup_cons] at found
      by_cases same : key = head
      · subst same
        simp at found
        simp [found]
      · have skipped : (key == head) = false := by simpa using same
        rw [skipped] at found
        exact List.mem_cons_of_mem _ (inductionHypothesis found)

omit [DecidableEq κ] in
theorem keysOf_mapSnd {μ : Type} (f : ν → μ) (entries : List (κ × ν)) :
    keysOf (entries.map fun entry => (entry.1, f entry.2)) = keysOf entries := by
  rw [keysOf, keysOf, List.map_map]
  rfl

theorem lookup_mapSnd {μ : Type} (f : ν → μ) (entries : List (κ × ν)) (key : κ) :
    (entries.map fun entry => (entry.1, f entry.2)).lookup key =
      (entries.lookup key).map f := by
  induction entries with
  | nil => rfl
  | cons entry entries inductionHypothesis =>
      obtain ⟨head, value⟩ := entry
      rw [List.map_cons, List.lookup_cons, List.lookup_cons]
      cases key == head with
      | true => rfl
      | false => exact inductionHypothesis

/-- The entries whose value survives a partial map, with the new value. -/
def filterMapSnd {μ : Type} (f : ν → Option μ) (entries : List (κ × ν)) : List (κ × μ) :=
  entries.filterMap fun entry => (f entry.2).map (entry.1, ·)

end AssociationLists

namespace OrderedMap

variable {κ ν : Type} [Ord κ] [Std.TransOrd κ] [Std.LawfulEqOrd κ] [DecidableEq κ]

omit [Std.LawfulEqOrd κ] [DecidableEq κ] in
theorem keysOf_toList (entries : OrderedMap κ ν) : keysOf entries.toList = entries.keys :=
  Std.ExtTreeMap.map_fst_toList_eq_keys

omit [DecidableEq κ] in
/-- The iteration of a map repeats no key. -/
theorem nodup_keysOf_toList (entries : OrderedMap κ ν) : (keysOf entries.toList).Nodup := by
  rw [keysOf_toList]
  exact Std.ExtTreeMap.distinct_keys.imp fun differ same => differ (by simp [same])

omit [DecidableEq κ] in
theorem mem_toList_iff {entries : OrderedMap κ ν} {key : κ} {value : ν} :
    (key, value) ∈ entries.toList ↔ entries[key]? = some value :=
  Std.ExtTreeMap.mem_toList_iff_getElem?_eq_some

/-- Looking a key up in the iteration is looking it up in the map. -/
theorem lookup_toList (entries : OrderedMap κ ν) (key : κ) :
    entries.toList.lookup key = entries[key]? := by
  apply Option.ext
  intro value
  rw [lookup_eq_some_iff_mem (nodup_keysOf_toList entries), mem_toList_iff]

/-- Collecting a list keeps the last value given for a key. -/
theorem getElem?_ofList (entries : List (κ × ν)) (key : κ) :
    (Std.ExtTreeMap.ofList entries compare)[key]? = entries.reverse.lookup key := by
  rw [Std.ExtTreeMap.ofList_eq_foldl, ← List.foldr_reverse]
  induction entries.reverse with
  | nil => simp
  | cons entry rest inductionHypothesis =>
      obtain ⟨head, headValue⟩ := entry
      rw [List.foldr_cons, Std.ExtTreeMap.getElem?_insert, List.lookup_cons,
        inductionHypothesis]
      by_cases same : key = head
      · simp [same]
      · have differ : head ≠ key := fun equal => same equal.symm
        have skipped : (key == head) = false := by simpa using same
        simp [skipped, differ]

/-- Without repeated keys the order of the list does not matter. -/
theorem getElem?_ofList_of_nodup {entries : List (κ × ν)}
    (distinct : (keysOf entries).Nodup) (key : κ) :
    (Std.ExtTreeMap.ofList entries compare)[key]? = entries.lookup key := by
  rw [getElem?_ofList]
  have reversed : (keysOf entries.reverse).Nodup := by
    simpa [keysOf, List.map_reverse] using distinct
  apply Option.ext
  intro value
  rw [lookup_eq_some_iff_mem reversed, lookup_eq_some_iff_mem distinct, List.mem_reverse]

omit [Ord κ] [Std.TransOrd κ] [Std.LawfulEqOrd κ] in
theorem lookup_tabulated (keys : List κ) (value : κ → Option ν) (key : κ) :
    (keys.filterMap fun name => (value name).map (name, ·)).lookup key =
      if key ∈ keys then value key else none := by
  induction keys with
  | nil => rfl
  | cons head rest inductionHypothesis =>
      by_cases same : key = head
      · subst same
        cases stored : value key <;> simp [stored, inductionHypothesis]
      · have skipped : (key == head) = false := by simpa using same
        cases stored : value head <;>
          simp [stored, List.lookup_cons, skipped, same, inductionHypothesis]

/-- The map of a function on the given keys. -/
def tabulate (keys : List κ) (value : κ → Option ν) : OrderedMap κ ν :=
  Std.ExtTreeMap.ofList (keys.filterMap fun name => (value name).map (name, ·)) compare

theorem getElem?_tabulate (keys : List κ) (value : κ → Option ν) (key : κ) :
    (tabulate keys value)[key]? = if key ∈ keys then value key else none := by
  rw [tabulate, getElem?_ofList, ← List.filterMap_reverse, lookup_tabulated]
  simp only [List.mem_reverse]

/-- A map is the collection of its own iteration. -/
theorem ofList_toList (entries : OrderedMap κ ν) :
    Std.ExtTreeMap.ofList entries.toList compare = entries := by
  apply Std.ExtTreeMap.ext_getElem?
  intro key
  rw [getElem?_ofList_of_nodup (nodup_keysOf_toList entries), lookup_toList]

omit [DecidableEq κ] in
theorem nodup_keys (entries : OrderedMap κ ν) : entries.keys.Nodup := by
  rw [← keysOf_toList]
  exact nodup_keysOf_toList entries

omit [DecidableEq κ] in
/-- A map with every key of another and one more is larger. -/
theorem size_lt_size {before after : OrderedMap κ ν} (kept : ∀ key ∈ before, key ∈ after)
    {key : κ} (added : key ∈ after) (fresh : key ∉ before) : before.size < after.size := by
  have distinct : (key :: before.keys).Nodup :=
    List.nodup_cons.2 ⟨fun listed => fresh (Std.ExtTreeMap.mem_keys.1 listed), nodup_keys before⟩
  have included : key :: before.keys ⊆ after.keys := by
    intro other listed
    rw [Std.ExtTreeMap.mem_keys]
    rcases List.mem_cons.1 listed with rfl | old
    · exact added
    · exact kept other (Std.ExtTreeMap.mem_keys.1 old)
  have longer := (distinct.subperm included).length_le
  rwa [List.length_cons, Std.ExtTreeMap.length_keys, Std.ExtTreeMap.length_keys] at longer

section InsertNew

variable {ε : Type} {refuse : κ → ε} {items : List (κ × ν)} {entries result : OrderedMap κ ν}

/-- Insert an entry under a key that is not there yet. -/
def insertNew (refuse : κ → ε) (entries : OrderedMap κ ν) (entry : κ × ν) :
    Except ε (OrderedMap κ ν) :=
  if entries.contains entry.1 then .error (refuse entry.1)
  else .ok (entries.insert entry.1 entry.2)

omit [Std.LawfulEqOrd κ] [DecidableEq κ] in
theorem insertNew_eq_ok_iff {entry : κ × ν} :
    insertNew refuse entries entry = .ok result ↔
      entry.1 ∉ entries ∧ entries.insert entry.1 entry.2 = result := by
  simp only [insertNew, ← Std.ExtTreeMap.mem_iff_contains]
  by_cases known : entry.1 ∈ entries
  · simp [known]
  · simp [known]

omit [DecidableEq κ] in
/-- Entries with new and distinct keys are inserted one after the other. -/
theorem foldlM_insertNew_eq_ok_iff :
    items.foldlM (insertNew refuse) entries = .ok result ↔
      (keysOf items).Nodup ∧ (∀ key ∈ keysOf items, key ∉ entries) ∧
        items.foldl (fun entries item => entries.insert item.1 item.2) entries = result := by
  induction items generalizing entries with
  | nil => simp [pure, Except.pure]
  | cons item items inductionHypothesis =>
      rw [List.foldlM_cons, Outcome.bind_eq_ok_iff]
      have inserted : ∀ key, key ∉ entries.insert item.1 item.2 ↔ item.1 ≠ key ∧ key ∉ entries := by
        intro key
        rw [Std.ExtTreeMap.mem_insert, Std.compare_eq_iff_eq, not_or]
      simp only [insertNew_eq_ok_iff, inductionHypothesis, keysOf_cons, List.nodup_cons,
        List.forall_mem_cons, List.foldl_cons]
      constructor
      · intro finished
        obtain ⟨_, ⟨fresh, rfl⟩, distinct, apart, done⟩ := finished
        simp only [inserted] at apart
        exact ⟨⟨fun repeated => (apart _ repeated).1 rfl, distinct⟩,
          ⟨fresh, fun key listed => (apart key listed).2⟩, done⟩
      · intro finished
        obtain ⟨⟨single, distinct⟩, ⟨fresh, apart⟩, done⟩ := finished
        refine ⟨_, ⟨fresh, rfl⟩, distinct, fun key listed => ?_, done⟩
        have other : item.1 ≠ key := fun same => single (same ▸ listed)
        exact (inserted key).2 ⟨other, apart key listed⟩

omit [DecidableEq κ] in
/-- From nothing, exactly the lists without repeated keys are collected. -/
theorem foldlM_insertNew_empty_eq_ok_iff :
    items.foldlM (insertNew refuse) ∅ = .ok result ↔
      (keysOf items).Nodup ∧ Std.ExtTreeMap.ofList items compare = result := by
  rw [foldlM_insertNew_eq_ok_iff, Std.ExtTreeMap.ofList_eq_foldl]
  simp

end InsertNew

end OrderedMap

namespace OrderedSet

variable {α : Type} [Ord α] [Std.TransOrd α] [Std.LawfulEqOrd α] [DecidableEq α]

theorem mem_ofList_iff {members : List α} {member : α} :
    member ∈ Std.ExtTreeSet.ofList members compare ↔ member ∈ members := by
  rw [Std.ExtTreeSet.mem_ofList]
  simp

/-- A set is the collection of its own iteration. -/
theorem ofList_toList (members : OrderedSet α) :
    Std.ExtTreeSet.ofList members.toList compare = members := by
  apply Std.ExtTreeSet.ext_mem
  intro member
  rw [mem_ofList_iff, Std.ExtTreeSet.mem_toList]

omit [DecidableEq α] in
/-- The iteration of a set repeats no member. -/
theorem nodup_toList (members : OrderedSet α) : members.toList.Nodup :=
  Std.ExtTreeSet.distinct_toList.imp fun differ same => differ (by simp [same])

/-- Collecting distinct members keeps their number. -/
theorem length_toList_ofList {members : List α} (distinct : members.Nodup) :
    (Std.ExtTreeSet.ofList members compare).toList.length = members.length := by
  refine List.Perm.length_eq ((List.perm_ext_iff_of_nodup (nodup_toList _) distinct).2 ?_)
  intro member
  rw [Std.ExtTreeSet.mem_toList, mem_ofList_iff]

end OrderedSet

end SorobanUpgrades
