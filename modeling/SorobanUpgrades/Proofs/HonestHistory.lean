/-
Module: SorobanUpgrades.Proofs.HonestHistory
Purpose: A history that records exactly what the releases contained never blocks
  an upgrade.
Trusted boundary: none
Main exports: honestHistory, ReleaseChain, honestHistory_never_blocked
-/
import SorobanUpgrades.Proofs.FieldLifecycle

namespace SorobanUpgrades

/-! ### The honest history

What a maintainer writes down who looks at every release so far: `last` is the
newest release the history covers. -/

section Definitions

variable (artifacts : Nat → Artifact) (last : Nat)

/-- The struct types of the releases. -/
def seenTypes : List String :=
  (List.range (last + 1)).flatMap fun k => (artifactStructFields (artifacts k)).keys

/-- The field names of one struct type in the releases. -/
def seenFields (typeName : String) : List String :=
  (List.range (last + 1)).flatMap fun k =>
    (artifactStructFields (artifacts k))[typeName]?.elim [] (·.keys)

/-- The first release with the field. -/
def firstRelease (typeName fieldName : String) : Option Nat :=
  (List.range (last + 1)).find? fun k => ((artifacts k).field typeName fieldName).isSome

/-- The first release without the field after release `first`. -/
def retirementRelease (first : Nat) (typeName fieldName : String) : Option Nat :=
  (List.range (last + 1)).find? fun k =>
    decide (first < k) && ((artifacts k).field typeName fieldName).isNone

/-- The type of a field, its first release and, if it is gone, its retirement. -/
def honestRecord (typeName fieldName : String) : Option HistoricalField := do
  let first ← firstRelease artifacts last typeName fieldName
  let fieldType ← (artifacts first).field typeName fieldName
  some {
    valueType := fieldType
    firstSeen := (artifacts first).release
    retiredIn :=
      if ((artifacts last).field typeName fieldName).isSome then none
      else (retirementRelease artifacts last first typeName fieldName).map
        fun k => (artifacts k).release }

/-- The records of one struct type. Every absent field keeps its name reserved. -/
def honestType (typeName : String) : TypeHistory where
  fields := OrderedMap.tabulate (seenFields artifacts last typeName)
    (honestRecord artifacts last typeName)
  reservedFields := Std.ExtTreeSet.ofList ((seenFields artifacts last typeName).filter
    fun fieldName => ((artifacts last).field typeName fieldName).isNone) compare

/-- The history of releases `0` to `last`. -/
def honestHistory (sourceSha256 : String) : SchemaHistory where
  formatVersion := 1
  complete := true
  types := OrderedMap.tabulate (seenTypes artifacts last) (some ∘ honestType artifacts last)
  sourceSha256 := sourceSha256

end Definitions

/-- Releases `0` to `length`: their versions grow, no field name comes back after
it was dropped, and no field changes its type. -/
structure ReleaseChain (primitives : Primitives) (length : Nat) (artifacts : Nat → Artifact)
    (versions : Nat → Version) : Prop where
  binver : ∀ i ≤ length, ∃ text, (artifacts i).version = some text ∧
    primitives.parseVersion text = some (versions i)
  increasing : ∀ i < length, versions i < versions (i + 1)
  consecutive : ∀ i j k, i < j → j < k → k ≤ length → ∀ typeName fieldName,
    (artifacts i).field typeName fieldName ≠ none →
    (artifacts k).field typeName fieldName ≠ none →
    (artifacts j).field typeName fieldName ≠ none
  sameType : ∀ i j, i ≤ length → j ≤ length → ∀ typeName fieldName before after,
    (artifacts i).field typeName fieldName = some before →
    (artifacts j).field typeName fieldName = some after → before = after

/-! ### What the history records -/

section Records

variable {artifacts : Nat → Artifact} {last : Nat} {typeName fieldName : String}

theorem mem_seenTypes_iff :
    typeName ∈ seenTypes artifacts last ↔
      ∃ k ≤ last, ∃ fields, (artifactStructFields (artifacts k))[typeName]? = some fields := by
  simp only [seenTypes, List.mem_flatMap, List.mem_range, Nat.lt_succ_iff,
    Std.ExtTreeMap.mem_keys, Std.ExtTreeMap.mem_iff_isSome_getElem?, Option.isSome_iff_exists]

theorem mem_seenFields_iff :
    fieldName ∈ seenFields artifacts last typeName ↔
      ∃ k ≤ last, (artifacts k).field typeName fieldName ≠ none := by
  simp only [seenFields, List.mem_flatMap, List.mem_range, Nat.lt_succ_iff, Artifact.field]
  refine exists_congr fun k => and_congr_right fun _ => ?_
  cases (artifactStructFields (artifacts k))[typeName]? with
  | none => simp
  | some fields =>
      rw [Option.elim_some, Option.bind_some, Std.ExtTreeMap.mem_keys,
        Std.ExtTreeMap.mem_iff_isSome_getElem?, Option.isSome_iff_ne_none]

/-- The first release of a field, its type there and the retirement of the field. -/
theorem honestRecord_eq_some_iff {record : HistoricalField} :
    honestRecord artifacts last typeName fieldName = some record ↔
      ∃ first fieldType, firstRelease artifacts last typeName fieldName = some first ∧
        (artifacts first).field typeName fieldName = some fieldType ∧
        record = {
          valueType := fieldType
          firstSeen := (artifacts first).release
          retiredIn :=
            if ((artifacts last).field typeName fieldName).isSome then none
            else (retirementRelease artifacts last first typeName fieldName).map
              fun k => (artifacts k).release } := by
  simp only [honestRecord, bind, Option.bind_eq_some_iff, Option.some.injEq, eq_comm (b := record)]
  constructor
  · rintro ⟨first, found, fieldType, stored, built⟩
    exact ⟨first, fieldType, found, stored, built⟩
  · rintro ⟨first, fieldType, found, stored, built⟩
    exact ⟨first, found, fieldType, stored, built⟩

theorem firstRelease_eq_some_iff {first : Nat} :
    firstRelease artifacts last typeName fieldName = some first ↔
      first ≤ last ∧ (artifacts first).field typeName fieldName ≠ none ∧
        ∀ k < first, (artifacts k).field typeName fieldName = none := by
  simp only [firstRelease, List.find?_range_eq_some, List.mem_range, Nat.lt_succ_iff,
    Option.isSome_iff_ne_none, Bool.not_eq_true', Option.isSome_eq_false_iff,
    Option.isNone_iff_eq_none]
  exact and_left_comm

theorem retirementRelease_eq_some_iff {first retired : Nat} :
    retirementRelease artifacts last first typeName fieldName = some retired ↔
      first < retired ∧ retired ≤ last ∧ (artifacts retired).field typeName fieldName = none ∧
        ∀ k, first < k → k < retired → (artifacts k).field typeName fieldName ≠ none := by
  simp only [retirementRelease, List.find?_range_eq_some, List.mem_range, Nat.lt_succ_iff,
    Bool.and_eq_true, decide_eq_true_eq, Option.isNone_iff_eq_none, Bool.not_eq_true',
    Bool.and_eq_false_iff, decide_eq_false_iff_not, Option.isNone_eq_false_iff,
    Option.isSome_iff_ne_none]
  constructor
  · rintro ⟨⟨later, absent⟩, inside, earlier⟩
    exact ⟨later, inside, absent, fun k low high =>
      (earlier k high).resolve_left (not_not.2 low)⟩
  · rintro ⟨later, inside, absent, between⟩
    exact ⟨⟨later, absent⟩, inside, fun k high =>
      or_iff_not_imp_left.2 fun low => between k (not_not.1 low) high⟩

/-- A field of any covered release has a first release. -/
theorem exists_firstRelease {k : Nat} (covered : k ≤ last)
    (present : (artifacts k).field typeName fieldName ≠ none) :
    ∃ first ≤ k, firstRelease artifacts last typeName fieldName = some first := by
  cases found : firstRelease artifacts last typeName fieldName with
  | none =>
      have absent := List.find?_range_eq_none.1 found k (Nat.lt_succ_iff.2 covered)
      simp [present] at absent
  | some first =>
      obtain ⟨_, _, earlier⟩ := firstRelease_eq_some_iff.1 found
      exact ⟨first, Nat.le_of_not_lt fun before => present (earlier k before), rfl⟩

/-- A field that the newest release lacks has a retirement. -/
theorem exists_retirementRelease {first : Nat} (earlier : first < last)
    (absent : (artifacts last).field typeName fieldName = none) :
    ∃ retired, retirementRelease artifacts last first typeName fieldName = some retired := by
  cases found : retirementRelease artifacts last first typeName fieldName with
  | none =>
      have missed := List.find?_range_eq_none.1 found last (Nat.lt_succ_self last)
      simp [earlier, absent] at missed
  | some retired => exact ⟨retired, rfl⟩

/-- The records of the history are the honest ones. -/
theorem record_honestHistory (sourceSha256 : String) :
    (honestHistory artifacts last sourceSha256).record typeName fieldName =
      honestRecord artifacts last typeName fieldName := by
  cases honest : honestRecord artifacts last typeName fieldName with
  | none =>
      rw [SchemaHistory.record, Option.bind_eq_none_iff]
      intro typeHistory stored
      rw [honestHistory, OrderedMap.getElem?_tabulate] at stored
      split at stored
      · obtain rfl := Option.some.inj stored
        rw [honestType, OrderedMap.getElem?_tabulate, honest]
        exact ite_self none
      · cases stored
  | some record =>
      obtain ⟨first, fieldType, found, stored, _⟩ := honestRecord_eq_some_iff.1 honest
      have covered := (firstRelease_eq_some_iff.1 found).1
      obtain ⟨fields, listed, _⟩ := Option.bind_eq_some_iff.1 stored
      have field : fieldName ∈ seenFields artifacts last typeName :=
        mem_seenFields_iff.2 ⟨first, covered, Option.ne_none_iff_exists'.2 ⟨_, stored⟩⟩
      rw [SchemaHistory.record, honestHistory, OrderedMap.getElem?_tabulate,
        if_pos (mem_seenTypes_iff.2 ⟨first, covered, fields, listed⟩), Function.comp_apply,
        Option.bind_some, honestType, OrderedMap.getElem?_tabulate, if_pos field, honest]

/-- The reserved names are those of the fields that the newest release lacks. -/
theorem mem_reservedFields_honestType_iff :
    fieldName ∈ (honestType artifacts last typeName).reservedFields ↔
      (∃ k ≤ last, (artifacts k).field typeName fieldName ≠ none) ∧
        (artifacts last).field typeName fieldName = none := by
  rw [honestType, OrderedSet.mem_ofList_iff, List.mem_filter, mem_seenFields_iff,
    Option.isNone_iff_eq_none]

theorem getElem?_types_honestHistory (sourceSha256 : String) {fields : StringMap Value} {k : Nat}
    (covered : k ≤ last) (listed : (artifactStructFields (artifacts k))[typeName]? = some fields) :
    (honestHistory artifacts last sourceSha256).types[typeName]? =
      some (honestType artifacts last typeName) := by
  rw [honestHistory, OrderedMap.getElem?_tabulate,
    if_pos (mem_seenTypes_iff.2 ⟨k, covered, fields, listed⟩), Function.comp_apply]

/-- Every type history of the history is the honest one. -/
theorem eq_honestType {sourceSha256 : String} {typeHistory : TypeHistory}
    (stored : (honestHistory artifacts last sourceSha256).types[typeName]? = some typeHistory) :
    typeHistory = honestType artifacts last typeName := by
  rw [honestHistory, OrderedMap.getElem?_tabulate] at stored
  split at stored
  · exact (Option.some.inj stored).symm
  · cases stored

theorem getElem?_fields_honestHistory {sourceSha256 : String} {typeHistory : TypeHistory}
    (stored : (honestHistory artifacts last sourceSha256).types[typeName]? = some typeHistory) :
    typeHistory.fields[fieldName]? = honestRecord artifacts last typeName fieldName := by
  have recorded : (honestHistory artifacts last sourceSha256).record typeName fieldName = _ :=
    record_honestHistory sourceSha256
  rwa [SchemaHistory.record, stored, Option.bind_some] at recorded

theorem reserves_honestHistory_iff (sourceSha256 : String) :
    (honestHistory artifacts last sourceSha256).reserves typeName fieldName = true ↔
      (∃ k ≤ last, (artifacts k).field typeName fieldName ≠ none) ∧
        (artifacts last).field typeName fieldName = none := by
  rw [← mem_reservedFields_honestType_iff, SchemaHistory.reserves, Option.any_eq_true]
  constructor
  · rintro ⟨typeHistory, stored, reserved⟩
    rwa [eq_honestType stored] at reserved
  · intro reserved
    obtain ⟨⟨k, covered, present⟩, _⟩ := mem_reservedFields_honestType_iff.1 reserved
    obtain ⟨fieldType, stored⟩ := Option.ne_none_iff_exists'.1 present
    obtain ⟨fields, listed, _⟩ := Option.bind_eq_some_iff.1 stored
    exact ⟨_, getElem?_types_honestHistory sourceSha256 covered listed, reserved⟩

end Records

/-! ### The check of the honest history -/

section Chains

variable {primitives : Primitives} {length : Nat} {artifacts : Nat → Artifact}
  {versions : Nat → Version} {typeName fieldName : String}

theorem ReleaseChain.versions_le (chain : ReleaseChain primitives length artifacts versions)
    {i j : Nat} (ordered : i ≤ j) (inside : j ≤ length) : versions i ≤ versions j := by
  induction j, ordered using Nat.le_induction with
  | base => exact le_refl _
  | succ j ordered inductionHypothesis =>
      exact (inductionHypothesis (by omega)).trans (le_of_lt (chain.increasing j (by omega)))

theorem ReleaseChain.parse_release (chain : ReleaseChain primitives length artifacts versions)
    {i : Nat} (inside : i ≤ length) :
    primitives.parseVersion (artifacts i).release = some (versions i) := by
  obtain ⟨text, named, read⟩ := chain.binver i inside
  rw [Artifact.release, named, Option.getD_some, read]

/-- Every record has readable versions in order and reserves a retired name. -/
theorem soundRecord_honest {last : Nat}
    (chain : ReleaseChain primitives length artifacts versions) (inside : last ≤ length)
    {record : HistoricalField}
    (honest : honestRecord artifacts last typeName fieldName = some record) :
    SoundRecord primitives (honestType artifacts last typeName) fieldName record := by
  obtain ⟨first, fieldType, found, stored, rfl⟩ := honestRecord_eq_some_iff.1 honest
  obtain ⟨covered, present, _⟩ := firstRelease_eq_some_iff.1 found
  refine ⟨versions first, chain.parse_release (covered.trans inside), fun text retires => ?_⟩
  dsimp only at retires
  split at retires
  · cases retires
  · rename_i absent
    rw [Bool.not_eq_true, Option.isSome_eq_false_iff, Option.isNone_iff_eq_none] at absent
    obtain ⟨retired, sought, rfl⟩ := Option.map_eq_some_iff.1 retires
    obtain ⟨later, bounded, _⟩ := retirementRelease_eq_some_iff.1 sought
    exact ⟨versions retired, chain.parse_release (bounded.trans inside),
      chain.versions_le later.le (bounded.trans inside),
      mem_reservedFields_honestType_iff.2 ⟨⟨first, covered, present⟩, absent⟩⟩

/-- A field of a covered release is recorded with its type. -/
theorem exists_honestRecord {k last : Nat}
    (chain : ReleaseChain primitives length artifacts versions) (covered : k ≤ last)
    (inside : last ≤ length) {fieldType : Value}
    (stored : (artifacts k).field typeName fieldName = some fieldType) :
    ∃ record, honestRecord artifacts last typeName fieldName = some record ∧
      record.valueType = fieldType := by
  obtain ⟨first, earlier, found⟩ :=
    exists_firstRelease covered (Option.ne_none_iff_exists'.2 ⟨fieldType, stored⟩)
  obtain ⟨bounded, present, _⟩ := firstRelease_eq_some_iff.1 found
  obtain ⟨firstType, firstStored⟩ := Option.ne_none_iff_exists'.1 present
  exact ⟨_, honestRecord_eq_some_iff.2 ⟨first, firstType, found, firstStored, rfl⟩,
    chain.sameType first k (bounded.trans inside) (covered.trans inside) _ _ _ _ firstStored
      stored⟩

/-- A field that the source of a step lacks has the target as its first release. -/
theorem firstRelease_of_new {i first : Nat}
    (chain : ReleaseChain primitives length artifacts versions) (inside : i < length)
    (found : firstRelease artifacts (i + 1) typeName fieldName = some first)
    (present : (artifacts (i + 1)).field typeName fieldName ≠ none)
    (new : (artifacts i).field typeName fieldName = none) : first = i + 1 := by
  obtain ⟨bounded, firstPresent, _⟩ := firstRelease_eq_some_iff.1 found
  -- An earlier first release would put the field into the source as well.
  by_contra older
  rcases Nat.lt_or_ge first i with before | after
  · exact chain.consecutive first i (i + 1) before (Nat.lt_succ_self i) inside _ _ firstPresent
      present new
  · obtain rfl : first = i := by omega
    exact firstPresent new

/-- A field that a step drops has the target as its retirement. -/
theorem retirementRelease_of_removed {i first : Nat}
    (chain : ReleaseChain primitives length artifacts versions) (inside : i < length)
    (found : firstRelease artifacts (i + 1) typeName fieldName = some first)
    (present : (artifacts i).field typeName fieldName ≠ none)
    (removed : (artifacts (i + 1)).field typeName fieldName = none) :
    retirementRelease artifacts (i + 1) first typeName fieldName = some (i + 1) := by
  obtain ⟨_, firstPresent, earlier⟩ := firstRelease_eq_some_iff.1 found
  have before : first ≤ i := Nat.le_of_not_lt fun after => present (earlier i after)
  -- The field lived up to the source, so the target is the first release without it.
  refine retirementRelease_eq_some_iff.2
    ⟨Nat.lt_succ_of_le before, Nat.le_refl _, removed, fun k low high => ?_⟩
  rcases Nat.lt_or_ge k i with inner | outer
  · exact chain.consecutive first k i low inner inside.le _ _ firstPresent present
  · obtain rfl : k = i := by omega
    exact present

/-- The honest history of a step's target is sound for the step. -/
theorem honestHistory_sound {i : Nat}
    (chain : ReleaseChain primitives length artifacts versions) (inside : i < length)
    (sourceSha256 : String) :
    SoundHistory primitives (artifacts i) (artifacts (i + 1))
      (honestHistory artifacts (i + 1) sourceSha256) where
  supported := rfl
  complete := rfl
  records := by
    intro typeName typeHistory stored fieldName record listed
    rw [getElem?_fields_honestHistory stored] at listed
    obtain rfl := eq_honestType stored
    exact soundRecord_honest chain inside listed
  reservations := by
    intro typeName typeHistory stored fieldName reserved
    rw [getElem?_fields_honestHistory stored]
    obtain rfl := eq_honestType stored
    obtain ⟨⟨k, covered, present⟩, absent⟩ := mem_reservedFields_honestType_iff.1 reserved
    obtain ⟨fieldType, kept⟩ := Option.ne_none_iff_exists'.1 present
    obtain ⟨record, honest, _⟩ := exists_honestRecord chain covered inside kept
    refine ⟨record, honest, ?_⟩
    obtain ⟨first, _, found, _, rfl⟩ := honestRecord_eq_some_iff.1 honest
    obtain ⟨bounded, firstPresent, _⟩ := firstRelease_eq_some_iff.1 found
    have before : first < i + 1 := by
      rcases Nat.eq_or_lt_of_le bounded with rfl | before
      · exact absurd absent firstPresent
      · exact before
    obtain ⟨retired, sought⟩ := exists_retirementRelease before absent
    simp [absent, sought]
  sourceFields := by
    intro typeName fieldName fieldType stored
    rw [record_honestHistory]
    exact exists_honestRecord chain (Nat.le_succ i) inside stored
  targetTypes := by
    intro typeName fields listed
    exact ⟨_, getElem?_types_honestHistory sourceSha256 (Nat.le_refl _) listed⟩
  targetFields := by
    intro typeName fieldName fieldType stored
    rw [record_honestHistory, ← Bool.not_eq_true, reserves_honestHistory_iff]
    refine ⟨fun reserved => by simp [reserved.2] at stored, ?_⟩
    obtain ⟨record, honest, sameType⟩ :=
      exists_honestRecord chain (Nat.le_refl _) inside stored
    obtain ⟨first, _, found, _, rfl⟩ := honestRecord_eq_some_iff.1 honest
    refine ⟨_, honest, by simp [stored], sameType, fun new => ?_⟩
    rw [firstRelease_of_new chain inside found (by simp [stored]) new]
  removedFields := by
    intro typeName fieldName fieldType stored absent
    have present : (artifacts i).field typeName fieldName ≠ none := by simp [stored]
    rw [record_honestHistory, reserves_honestHistory_iff]
    refine ⟨?_, ⟨i, Nat.le_succ i, present⟩, absent⟩
    obtain ⟨record, honest, _⟩ := exists_honestRecord chain (Nat.le_succ i) inside stored
    obtain ⟨first, _, found, _, rfl⟩ := honestRecord_eq_some_iff.1 honest
    refine ⟨_, honest, ?_⟩
    simp [absent, retirementRelease_of_removed chain inside found present absent]

end Chains

/-- The honest history of every release blocks no step of its chain. -/
theorem honestHistory_never_blocked (primitives : Primitives) (length : Nat)
    (artifacts : Nat → Artifact) (versions : Nat → Version) (sourceSha256 : Nat → String)
    (chain : ReleaseChain primitives length artifacts versions) :
    ∀ i, 1 ≤ i → i ≤ length → Unblocked (validateSchemaHistory primitives (artifacts (i - 1))
      (artifacts i) (honestHistory artifacts i (sourceSha256 i))) := by
  intro i positive inside
  obtain ⟨step, rfl⟩ : ∃ step, i = step + 1 := ⟨i - 1, by omega⟩
  exact unblocked_validateSchemaHistory_iff.2 (honestHistory_sound chain inside _)

namespace Sample

/-- A fact about every struct field of a release, by a run over its fields. -/
theorem forall_fields (artifact : Artifact) (property : String → String → Value → Prop)
    (every : ∀ entry ∈ (artifactStructFields artifact).toList, ∀ field ∈ entry.2.toList,
      property entry.1 field.1 field.2) :
    ∀ typeName fieldName fieldType, artifact.field typeName fieldName = some fieldType →
      property typeName fieldName fieldType :=
  forall_fields_iff.1 fun typeName fields listed fieldName fieldType stored =>
    every (typeName, fields) (OrderedMap.mem_toList_iff.2 listed) (fieldName, fieldType)
      (OrderedMap.mem_toList_iff.2 stored)

def versions (i : Nat) : Version := ⟨i + 1, 0, 0, [], []⟩

theorem releaseChain : ReleaseChain primitives 2 releases versions where
  binver := by
    intro i inside
    obtain rfl | rfl | rfl : i = 0 ∨ i = 1 ∨ i = 2 := by omega
    · exact ⟨"1.0.0", by decide, rfl⟩
    · exact ⟨"2.0.0", by decide, rfl⟩
    · exact ⟨"3.0.0", by decide, rfl⟩
  increasing := by decide
  consecutive := by
    intro i j k earlier later inside typeName fieldName present _
    obtain ⟨rfl, rfl⟩ : i = 0 ∧ j = 1 := by omega
    obtain ⟨fieldType, stored⟩ := Option.ne_none_iff_exists'.1 present
    exact forall_fields (releases 0)
      (fun typeName fieldName _ => (releases 1).field typeName fieldName ≠ none)
      (by decide) _ _ _ stored
  sameType := by
    intro i j _ _ typeName fieldName before after stored kept
    have plain : ∀ i typeName fieldName fieldType,
        (releases i).field typeName fieldName = some fieldType →
        fieldType = Json.toValue (.string "u32") := by
      intro i
      match i with
      | 0 => exact forall_fields (configRelease "1.0.0" ["a", "b"]) _ (by decide)
      | 1 => exact forall_fields (configRelease "2.0.0" ["a", "b", "c"]) _ (by decide)
      | _ + 2 => exact forall_fields (configRelease "3.0.0" ["a", "c"]) _ (by decide)
    exact (plain i _ _ _ stored).trans (plain j _ _ _ kept).symm

end Sample

/-- The step of the sample chain that drops a field. -/
theorem sampleHistory_never_blocked :
    Unblocked (validateSchemaHistory Sample.primitives (Sample.releases 1) (Sample.releases 2)
      (honestHistory Sample.releases 2 "")) :=
  honestHistory_never_blocked Sample.primitives 2 Sample.releases Sample.versions (fun _ => "")
    Sample.releaseChain 2 (by decide) (by decide)

end SorobanUpgrades
