/-
Module: SorobanUpgrades.Library.JsonCodec
Purpose: Typed encoders and decoders over JSON trees. A decoder must read an
  encoded value back from any tree that lists the same members in another order,
  so a value survives both the declaration order of a printer and the sorted
  order of a reader.
Trusted boundary: human-reviewed spec
Main exports: Json.Reorders, JsonCodec, decode_encode, eq_of_normalize_encode_eq,
  structFields, Fields.required, Fields.optional, Fields.defaulted, decodeVariant
-/
import SorobanUpgrades.Library.Json

namespace SorobanUpgrades

namespace Json

/-- `tree` is `original` with the members of its objects in any order. -/
structure Reorders (tree original : Json) : Prop where
  unique : tree.UniqueKeys
  same : tree.normalize = original.normalize

theorem Reorders.refl {tree : Json} (unique : tree.UniqueKeys) : tree.Reorders tree :=
  ⟨unique, rfl⟩

theorem eq_null_of_normalize {tree : Json} (same : tree.normalize = .null) : tree = .null := by
  cases tree <;> simp [normalize] at same ⊢

theorem eq_bool_of_normalize {tree : Json} {value : Bool}
    (same : tree.normalize = .bool value) : tree = .bool value := by
  cases tree <;> simp_all [normalize]

theorem eq_number_of_normalize {tree : Json} {value : Number}
    (same : tree.normalize = .number value) : tree = .number value := by
  cases tree <;> simp_all [normalize]

theorem eq_string_of_normalize {tree : Json} {value : String}
    (same : tree.normalize = .string value) : tree = .string value := by
  cases tree <;> simp_all [normalize]

theorem Reorders.array {tree : Json} {items : List Json} (same : tree.Reorders (.array items)) :
    ∃ found, tree = .array found ∧ List.Forall₂ Reorders found items := by
  obtain ⟨unique, equal⟩ := same
  cases tree with
  | array found =>
      refine ⟨found, rfl, ?_⟩
      rw [normalize_array, normalize_array, Json.array.injEq] at equal
      rw [uniqueKeys_array] at unique
      induction found generalizing items with
      | nil =>
          have empty : items = [] := by simpa using equal.symm
          rw [empty]
          exact .nil
      | cons item found inductionHypothesis =>
          cases items with
          | nil => simp at equal
          | cons other items =>
              rw [List.map_cons, List.map_cons, List.cons.injEq] at equal
              exact .cons ⟨unique item List.mem_cons_self, equal.1⟩
                (inductionHypothesis (fun later listed =>
                  unique later (List.mem_cons_of_mem _ listed)) equal.2)
  | _ => simp [normalize] at equal

/-- Reordered objects agree on every lookup, up to the order below. -/
theorem Reorders.object {tree : Json} {members : List Member}
    (same : tree.Reorders (.object members)) (distinct : (keysOf members).Nodup) :
    ∃ found, tree = .object found ∧ (keysOf found).Nodup ∧
      (∀ key, (found.lookup key).isSome = (members.lookup key).isSome) ∧
      ∀ key value original, found.lookup key = some value →
        members.lookup key = some original → value.Reorders original := by
  obtain ⟨unique, equal⟩ := same
  cases tree with
  | object found =>
      rw [uniqueKeys_object] at unique
      rw [normalize_object, normalize_object, Json.object.injEq] at equal
      have agree : ∀ key,
          (found.lookup key).map normalize = (members.lookup key).map normalize := by
        intro key
        have lookups := congrArg (List.lookup key) equal
        rwa [lookup_sortMembers_of_nodup (by rw [keysOf_mapSnd]; exact unique.1),
          lookup_sortMembers_of_nodup (by rw [keysOf_mapSnd]; exact distinct),
          lookup_mapSnd, lookup_mapSnd] at lookups
      refine ⟨found, rfl, unique.1, fun key => ?_, fun key value original here there => ?_⟩
      · have sizes := congrArg Option.isSome (agree key)
        simpa using sizes
      · have values := agree key
        rw [here, there, Option.map_some, Option.map_some, Option.some.injEq] at values
        exact ⟨unique.2 key value (mem_of_lookup_eq_some here), values⟩
  | _ => simp [normalize] at equal

end Json

/-- Typed values with a JSON form. The laws say that encoding repeats no object
key and that decoding recovers the value whatever the member order. -/
class JsonCodec (α : Type) where
  encode : α → Json
  decode : Json → Option α
  uniqueKeys_encode : ∀ value, (encode value).UniqueKeys
  decode_of_reorders : ∀ value tree, tree.Reorders (encode value) → decode tree = some value

export JsonCodec (encode decode uniqueKeys_encode decode_of_reorders)

attribute [simp] uniqueKeys_encode

section Laws

variable {α : Type} [JsonCodec α]

/-- A value is read back from its own encoding. -/
theorem decode_encode (value : α) : decode (encode value) = some value :=
  decode_of_reorders value _ (.refl (uniqueKeys_encode value))

/-- The sorted form of an encoding determines the value. -/
theorem eq_of_normalize_encode_eq {left right : α}
    (same : (encode left).normalize = (encode right).normalize) : left = right := by
  have readRight := decode_of_reorders right (encode left) ⟨uniqueKeys_encode left, same⟩
  rw [decode_encode] at readRight
  exact Option.some.inj readRight

end Laws

/-! ### Scalars -/

instance : JsonCodec Bool where
  encode value := .bool value
  decode
    | .bool value => some value
    | _ => none
  uniqueKeys_encode _ := trivial
  decode_of_reorders value tree reorders := by
    rw [Json.eq_bool_of_normalize reorders.same]

instance : JsonCodec String where
  encode value := .string value
  decode
    | .string value => some value
    | _ => none
  uniqueKeys_encode _ := trivial
  decode_of_reorders value tree reorders := by
    rw [Json.eq_string_of_normalize reorders.same]

/-- Read a natural number below a bound. -/
def decodeNat (bound : Nat) : Json → Option Nat
  | .number (.integer (.ofNat value)) => if value < bound then some value else none
  | _ => none

instance : JsonCodec UInt32 where
  encode value := .number (.integer value.toNat)
  decode tree := (decodeNat (2 ^ 32) tree).map UInt32.ofNat
  uniqueKeys_encode _ := trivial
  decode_of_reorders value tree reorders := by
    rw [Json.eq_number_of_normalize reorders.same]
    have inRange := value.toNat_lt
    simp only [decodeNat]
    simp [inRange]

instance : JsonCodec UInt64 where
  encode value := .number (.integer value.toNat)
  decode tree := (decodeNat (2 ^ 64) tree).map UInt64.ofNat
  uniqueKeys_encode _ := trivial
  decode_of_reorders value tree reorders := by
    rw [Json.eq_number_of_normalize reorders.same]
    have inRange := value.toNat_lt
    simp only [decodeNat]
    simp [inRange]

instance : JsonCodec Value where
  encode value := value.json
  decode tree := some tree.toValue
  uniqueKeys_encode value := value.canonical.uniqueKeys
  decode_of_reorders value tree reorders := by
    have same : tree.normalize = value.json := reorders.same.trans value.canonical
    exact congrArg some (Value.ext same)

/-- Encodings that are never `null`, so that `null` can stand for absence. -/
class NeverNull (α : Type) [JsonCodec α] : Prop where
  encode_ne_null : ∀ value : α, encode value ≠ .null

instance : NeverNull Bool := ⟨fun _ => Json.noConfusion⟩
instance : NeverNull String := ⟨fun _ => Json.noConfusion⟩
instance : NeverNull UInt32 := ⟨fun _ => Json.noConfusion⟩
instance : NeverNull UInt64 := ⟨fun _ => Json.noConfusion⟩

instance {α : Type} [JsonCodec α] [NeverNull α] : JsonCodec (Option α) where
  encode
    | some value => encode value
    | none => .null
  decode
    | .null => some none
    | tree => (decode tree).map some
  uniqueKeys_encode value := by
    cases value with
    | none => trivial
    | some value => exact uniqueKeys_encode value
  decode_of_reorders value tree reorders := by
    cases value with
    | none => rw [Json.eq_null_of_normalize reorders.same]
    | some value =>
        have read := decode_of_reorders value tree reorders
        have present : tree ≠ .null := by
          rintro rfl
          have same : (encode value).normalize = .null := reorders.same.symm
          exact NeverNull.encode_ne_null value (Json.eq_null_of_normalize same)
        cases tree <;> simp_all

/-! ### Lists, sets and maps -/

section Collections

variable {α : Type} [JsonCodec α]

private theorem mapM_decode_of_forall₂ {found : List Json} {values : List α}
    (reorders : List.Forall₂ Json.Reorders found (values.map encode)) :
    found.mapM decode = some values := by
  induction values generalizing found with
  | nil =>
      rw [List.map_nil, List.forall₂_nil_right_iff] at reorders
      rw [reorders]
      rfl
  | cons value values inductionHypothesis =>
      rw [List.map_cons, List.forall₂_cons_right_iff] at reorders
      obtain ⟨tree, trees, first, rest, rfl⟩ := reorders
      simp [List.mapM_cons, decode_of_reorders value tree first, inductionHypothesis rest]

instance : JsonCodec (List α) where
  encode values := .array (values.map encode)
  decode
    | .array items => items.mapM decode
    | _ => none
  uniqueKeys_encode values := by
    rw [Json.uniqueKeys_array]
    intro item listed
    obtain ⟨value, _, rfl⟩ := List.mem_map.1 listed
    exact uniqueKeys_encode value
  decode_of_reorders values tree reorders := by
    obtain ⟨found, rfl, pairs⟩ := reorders.array
    exact mapM_decode_of_forall₂ pairs

instance : NeverNull (List α) := ⟨fun _ => Json.noConfusion⟩

instance : JsonCodec StringSet where
  encode members := encode members.toList
  decode tree := (decode tree : Option (List String)).map (Std.ExtTreeSet.ofList · compare)
  uniqueKeys_encode members := uniqueKeys_encode members.toList
  decode_of_reorders members tree reorders := by
    rw [decode_of_reorders members.toList tree reorders, Option.map_some,
      OrderedSet.ofList_toList]

/-- Read every member value, keeping the document order. -/
def decodeMembers : List Member → Option (List (String × α))
  | [] => some []
  | (key, value) :: members => do
      let first ← decode value
      let rest ← decodeMembers members
      some ((key, first) :: rest)

variable (α) in
private theorem decodeMembers_eq_some (members : List Member)
    (readable : ∀ key value, (key, value) ∈ members → ∃ read : α, decode value = some read) :
    ∃ entries : List (String × α), decodeMembers members = some entries ∧
      keysOf entries = keysOf members ∧
      ∀ key, entries.lookup key = (members.lookup key).bind decode := by
  induction members with
  | nil => exact ⟨[], rfl, rfl, fun _ => rfl⟩
  | cons member members inductionHypothesis =>
      obtain ⟨head, value⟩ := member
      obtain ⟨read, first⟩ := readable head value List.mem_cons_self
      obtain ⟨entries, rest, keys, lookups⟩ := inductionHypothesis fun key other listed =>
        readable key other (List.mem_cons_of_mem _ listed)
      refine ⟨(head, read) :: entries, by simp [decodeMembers, first, rest], by simp [keys], ?_⟩
      intro key
      rw [List.lookup_cons, List.lookup_cons]
      split
      · rw [Option.bind_some, first]
      · exact lookups key

/-- The members of an encoded map. -/
def encodeEntries (entries : StringMap α) : List Member :=
  entries.toList.map fun entry => (entry.1, encode entry.2)

private theorem keysOf_encodeEntries (entries : StringMap α) :
    keysOf (encodeEntries entries) = keysOf entries.toList :=
  keysOf_mapSnd _ _

private theorem nodup_keysOf_encodeEntries (entries : StringMap α) :
    (keysOf (encodeEntries entries)).Nodup := by
  rw [keysOf_encodeEntries]
  exact OrderedMap.nodup_keysOf_toList entries

private theorem lookup_encodeEntries (entries : StringMap α) (key : String) :
    (encodeEntries entries).lookup key = entries[key]?.map encode := by
  rw [← OrderedMap.lookup_toList, encodeEntries, lookup_mapSnd]

instance : JsonCodec (StringMap α) where
  encode entries := .object (encodeEntries entries)
  decode
    | .object members =>
        (decodeMembers members).map fun entries => Std.ExtTreeMap.ofList entries compare
    | _ => none
  uniqueKeys_encode entries := by
    rw [Json.uniqueKeys_object]
    refine ⟨nodup_keysOf_encodeEntries entries, fun key value listed => ?_⟩
    obtain ⟨entry, _, equal⟩ := List.mem_map.1 listed
    cases equal
    exact uniqueKeys_encode entry.2
  decode_of_reorders entries tree reorders := by
    obtain ⟨found, rfl, distinct, sameKeys, sameValues⟩ :=
      reorders.object (nodup_keysOf_encodeEntries entries)
    have decoded : ∀ key value, found.lookup key = some value →
        ∃ read, decode value = some read ∧ entries[key]? = some read := by
      intro key value here
      have bound : ((encodeEntries entries).lookup key).isSome = true := by
        rw [← sameKeys, here]
        rfl
      obtain ⟨original, there⟩ := Option.isSome_iff_exists.1 bound
      have reordered := sameValues key value original here there
      rw [lookup_encodeEntries, Option.map_eq_some_iff] at there
      obtain ⟨read, stored, rfl⟩ := there
      exact ⟨read, decode_of_reorders read value reordered, stored⟩
    obtain ⟨list, read, keys, lookups⟩ := decodeMembers_eq_some α found
      fun key value listed => by
        obtain ⟨result, done, _⟩ :=
          decoded key value ((lookup_eq_some_iff_mem distinct).2 listed)
        exact ⟨result, done⟩
    have whole : Std.ExtTreeMap.ofList list compare = entries := by
      apply Std.ExtTreeMap.ext_getElem?
      intro key
      rw [OrderedMap.getElem?_ofList_of_nodup (by rw [keys]; exact distinct), lookups]
      cases here : found.lookup key with
      | some value =>
          obtain ⟨result, done, stored⟩ := decoded key value here
          rw [Option.bind_some, done, stored]
      | none =>
          have absent : (entries[key]?.map (encode (α := α))).isSome = false := by
            rw [← lookup_encodeEntries, ← sameKeys, here]
            rfl
          cases stored : entries[key]? with
          | none => rfl
          | some value => simp [stored] at absent
    change (decodeMembers found).map _ = _
    rw [read, Option.map_some, whole]

end Collections

/-! ### Records and enumerations -/

/-- The fields a record is read from: the members of an object, or the items of
an array matched to the field names in declaration order. -/
structure Fields where
  members : List Member
  positional : Bool

/-- Collect the fields of a record that refuses unknown and repeated members. -/
def structFields (names : List String) : Json → Option Fields
  | .object members =>
      if (keysOf members).all (· ∈ names) && decide (keysOf members).Nodup then
        some { members := members, positional := false }
      else none
  | .array items =>
      if items.length ≤ names.length then
        some { members := names.zip items, positional := true }
      else none
  | _ => none

/-- Collect the fields of a record that skips unknown members. -/
def openStructFields (names : List String) : Json → Option Fields
  | .object members => structFields names (.object (members.filter (·.1 ∈ names)))
  | tree => structFields names tree

namespace Fields

variable {α : Type} [JsonCodec α] (fields : Fields)

/-- A field that must be present. -/
def required (name : String) : Option α :=
  (fields.members.lookup name).bind decode

/-- A field with a default for its absence. -/
def defaulted (name : String) (default : α) : Option α :=
  match fields.members.lookup name with
  | some tree => decode tree
  | none => some default

/-- An optional field: absence in an object means `none`, while an array must
spell it out. -/
def optional [NeverNull α] (name : String) : Option (Option α) :=
  if fields.positional then fields.required name else fields.defaulted name none

/-- The fields come from a reordering of an encoded record. -/
def Reads (members : List Member) : Prop :=
  fields.positional = false ∧
  ∀ name original, members.lookup name = some original →
    ∃ tree, fields.members.lookup name = some tree ∧ tree.Reorders original

variable {fields} {members : List Member} {name : String}

theorem Reads.required_eq_some (reads : fields.Reads members) {value : α}
    (stored : members.lookup name = some (encode value)) :
    fields.required name = some value := by
  obtain ⟨tree, found, reorders⟩ := reads.2 name _ stored
  rw [Fields.required, found, Option.bind_some, decode_of_reorders value tree reorders]

theorem Reads.defaulted_eq_some (reads : fields.Reads members) {value default : α}
    (stored : members.lookup name = some (encode value)) :
    fields.defaulted name default = some value := by
  obtain ⟨tree, found, reorders⟩ := reads.2 name _ stored
  simp only [Fields.defaulted, found, decode_of_reorders value tree reorders]

/-! One step of a record decoder: the field is read, then the rest runs. -/

variable {β : Type} {result : β}

theorem Reads.required (reads : fields.Reads members) (value : α) {next : α → Option β}
    (stored : members.lookup name = some (encode value)) (rest : next value = some result) :
    (fields.required name >>= next) = some result := by
  rw [reads.required_eq_some stored]
  exact rest

theorem Reads.defaulted (reads : fields.Reads members) (value : α) {default : α}
    {next : α → Option β} (stored : members.lookup name = some (encode value))
    (rest : next value = some result) :
    (fields.defaulted name default >>= next) = some result := by
  rw [reads.defaulted_eq_some stored]
  exact rest

theorem Reads.optional [NeverNull α] (reads : fields.Reads members) (value : Option α)
    {next : Option α → Option β} (stored : members.lookup name = some (encode value))
    (rest : next value = some result) :
    (fields.optional name >>= next) = some result := by
  rw [Fields.optional, reads.1, if_neg Bool.false_ne_true]
  exact reads.defaulted value stored rest

end Fields

/-- A reordered record offers its fields to the decoder. -/
theorem structFields_of_reorders (names : List String) {members : List Member} {tree : Json}
    (reorders : tree.Reorders (.object members)) (keys : keysOf members = names)
    (distinct : names.Nodup) :
    ∃ fields, structFields names tree = some fields ∧ fields.Reads members := by
  subst keys
  obtain ⟨found, rfl, unique, sameKeys, sameValues⟩ := reorders.object distinct
  have known : (keysOf found).all (· ∈ keysOf members) = true := by
    rw [List.all_eq_true]
    intro key listed
    rw [decide_eq_true_eq, ← lookup_isSome_iff_mem, ← sameKeys, lookup_isSome_iff_mem]
    exact listed
  refine ⟨{ members := found, positional := false }, by simp [structFields, known, unique], rfl,
    fun name original there => ?_⟩
  have bound : (found.lookup name).isSome = true := by
    rw [sameKeys, there]
    rfl
  obtain ⟨value, here⟩ := Option.isSome_iff_exists.1 bound
  exact ⟨value, here, sameValues name value original here there⟩

/-- An encoded record repeats no key when its field names are distinct. -/
theorem uniqueKeys_record (names : List String) {members : List Member}
    (keys : keysOf members = names) (distinct : names.Nodup)
    (values : ∀ value ∈ members.map Prod.snd, value.UniqueKeys) :
    (Json.object members).UniqueKeys := by
  subst keys
  rw [Json.uniqueKeys_object]
  exact ⟨distinct, fun key value listed =>
    values value (List.mem_map.2 ⟨(key, value), listed, rfl⟩)⟩

/-- Read a data-free enumeration variant, given as a string or as an object with
a `null` payload. -/
def decodeVariant {α : Type} (variants : List (String × α)) : Json → Option α
  | .string name => variants.lookup name
  | .object [(name, .null)] => variants.lookup name
  | _ => none

theorem decodeVariant_of_reorders {α : Type} {variants : List (String × α)} {name : String}
    {value : α} {tree : Json} (reorders : tree.Reorders (.string name))
    (listed : variants.lookup name = some value) : decodeVariant variants tree = some value := by
  rw [Json.eq_string_of_normalize reorders.same]
  exact listed

end SorobanUpgrades
