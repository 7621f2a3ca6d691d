/-
Module: SorobanUpgrades.Proofs.SecretScan
Purpose: The scan of an encoded document finds a secret seed exactly when one of
  its decoded strings or keys contains it, so no created plan carries one.
Trusted boundary: none
Main exports: ContainsSeed, containsStellarPrivateKey_iff,
  containsStellarPrivateKey_compact_iff, createdPlan_carries_no_seed
-/
import SorobanUpgrades.Proofs.PlanVerification

namespace SorobanUpgrades

open Outcome (bind_eq_ok_iff)

/-- Some 56 characters in a row are a private key. -/
def ContainsSeed (primitives : Primitives) (text : List Char) : Prop :=
  ∃ seed, seed <:+: text ∧ seed.length = stellarSecretSeedLength ∧
    primitives.privateKeyFromString (String.ofList seed) = true

variable {primitives : Primitives}

/-! ### Seeds as tokens -/

theorem isAlphanum_of_isBase32 {character : Char} (base32 : isBase32 character = true) :
    character.isAlphanum = true := by
  simp only [isBase32, Bool.or_eq_true, Bool.and_eq_true, decide_eq_true_eq] at base32
  simp only [Char.isAlphanum, Char.isAlpha, Char.isDigit, Bool.or_eq_true, Bool.and_eq_true,
    decide_eq_true_eq, UInt32.le_iff_toNat_le]
  rcases base32 with upper | ⟨low, high⟩
  · exact Or.inl (Or.inl upper)
  · refine Or.inr ⟨?_, ?_⟩
    · exact le_trans (by decide) low
    · exact le_trans high (by decide)

/-- A private key is a word that only a string of a document can spell. -/
theorem isToken_of_privateKey (lawful : primitives.Lawful) {seed : List Char}
    (key : primitives.privateKeyFromString (String.ofList seed) = true) : IsToken seed := by
  obtain ⟨first, base32⟩ := lawful.privateKey_base32 _ key
  rw [String.toList_ofList] at first base32
  refine ⟨?_, fun character listed =>
    isAlphanum_of_isBase32 (List.all_eq_true.1 base32 character listed)⟩
  cases seed with
  | nil => cases first
  | cons lead rest =>
      rw [List.head?_cons, Option.some.injEq] at first
      subst first
      exact ⟨'S', rest, rfl, rfl⟩

theorem ascii_of_isToken {word : List Char} (token : IsToken word) :
    ∀ character ∈ word, character.toNat < 128 := by
  intro character listed
  have alphanumeric := token.alphanumeric character listed
  simp only [Char.isAlphanum, Char.isAlpha, Char.isUpper, Char.isLower, Char.isDigit,
    Bool.or_eq_true, Bool.and_eq_true, decide_eq_true_eq, UInt32.le_iff_toNat_le] at alphanumeric
  change character.val.toNat < 128
  rcases alphanumeric with (⟨_, high⟩ | ⟨_, high⟩) | ⟨_, high⟩ <;>
    exact lt_of_le_of_lt high (by decide)

/-! ### The scan -/

/-- The scan of a text finds exactly the seeds among its substrings. -/
theorem containsStellarPrivateKey_iff (lawful : primitives.Lawful) {text : List Char} :
    containsStellarPrivateKey primitives text = true ↔ ContainsSeed primitives text := by
  have positive : 0 < stellarSecretSeedLength := by decide
  simp only [containsStellarPrivateKey, List.any_eq_true, mem_windows_iff positive,
    isPrivateKeyWindow, Bool.and_eq_true, beq_iff_eq]
  constructor
  · rintro ⟨window, ⟨inside, size⟩, ⟨lead, ascii⟩, key⟩
    have nonempty : window ≠ [] := by
      rintro rfl
      cases lead
    rw [List.all_eq_true] at ascii
    obtain ⟨word, within, rfl, plain⟩ := (infix_utf8_iff nonempty ascii).1 inside
    rw [asciiText_utf8 plain] at key
    rw [utf8_eq_map_of_ascii plain, List.length_map] at size
    exact ⟨word, within, size, key⟩
  · rintro ⟨seed, within, size, key⟩
    have token := isToken_of_privateKey lawful key
    have plain := ascii_of_isToken token
    have bytes := utf8_eq_map_of_ascii plain
    have ascii : ∀ byte ∈ utf8 seed, isAscii byte = true := by
      intro byte listed
      rw [bytes] at listed
      obtain ⟨character, member, rfl⟩ := List.mem_map.1 listed
      have small := plain character member
      simp only [isAscii, UInt8.toNat_ofNat', decide_eq_true_eq]
      omega
    have nonempty : utf8 seed ≠ [] := by
      rw [bytes]
      exact fun empty => token.ne_nil (List.map_eq_nil_iff.1 empty)
    have lead : (utf8 seed).head? = some 83 := by
      obtain ⟨first, _⟩ := lawful.privateKey_base32 _ key
      rw [String.toList_ofList] at first
      rw [bytes, List.head?_map, first]
      rfl
    refine ⟨utf8 seed, ⟨(infix_utf8_iff nonempty ascii).2 ⟨seed, within, rfl, plain⟩, ?_⟩,
      ⟨lead, List.all_eq_true.2 ascii⟩, ?_⟩
    · rw [bytes, List.length_map, size]
    · rw [asciiText_utf8 plain]
      exact key

/-- A scan of a text looks at the strings that it spells. -/
theorem containsStellarPrivateKey_spelled_iff (lawful : primitives.Lawful) {text : List Char}
    {strings : List String} (spelled : ∀ {token : List Char}, IsToken token →
      (token <:+: text ↔ ∃ part ∈ strings, token <:+: part.toList)) :
    containsStellarPrivateKey primitives text = true ↔
      ∃ part ∈ strings, ContainsSeed primitives part.toList := by
  rw [containsStellarPrivateKey_iff lawful]
  constructor
  · intro found
    obtain ⟨seed, within, size, key⟩ := found
    obtain ⟨part, listed, inside⟩ := (spelled (isToken_of_privateKey lawful key)).1 within
    exact ⟨part, listed, seed, inside, size, key⟩
  · intro found
    obtain ⟨part, listed, seed, inside, size, key⟩ := found
    exact ⟨seed, (spelled (isToken_of_privateKey lawful key)).2 ⟨part, listed, inside⟩, size, key⟩

/-- The scan of a printed document looks at its decoded strings and keys. -/
theorem containsStellarPrivateKey_compact_iff (lawful : primitives.Lawful) (tree : Json) :
    containsStellarPrivateKey primitives tree.compact = true ↔
      ∃ text ∈ tree.strings, ContainsSeed primitives text.toList :=
  containsStellarPrivateKey_spelled_iff lawful fun token => token.infix_compact_iff tree

/-- So does the scan of a written document. -/
theorem containsStellarPrivateKey_pretty_iff (lawful : primitives.Lawful) (tree : Json) :
    containsStellarPrivateKey primitives (tree.pretty ++ ['\n']) = true ↔
      ∃ text ∈ tree.strings, ContainsSeed primitives text.toList :=
  containsStellarPrivateKey_spelled_iff lawful fun token => token.infix_pretty_line_iff tree

/-! ### Plans -/

/-- Filling in the digest adds one string. -/
theorem mem_strings_setDigest {plan : UpgradePlan} {digest text : String}
    (listed : text ∈ (encode (plan.setDigest digest)).strings) :
    text = digest ∨ text ∈ (encode plan).strings := by
  have replaced : ∀ (first : Member) (key before after : String) (rest : List Member),
      text ∈ (Json.object (first :: (key, .string after) :: rest)).strings →
      text = after ∨ text ∈ (Json.object (first :: (key, .string before) :: rest)).strings := by
    rintro ⟨firstKey, first⟩ key before after rest member
    simp only [Json.strings, Json.stringsMembers, List.mem_cons, List.mem_append,
      List.not_mem_nil, or_false] at member ⊢
    tauto
  exact replaced _ _ plan.planSha256 _ _ listed

/-- A hex digest contains no seed. -/
theorem not_containsSeed_hexEncode (lawful : primitives.Lawful) (bytes : List UInt8) :
    ¬ ContainsSeed primitives (primitives.hexEncode bytes).toList := by
  rintro ⟨seed, within, _, key⟩
  obtain ⟨first, _⟩ := lawful.privateKey_base32 _ key
  rw [String.toList_ofList] at first
  have listed := within.subset (List.mem_of_head? first)
  have lower := List.all_eq_true.1 (lawful.hexEncode_lower bytes) 'S' listed
  exact absurd lower (by decide)

/-- No string or key of a created plan contains a secret seed, and the final scan
refuses a plan for no other reason. -/
theorem createdPlan_carries_no_seed (primitives : Primitives) (lawful : primitives.Lawful) :
    (∀ (report : ValidationReport) (network contractId sourceIdentity : String)
      (inputs : PlanInputPaths) (operations : PlanOperations) (plan : UpgradePlan),
      createPlanWithPaths primitives report network contractId sourceIdentity inputs operations
        = .ok plan →
      ∀ text ∈ (encode plan).strings, ¬ ContainsSeed primitives text.toList) ∧
    ∀ plan : UpgradePlan,
      (∀ text ∈ (encode plan).strings, ¬ ContainsSeed primitives text.toList) →
      containsStellarPrivateKey primitives (encode plan).compact = false := by
  constructor
  · intro report network contractId sourceIdentity inputs operations plan created text listed
    obtain ⟨_, scanned, digest, calculated, rfl⟩ := createPlanWithPaths_eq_ok_iff.1 created
    obtain ⟨bytes, _, hashed⟩ := bind_eq_ok_iff.1 calculated
    rw [Except.ok.injEq] at hashed
    rcases mem_strings_setDigest listed with rfl | assembled
    · rw [← hashed]
      exact not_containsSeed_hexEncode lawful _
    · intro seed
      have found := (containsStellarPrivateKey_compact_iff lawful _).2 ⟨text, assembled, seed⟩
      rw [scanned] at found
      cases found
  · intro plan clean
    rw [← Bool.not_eq_true, containsStellarPrivateKey_compact_iff lawful]
    rintro ⟨text, listed, seed⟩
    exact clean text listed seed

/-- The text form of the private key of thirty-two bytes 8. -/
def Sample.privateKey : String := "SAEAQCAIBAEAQCAIBAEAQCAIBAEAQCAIBAEAQCAIBAEAQCAIBAEAQMUP"

/-- The sample functions with one private key. -/
def Sample.keyed : Primitives :=
  { Sample.primitives with privateKeyFromString := (· == Sample.privateKey) }

theorem Sample.keyed_lawful : Sample.keyed.Lawful where
  privateKey_base32 text key := by
    obtain rfl : text = Sample.privateKey := eq_of_beq key
    decide
  hexEncode_lower := Sample.isLowerHex_hexEncode

/-- The sample plan carries no seed, and no plan names a private key as its network. -/
theorem samplePlan_carries_no_seed :
    (∃ plan, createPlanWithPaths Sample.primitives Sample.safeReport "testnet" Sample.contractId
        "deployer" Sample.inputs Sample.operations = .ok plan ∧
      ∀ text ∈ (encode plan).strings, ¬ ContainsSeed Sample.primitives text.toList) ∧
    ¬ ∃ plan, createPlanWithPaths Sample.keyed Sample.safeReport Sample.privateKey
      Sample.contractId "deployer" Sample.inputs Sample.operations = .ok plan := by
  constructor
  · obtain ⟨digest, created⟩ := Sample.plan_created
    exact ⟨_, created, (createdPlan_carries_no_seed Sample.primitives Sample.lawful).1
      _ _ _ _ _ _ _ created⟩
  · rintro ⟨plan, created⟩
    have clean := (createdPlan_carries_no_seed Sample.keyed Sample.keyed_lawful).1
      _ _ _ _ _ _ _ created
    have named : Sample.privateKey ∈ (encode plan).strings := by
      obtain ⟨_, _, digest, _, rfl⟩ := createPlanWithPaths_eq_ok_iff.1 created
      change Sample.privateKey ∈ Json.stringsMembers _
      rw [Json.stringsMembers_eq_flatMap, List.mem_flatMap]
      refine ⟨("network", .string Sample.privateKey), ?_, by simp [Json.strings]⟩
      simp [assemblePlan, UpgradePlan.setDigest, encode]
    exact clean _ named ⟨_, List.infix_rfl, by decide, by decide⟩

end SorobanUpgrades
