/-
Module: SorobanUpgrades.Library.Semver
Purpose: Semantic versions with the total order of a version library: major,
  minor, patch, pre-release and build metadata, in that order.
Trusted boundary: human-reviewed spec
Main exports: PreIdentifier, BuildIdentifier, Version, Version.display,
  Version.Precedes, Version.lt_iff
-/
import Mathlib

namespace SorobanUpgrades

/-- A dot-separated identifier of a pre-release. -/
inductive PreIdentifier where
  | numeric (value : Nat)
  | alphanumeric (text : String)
deriving DecidableEq, Repr

/-- A dot-separated identifier of build metadata. Leading zeros are allowed
there, so a numeric identifier remembers how many it has. -/
inductive BuildIdentifier where
  | numeric (value : Nat) (leadingZeros : Nat)
  | alphanumeric (text : String)
deriving DecidableEq, Repr

/-- A semantic version. -/
structure Version where
  major : Nat
  minor : Nat
  patch : Nat
  pre : List PreIdentifier
  build : List BuildIdentifier
deriving DecidableEq, Repr

namespace PreIdentifier

/-- Numeric identifiers rank below alphanumeric ones. -/
def rank : PreIdentifier → ℕ ⊕ₗ String
  | .numeric value => toLex (.inl value)
  | .alphanumeric text => toLex (.inr text)

theorem rank_injective : Function.Injective rank := by
  intro left right equal
  cases left <;> cases right <;> simp_all [rank]

/-- The text of an identifier. -/
def display : PreIdentifier → String
  | .numeric value => toString value
  | .alphanumeric text => text

/-- Numbers compare as numbers and texts as texts; a number precedes a text. -/
def Precedes : PreIdentifier → PreIdentifier → Prop
  | .numeric left, .numeric right => left < right
  | .numeric _, .alphanumeric _ => True
  | .alphanumeric _, .numeric _ => False
  | .alphanumeric left, .alphanumeric right => left < right

theorem precedes_iff {left right : PreIdentifier} :
    left.Precedes right ↔ left.rank < right.rank := by
  cases left <;> cases right <;> simp [Precedes, rank]

end PreIdentifier

namespace BuildIdentifier

/-- Numbers are ordered by value and then by leading zeros, and come before words. -/
def rank : BuildIdentifier → (ℕ ×ₗ ℕ) ⊕ₗ String
  | .numeric value leadingZeros => toLex (.inl (toLex (value, leadingZeros)))
  | .alphanumeric text => toLex (.inr text)

theorem rank_injective : Function.Injective rank := by
  intro left right equal
  cases left <;> cases right <;> simp_all [rank]

/-- The text of an identifier. -/
def display : BuildIdentifier → String
  | .numeric value leadingZeros => "".pushn '0' leadingZeros ++ toString value
  | .alphanumeric text => text

end BuildIdentifier

namespace Version

/-- A version without a pre-release ranks above all its pre-releases. -/
def preRank (pre : List PreIdentifier) : WithTop (List (ℕ ⊕ₗ String)) :=
  if pre = [] then ⊤ else ((pre.map PreIdentifier.rank : List (ℕ ⊕ₗ String)) : WithTop _)

theorem preRank_injective : Function.Injective preRank := by
  intro left right equal
  by_cases leftEmpty : left = [] <;> by_cases rightEmpty : right = []
  · rw [leftEmpty, rightEmpty]
  · simp [preRank, leftEmpty, rightEmpty] at equal
  · simp [preRank, leftEmpty, rightEmpty] at equal
  · simp only [preRank, leftEmpty, rightEmpty, if_false, WithTop.coe_inj] at equal
    exact List.map_injective_iff.2 PreIdentifier.rank_injective equal

/-- The lexicographic key of a version. -/
def rank (version : Version) :
    ℕ ×ₗ ℕ ×ₗ ℕ ×ₗ WithTop (List (ℕ ⊕ₗ String)) ×ₗ List ((ℕ ×ₗ ℕ) ⊕ₗ String) :=
  toLex (version.major, toLex (version.minor, toLex (version.patch,
    toLex (preRank version.pre, version.build.map BuildIdentifier.rank))))

theorem rank_injective : Function.Injective rank := by
  intro left right equal
  have fields := equal
  simp only [rank, EmbeddingLike.apply_eq_iff_eq, Prod.mk.injEq] at fields
  obtain ⟨major, minor, patch, pre, build⟩ := fields
  cases left
  cases right
  simp only at major minor patch pre build
  rw [major, minor, patch, preRank_injective pre,
    List.map_injective_iff.2 BuildIdentifier.rank_injective build]

instance : LinearOrder Version := LinearOrder.lift' rank rank_injective

/-- The text of an identifier. -/
def display (version : Version) : String :=
  let release := s!"{version.major}.{version.minor}.{version.patch}"
  let pre := if version.pre = [] then "" else
    "-" ++ ".".intercalate (version.pre.map PreIdentifier.display)
  let build := if version.build = [] then "" else
    "+" ++ ".".intercalate (version.build.map BuildIdentifier.display)
  release ++ pre ++ build

example : (⟨1, 2, 0, [.alphanumeric "rc", .numeric 1], []⟩ : Version) < ⟨1, 2, 0, [], []⟩ := by
  decide

/-! ### Precedence -/

/-- The first field that differs decides, and a longer list follows its prefix. -/
def FieldsPrecede : List PreIdentifier → List PreIdentifier → Prop
  | _, [] => False
  | [], _ :: _ => True
  | left :: lefts, right :: rights =>
      left.Precedes right ∨ left = right ∧ FieldsPrecede lefts rights

/-- A pre-release precedes the release it belongs to. -/
def PrePrecedes : List PreIdentifier → List PreIdentifier → Prop
  | [], _ => False
  | _ :: _, [] => True
  | left :: lefts, right :: rights => FieldsPrecede (left :: lefts) (right :: rights)

/-- The precedence of semantic versions. Build metadata has no part in it. -/
def Precedes (left right : Version) : Prop :=
  left.major < right.major ∨ left.major = right.major ∧
    (left.minor < right.minor ∨ left.minor = right.minor ∧
      (left.patch < right.patch ∨ left.patch = right.patch ∧ PrePrecedes left.pre right.pre))

/-- The versions differ in build metadata only. -/
def SamePrecedence (left right : Version) : Prop :=
  left.major = right.major ∧ left.minor = right.minor ∧ left.patch = right.patch ∧
    left.pre = right.pre

/-- Build metadata compares last, and only in the order of the library. -/
def BuildPrecedes (left right : List BuildIdentifier) : Prop :=
  left.map BuildIdentifier.rank < right.map BuildIdentifier.rank

theorem fieldsPrecede_iff (left right : List PreIdentifier) :
    FieldsPrecede left right ↔ left.map PreIdentifier.rank < right.map PreIdentifier.rank := by
  induction left generalizing right with
  | nil => cases right <;> simp [FieldsPrecede]
  | cons first lefts inductionHypothesis =>
      cases right with
      | nil => simp [FieldsPrecede]
      | cons second rights =>
          rw [FieldsPrecede, List.map_cons, List.map_cons, List.cons_lt_cons_iff,
            PreIdentifier.precedes_iff, inductionHypothesis, PreIdentifier.rank_injective.eq_iff]

theorem prePrecedes_iff (left right : List PreIdentifier) :
    PrePrecedes left right ↔ preRank left < preRank right := by
  cases left with
  | nil => simp [PrePrecedes, preRank]
  | cons first lefts =>
      cases right with
      | nil => simp [PrePrecedes, preRank]
      | cons second rights =>
          rw [PrePrecedes, fieldsPrecede_iff, preRank, preRank, if_neg (List.cons_ne_nil _ _),
            if_neg (List.cons_ne_nil _ _), WithTop.coe_lt_coe]

/-- The part of the key that precedence compares. -/
def precedence (version : Version) : ℕ ×ₗ ℕ ×ₗ ℕ ×ₗ WithTop (List (ℕ ⊕ₗ String)) :=
  toLex (version.major, toLex (version.minor, toLex (version.patch, preRank version.pre)))

theorem precedes_iff {left right : Version} :
    left.Precedes right ↔ left.precedence < right.precedence := by
  simp only [Precedes, precedence, Prod.Lex.toLex_lt_toLex, prePrecedes_iff]

theorem samePrecedence_iff {left right : Version} :
    left.SamePrecedence right ↔ left.precedence = right.precedence := by
  simp only [SamePrecedence, precedence, EmbeddingLike.apply_eq_iff_eq, Prod.mk.injEq,
    preRank_injective.eq_iff]

/-- The order of the library is precedence, with build metadata to break ties. -/
theorem lt_iff {left right : Version} :
    left < right ↔
      left.Precedes right ∨ left.SamePrecedence right ∧ BuildPrecedes left.build right.build := by
  change left.rank < right.rank ↔ _
  simp only [rank, Precedes, SamePrecedence, BuildPrecedes, Prod.Lex.toLex_lt_toLex,
    prePrecedes_iff, preRank_injective.eq_iff]
  tauto

end Version

end SorobanUpgrades
