/-
Module: SorobanUpgrades.Proofs.VersionGate
Purpose: The version gate against the precedence of semantic versions, for one
  step and for a chain of releases.
Trusted boundary: none
Main exports: RaisesPrecedence, RaisesBuildOnly, versionGate_raises_precedence_iff
-/
import SorobanUpgrades.Proofs.CheckVerdicts
import SorobanUpgrades.Core.Plan

namespace SorobanUpgrades

section Gate

variable (primitives : Primitives)

/-- The semantic version that the `binver` of an artifact spells. -/
def Artifact.readVersion (artifact : Artifact) : Option Version :=
  artifact.version.bind primitives.parseVersion

/-- Both versions are readable and the target has the higher precedence. -/
def RaisesPrecedence (source target : Artifact) : Prop :=
  ∃ before after, source.readVersion primitives = some before ∧
    target.readVersion primitives = some after ∧ before.Precedes after

/-- Both versions are readable and differ in build metadata alone, which grows. -/
def RaisesBuildOnly (source target : Artifact) : Prop :=
  ∃ before after, source.readVersion primitives = some before ∧
    target.readVersion primitives = some after ∧ before.SamePrecedence after ∧
    Version.BuildPrecedes before.build after.build

variable {primitives} {source target : Artifact} {policy : Policy}

theorem isError_checkVersions :
    ∀ finding ∈ checkVersions primitives source target policy, finding.isError = true := by
  intro finding listed
  unfold checkVersions at listed
  repeat' split at listed
  all_goals simp_all

/-- The gate compares with the order of the version library. -/
theorem checkVersions_eq_nil_iff_increases (required : policy.requireSemverIncrease = true) :
    checkVersions primitives source target policy = [] ↔
      VersionIncreases primitives source target := by
  rw [← unblocked_checkVersions_iff required]
  constructor
  · intro silent
    rw [silent]
    exact unblocked_nil
  · intro clear
    apply List.eq_nil_iff_forall_not_mem.2
    intro finding listed
    have blocks := isError_checkVersions finding listed
    rw [clear finding listed] at blocks
    cases blocks

theorem checkVersions_eq_nil_iff (required : policy.requireSemverIncrease = true) :
    checkVersions primitives source target policy = [] ↔
      RaisesPrecedence primitives source target ∨ RaisesBuildOnly primitives source target := by
  have read : VersionIncreases primitives source target ↔
      ∃ before after, source.readVersion primitives = some before ∧
        target.readVersion primitives = some after ∧ before < after := by
    simp only [VersionIncreases, Artifact.readVersion, Option.bind_eq_some_iff]
    constructor
    · rintro ⟨_, _, before, after, named, namedTarget, parsed, parsedTarget, less⟩
      exact ⟨before, after, ⟨_, named, parsed⟩, ⟨_, namedTarget, parsedTarget⟩, less⟩
    · rintro ⟨before, after, ⟨_, named, parsed⟩, ⟨_, namedTarget, parsedTarget⟩, less⟩
      exact ⟨_, _, before, after, named, namedTarget, parsed, parsedTarget, less⟩
  rw [checkVersions_eq_nil_iff_increases required, read, RaisesPrecedence, RaisesBuildOnly]
  simp only [Version.lt_iff]
  constructor
  · rintro ⟨before, after, read, readTarget, higher | tied⟩
    · exact Or.inl ⟨before, after, read, readTarget, higher⟩
    · exact Or.inr ⟨before, after, read, readTarget, tied⟩
  · rintro (⟨before, after, read, readTarget, higher⟩ | ⟨before, after, read, readTarget, tied⟩)
    · exact ⟨before, after, read, readTarget, Or.inl higher⟩
    · exact ⟨before, after, read, readTarget, Or.inr tied⟩

/-- A release does not raise precedence and build metadata alone. -/
theorem not_raisesPrecedence_of_raisesBuildOnly
    (buildOnly : RaisesBuildOnly primitives source target) :
    ¬ RaisesPrecedence primitives source target := by
  rintro ⟨before, after, read, readTarget, higher⟩
  obtain ⟨first, second, readFirst, readSecond, same, _⟩ := buildOnly
  rw [read, Option.some.injEq] at readFirst
  rw [readTarget, Option.some.injEq] at readSecond
  subst readFirst readSecond
  rw [Version.precedes_iff, Version.samePrecedence_iff.1 same] at higher
  exact lt_irrefl _ higher

end Gate

/-! ### Chains -/

/-- Releases `0` to `length` where every step passes the gate of a policy that
requires an increase, and none grows in build metadata alone. -/
structure GatedChain (primitives : Primitives) (length : Nat) (artifacts : Nat → Artifact)
    (policies : Nat → Policy) : Prop where
  required : ∀ i < length, (policies i).requireSemverIncrease = true
  passed : ∀ i < length,
    checkVersions primitives (artifacts i) (artifacts (i + 1)) (policies i) = []
  notBuildOnly : ∀ i < length, ¬ RaisesBuildOnly primitives (artifacts i) (artifacts (i + 1))

section Chains

variable {primitives : Primitives} {length : Nat} {artifacts : Nat → Artifact}
  {policies : Nat → Policy}

/-- One step of a gated chain raises the precedence. -/
theorem raisesPrecedence_step (chain : GatedChain primitives length artifacts policies) {i : Nat}
    (inside : i < length) : RaisesPrecedence primitives (artifacts i) (artifacts (i + 1)) := by
  rcases (checkVersions_eq_nil_iff (chain.required i inside)).1 (chain.passed i inside) with
    raised | buildOnly
  · exact raised
  · exact absurd buildOnly (chain.notBuildOnly i inside)

theorem RaisesPrecedence.trans {first second third : Artifact}
    (lower : RaisesPrecedence primitives first second)
    (upper : RaisesPrecedence primitives second third) :
    RaisesPrecedence primitives first third := by
  obtain ⟨before, between, readFirst, readSecond, rising⟩ := lower
  obtain ⟨again, after, readAgain, readThird, further⟩ := upper
  rw [readSecond, Option.some.injEq] at readAgain
  subst readAgain
  rw [Version.precedes_iff] at rising further
  exact ⟨before, after, readFirst, readThird, Version.precedes_iff.2 (lt_trans rising further)⟩

/-- Every later release of a gated chain has the higher precedence. -/
theorem raisesPrecedence_run (chain : GatedChain primitives length artifacts policies) {i j : Nat}
    (earlier : i < j) (inside : j ≤ length) :
    RaisesPrecedence primitives (artifacts i) (artifacts j) := by
  induction j, earlier using Nat.le_induction with
  | base => exact raisesPrecedence_step chain inside
  | succ j earlier inductionHypothesis =>
      exact (inductionHypothesis (Nat.le_of_succ_le inside)).trans
        (raisesPrecedence_step chain inside)

end Chains

/-- The gate asks for a higher precedence exactly where the step does not grow in
build metadata alone, and a chain without such steps repeats no precedence. -/
theorem versionGate_raises_precedence_iff (primitives : Primitives) :
    (∀ (source target : Artifact) (policy : Policy), policy.requireSemverIncrease = true →
      ((checkVersions primitives source target policy = [] ↔
        RaisesPrecedence primitives source target) ↔
      ¬ RaisesBuildOnly primitives source target)) ∧
    ∀ (length : Nat) (artifacts : Nat → Artifact) (policies : Nat → Policy),
      GatedChain primitives length artifacts policies →
      ∀ i j, i < j → j ≤ length → ∀ before after,
        (artifacts i).readVersion primitives = some before →
        (artifacts j).readVersion primitives = some after →
        ¬ before.SamePrecedence after := by
  constructor
  · intro source target policy required
    rw [checkVersions_eq_nil_iff required]
    constructor
    · intro gate buildOnly
      exact not_raisesPrecedence_of_raisesBuildOnly buildOnly (gate.1 (Or.inr buildOnly))
    · intro notBuildOnly
      exact or_iff_left notBuildOnly
  · intro length artifacts policies chain i j earlier inside before after read readLater same
    obtain ⟨first, second, readFirst, readSecond, rising⟩ :=
      raisesPrecedence_run chain earlier inside
    rw [read, Option.some.injEq] at readFirst
    rw [readLater, Option.some.injEq] at readSecond
    subst readFirst readSecond
    rw [Version.precedes_iff, Version.samePrecedence_iff.1 same] at rising
    exact lt_irrefl _ rising

namespace Sample

/-- The sample functions with a reader of two builds of one version. -/
def buildPrimitives : Primitives :=
  { primitives with
    parseVersion := fun
      | "1.0.0+1" => some ⟨1, 0, 0, [], [.numeric 1 0]⟩
      | "1.0.0+2" => some ⟨1, 0, 0, [], [.numeric 2 0]⟩
      | text => parseVersion text }

/-- Two releases that differ in the major version. -/
def versionedReleases : Nat → Artifact
  | 0 => artifact "1.0.0" ["upgrade"]
  | _ => artifact "2.0.0" ["upgrade"]

theorem versionedChain :
    GatedChain primitives 1 versionedReleases (fun _ => Policy.default) where
  required := by
    intro i _
    rfl
  passed := by
    intro i inside
    obtain rfl : i = 0 := by omega
    decide
  notBuildOnly := by
    intro i inside buildOnly
    obtain rfl : i = 0 := by omega
    obtain ⟨before, after, read, readTarget, same, _⟩ := buildOnly
    cases Option.some.inj (read.symm.trans rfl : some before = some ⟨1, 0, 0, [], []⟩)
    cases Option.some.inj (readTarget.symm.trans rfl : some after = some ⟨2, 0, 0, [], []⟩)
    exact absurd same.1 (by decide)

end Sample

theorem sampleVersionGate_raises_precedence :
    (checkVersions Sample.primitives (Sample.versionedReleases 0) (Sample.versionedReleases 1)
      Policy.default = [] ↔
      RaisesPrecedence Sample.primitives (Sample.versionedReleases 0)
        (Sample.versionedReleases 1)) ∧
    ¬ (⟨1, 0, 0, [], []⟩ : Version).SamePrecedence ⟨2, 0, 0, [], []⟩ := by
  obtain ⟨steps, chains⟩ := versionGate_raises_precedence_iff Sample.primitives
  constructor
  · exact (steps _ _ Policy.default rfl).2 (Sample.versionedChain.notBuildOnly 0 (by decide))
  · exact chains 1 Sample.versionedReleases (fun _ => Policy.default) Sample.versionedChain 0 1
      (by decide) (by decide) _ _ rfl rfl

/-- A second build of the same version passes the gate. -/
theorem buildMetadata_passes_gate :
    ¬ ∀ (primitives : Primitives) (source target : Artifact) (policy : Policy),
      policy.requireSemverIncrease = true →
      (checkVersions primitives source target policy = [] ↔
        RaisesPrecedence primitives source target) := by
  intro gate
  have passed := gate Sample.buildPrimitives (Sample.artifact "1.0.0+1" ["upgrade"])
    (Sample.artifact "1.0.0+2" ["upgrade"]) Policy.default rfl
  obtain ⟨before, after, read, readTarget, higher⟩ := passed.1 (by decide)
  cases Option.some.inj (read.symm.trans rfl : some before = some ⟨1, 0, 0, [], [.numeric 1 0]⟩)
  cases Option.some.inj
    (readTarget.symm.trans rfl : some after = some ⟨1, 0, 0, [], [.numeric 2 0]⟩)
  simp [Version.Precedes, Version.PrePrecedes] at higher

end SorobanUpgrades
