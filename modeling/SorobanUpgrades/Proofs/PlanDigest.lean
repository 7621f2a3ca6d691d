/-
Module: SorobanUpgrades.Proofs.PlanDigest
Purpose: The bytes a plan digest covers determine every field of the plan but
  the digest, and do not depend on the digest.
Trusted boundary: none
Main exports: planDigestBytes_setDigest, planDigestBytes_binds_plan
-/
import SorobanUpgrades.Library.JsonText
import SorobanUpgrades.Core.Plan

namespace SorobanUpgrades

open Json (sortMembers lookup_sortMembers_of_nodup filter_sortMembers_eq_iff
  sortMembers_eq_of_lookup compact_injective)

/-- A plan with another digest. -/
def UpgradePlan.setDigest (plan : UpgradePlan) (digest : String) : UpgradePlan :=
  { plan with planSha256 := digest }

/-- The members of an encoded plan, with sorted values. -/
def UpgradePlan.encodedMembers (plan : UpgradePlan) : List Member :=
  match encode plan with
  | .object members => members.map fun member => (member.1, member.2.normalize)
  | _ => []

theorem normalize_encode_plan (plan : UpgradePlan) :
    (encode plan).normalize = .object (sortMembers plan.encodedMembers) :=
  Json.normalize_object _

/-- The digest covers the sorted members of the plan but one. -/
theorem planDigestBytes_eq (plan : UpgradePlan) :
    planDigestBytes plan = .ok (utf8 (Json.object
      ((sortMembers plan.encodedMembers).filter fun member =>
        decide (member.1 ≠ "planSha256"))).compact) := by
  rw [planDigestBytes, normalize_encode_plan]

theorem keysOf_encodedMembers (plan : UpgradePlan) :
    keysOf plan.encodedMembers = UpgradePlan.fieldNames := rfl

theorem nodup_keysOf_encodedMembers (plan : UpgradePlan) :
    (keysOf plan.encodedMembers).Nodup := by
  rw [keysOf_encodedMembers]
  decide

/-- Only one member of an encoded plan shows its digest. -/
theorem lookup_encodedMembers_setDigest (plan : UpgradePlan) (digest : String) {key : String}
    (other : key ≠ "planSha256") :
    (plan.setDigest digest).encodedMembers.lookup key = plan.encodedMembers.lookup key := by
  have skip : ∀ (first member replaced : Member) (rest : List Member),
      member.1 = "planSha256" → replaced.1 = "planSha256" →
      (first :: member :: rest).lookup key = (first :: replaced :: rest).lookup key := by
    rintro ⟨firstKey, firstValue⟩ ⟨_, value⟩ ⟨_, replacement⟩ rest rfl rfl
    simp only [List.lookup_cons, beq_eq_false_iff_ne.2 other]
  exact skip _ _ _ _ rfl rfl

theorem lookup_encodedMembers_planSha256 (plan : UpgradePlan) :
    plan.encodedMembers.lookup "planSha256" = some (.string plan.planSha256) := rfl

theorem planDigestBytes_setDigest (plan : UpgradePlan) (digest : String) :
    planDigestBytes (plan.setDigest digest) = planDigestBytes plan := by
  rw [planDigestBytes_eq, planDigestBytes_eq, (filter_sortMembers_eq_iff fun key => decide (key ≠ "planSha256")).2]
  intro key kept
  rw [lookup_sortMembers_of_nodup (nodup_keysOf_encodedMembers _),
    lookup_sortMembers_of_nodup (nodup_keysOf_encodedMembers _)]
  exact lookup_encodedMembers_setDigest plan digest (of_decide_eq_true kept)

/-- Plans with one digest text and the same digest bytes are equal. -/
theorem eq_of_planDigestBytes_eq {left right : UpgradePlan}
    (bytes : planDigestBytes left = planDigestBytes right)
    (digests : left.planSha256 = right.planSha256) : left = right := by
  rw [planDigestBytes_eq, planDigestBytes_eq, Except.ok.injEq] at bytes
  have members := Json.object.inj (compact_injective (utf8_injective bytes))
  rw [filter_sortMembers_eq_iff fun key => decide (key ≠ "planSha256")] at members
  apply eq_of_normalize_encode_eq
  rw [normalize_encode_plan, normalize_encode_plan, Json.object.injEq]
  apply sortMembers_eq_of_lookup
  intro key
  by_cases digest : key = "planSha256"
  · rw [digest, lookup_sortMembers_of_nodup (nodup_keysOf_encodedMembers _),
      lookup_sortMembers_of_nodup (nodup_keysOf_encodedMembers _),
      lookup_encodedMembers_planSha256, lookup_encodedMembers_planSha256, digests]
  · exact members key (decide_eq_true digest)

/-- The digest bytes exist, bind every field but the digest, and ignore the digest. -/
theorem planDigestBytes_binds_plan :
    (∀ plan : UpgradePlan, ∃ bytes, planDigestBytes plan = .ok bytes) ∧
    (∀ left right : UpgradePlan, planDigestBytes left = planDigestBytes right ↔
      { left with planSha256 := "" } = { right with planSha256 := "" }) ∧
    ∀ (plan : UpgradePlan) (digest : String),
      planDigestBytes { plan with planSha256 := digest } = planDigestBytes plan := by
  refine ⟨fun plan => ⟨_, planDigestBytes_eq plan⟩, fun left right => ?_,
    planDigestBytes_setDigest⟩
  constructor
  · intro bytes
    have same : planDigestBytes (left.setDigest "") = planDigestBytes (right.setDigest "") := by
      rw [planDigestBytes_setDigest, planDigestBytes_setDigest, bytes]
    exact eq_of_planDigestBytes_eq same rfl
  · intro equal
    calc planDigestBytes left
        = planDigestBytes (left.setDigest "") := (planDigestBytes_setDigest left "").symm
      _ = planDigestBytes (right.setDigest "") := congrArg planDigestBytes equal
      _ = planDigestBytes right := planDigestBytes_setDigest right ""

end SorobanUpgrades
