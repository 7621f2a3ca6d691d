/-
Module: SorobanUpgrades.Proofs.EvidenceLabels
Purpose: When the evidence that a report labels as a fact agrees with the
  findings of the same report.
Trusted boundary: none
Main exports: FactsAgree, CompleteEvidence, facts_agree_iff
-/
import SorobanUpgrades.Proofs.FindingCodes
import SorobanUpgrades.Core.Plan

namespace SorobanUpgrades

/-- No finding of a report contradicts what its evidence labels as a fact. -/
structure FactsAgree (report : ValidationReport) : Prop where
  network : report.evidence.targetNetworkProtocol.status = .fact →
    Reports "NET005" report.findings ∧ ¬ Reports "NET006" report.findings
  storage : report.evidence.declaredStorageSchema.status = .fact →
    ¬ Reports "STO004" report.findings ∧ ¬ Reports "STO006" report.findings ∧
      ¬ Reports "STO010" report.findings
  history : report.evidence.declaredSchemaHistory.status = .fact →
    ¬ Reports "HIS000" report.findings ∧ ¬ Reports "HIS001" report.findings ∧
      ¬ Reports "HIS012" report.findings

/-- A live network read that is otherwise complete has a passphrase and an RPC
version, and every manifest the pair or the history supplies is of format 1 and
marked complete. -/
structure CompleteEvidence (context : ValidationContext)
    (sourceSchema targetSchema : Option StorageSchema) (schemaHistory : Option SchemaHistory) :
    Prop where
  network : context.protocolSource = .stellarCliNetworkInfo →
    context.targetProtocolVersion.isSome = true → context.networkName.isSome = true →
    context.networkId.isSome = true → context.observedAtUnixSeconds.isSome = true →
    context.networkPassphrase.isSome = true ∧ context.rpcVersion.isSome = true
  storage : ∀ before after, sourceSchema = some before → targetSchema = some after →
    (before.formatVersion = 1 ∧ before.complete = true) ∧
      after.formatVersion = 1 ∧ after.complete = true
  history : ∀ history, schemaHistory = some history →
    history.formatVersion = 1 ∧ history.complete = true

section Labels

variable {primitives : Primitives} {source target : Artifact}
  {sourceSchema targetSchema : Option StorageSchema} {policy : Policy}
  {context : ValidationContext} {schemaHistory : Option SchemaHistory} {code : String}

theorem reports_findings_iff :
    Reports code (validateWithHistory primitives source target sourceSchema targetSchema policy
      context schemaHistory).findings ↔
    Reports code (pushedFindings primitives source target sourceSchema targetSchema policy context
      schemaHistory) := by
  simp only [Reports, mem_findings_iff]

theorem reports_network_iff (network : code = "NET005" ∨ code = "NET006") :
    Reports code (validateWithHistory primitives source target sourceSchema targetSchema policy
      context schemaHistory).findings ↔ Reports code (checkProtocolContext context) := by
  rcases network with rfl | rfl
  all_goals
    rw [reports_findings_iff, reports_pushedFindings_iff (by simp [artifactCodes]),
      or_iff_left (not_or.2 ⟨codesWithin_checkHistoryEvidence.not_reports
        (by simp [comparedHistoryCodes]), codesWithin_checkStorageEvidence.not_reports
        (by simp [comparedStorageCodes])⟩)]

theorem reports_history_iff (history : code = "HIS000" ∨ code = "HIS001" ∨ code = "HIS012") :
    Reports code (validateWithHistory primitives source target sourceSchema targetSchema policy
      context schemaHistory).findings ↔
    Reports code (checkHistoryEvidence primitives source target policy schemaHistory) := by
  rcases history with rfl | rfl | rfl
  all_goals
    rw [reports_findings_iff, reports_pushedFindings_iff (by simp [artifactCodes]),
      or_iff_right (codesWithin_checkProtocolContext.not_reports (by simp)),
      or_iff_left (codesWithin_checkStorageEvidence.not_reports (by simp [comparedStorageCodes]))]

theorem reports_storage_iff (storage : code = "STO004" ∨ code = "STO006" ∨ code = "STO010") :
    Reports code (validateWithHistory primitives source target sourceSchema targetSchema policy
      context schemaHistory).findings ↔
    Reports code (checkStorageEvidence primitives source target policy sourceSchema
      targetSchema) := by
  rcases storage with rfl | rfl | rfl
  all_goals
    rw [reports_findings_iff, reports_pushedFindings_iff (by simp [artifactCodes]),
      or_iff_right (codesWithin_checkProtocolContext.not_reports (by simp)),
      or_iff_right (codesWithin_checkHistoryEvidence.not_reports (by simp [comparedHistoryCodes]))]

/-- The network label asks for four of the six fields that a live read needs. -/
theorem targetNetworkProtocol_fact_iff :
    (targetNetworkProtocolEvidence context).status = .fact ↔
      context.protocolSource = .stellarCliNetworkInfo ∧
        context.targetProtocolVersion.isSome = true ∧ context.networkName.isSome = true ∧
        context.networkId.isSome = true ∧ context.observedAtUnixSeconds.isSome = true := by
  unfold targetNetworkProtocolEvidence
  cases context.protocolSource with
  | unpinned => simp [targetNetworkProtocolEvidence.unknown]
  | offlineAssertion => simp
  | stellarCliNetworkInfo =>
      dsimp only
      split
      · rename_i present
        simpa [and_assoc] using present
      · rename_i absent
        simpa [targetNetworkProtocolEvidence.unknown] using absent

/-- A live read is complete or incomplete, and the report says which. -/
theorem reports_liveNetwork_iff (live : context.protocolSource = .stellarCliNetworkInfo) :
    (Reports "NET005" (checkProtocolContext context) ∧
      ¬ Reports "NET006" (checkProtocolContext context)) ↔
    context.targetProtocolVersion.isSome = true ∧ context.networkName.isSome = true ∧
      context.networkId.isSome = true ∧ context.networkPassphrase.isSome = true ∧
      context.rpcVersion.isSome = true ∧ context.observedAtUnixSeconds.isSome = true := by
  rw [checkProtocolContext, live]
  dsimp only
  split
  · rename_i complete
    simpa [and_assoc] using complete
  · rename_i incomplete
    simpa using incomplete

/-! ### The three labels -/

theorem network_agrees_iff :
    ((targetNetworkProtocolEvidence context).status = .fact →
      Reports "NET005" (validateWithHistory primitives source target sourceSchema targetSchema
        policy context schemaHistory).findings ∧
      ¬ Reports "NET006" (validateWithHistory primitives source target sourceSchema targetSchema
        policy context schemaHistory).findings) ↔
    (context.protocolSource = .stellarCliNetworkInfo →
      context.targetProtocolVersion.isSome = true → context.networkName.isSome = true →
      context.networkId.isSome = true → context.observedAtUnixSeconds.isSome = true →
      context.networkPassphrase.isSome = true ∧ context.rpcVersion.isSome = true) := by
  rw [reports_network_iff (Or.inl rfl), reports_network_iff (Or.inr rfl),
    targetNetworkProtocol_fact_iff]
  by_cases live : context.protocolSource = .stellarCliNetworkInfo
  · rw [reports_liveNetwork_iff live]
    tauto
  · simp [live]

theorem storage_agrees_iff :
    ((declaredStorageSchemaEvidence (sourceSchema.isSome && targetSchema.isSome)).status = .fact →
      ¬ Reports "STO004" (validateWithHistory primitives source target sourceSchema targetSchema
        policy context schemaHistory).findings ∧
      ¬ Reports "STO006" (validateWithHistory primitives source target sourceSchema targetSchema
        policy context schemaHistory).findings ∧
      ¬ Reports "STO010" (validateWithHistory primitives source target sourceSchema targetSchema
        policy context schemaHistory).findings) ↔
    ∀ before after, sourceSchema = some before → targetSchema = some after →
      (before.formatVersion = 1 ∧ before.complete = true) ∧
        after.formatVersion = 1 ∧ after.complete = true := by
  rw [reports_storage_iff (Or.inl rfl), reports_storage_iff (Or.inr (Or.inl rfl)),
    reports_storage_iff (Or.inr (Or.inr rfl))]
  cases sourceSchema with
  | none => simp [declaredStorageSchemaEvidence]
  | some before =>
      cases targetSchema with
      | none => simp [declaredStorageSchemaEvidence]
      | some after =>
          simp only [declaredStorageSchemaEvidence, checkStorageEvidence,
            reports_storagePair_iff (show "STO004" ∉ comparedStorageCodes by
              simp [comparedStorageCodes]),
            reports_storagePair_iff (show "STO006" ∉ comparedStorageCodes by
              simp [comparedStorageCodes]),
            reports_storagePair_iff (show "STO010" ∉ comparedStorageCodes by
              simp [comparedStorageCodes])]
          simp
          tauto

theorem history_agrees_iff :
    ((declaredSchemaHistoryEvidence schemaHistory.isSome).status = .fact →
      ¬ Reports "HIS000" (validateWithHistory primitives source target sourceSchema targetSchema
        policy context schemaHistory).findings ∧
      ¬ Reports "HIS001" (validateWithHistory primitives source target sourceSchema targetSchema
        policy context schemaHistory).findings ∧
      ¬ Reports "HIS012" (validateWithHistory primitives source target sourceSchema targetSchema
        policy context schemaHistory).findings) ↔
    ∀ history, schemaHistory = some history →
      history.formatVersion = 1 ∧ history.complete = true := by
  rw [reports_history_iff (Or.inl rfl), reports_history_iff (Or.inr (Or.inl rfl)),
    reports_history_iff (Or.inr (Or.inr rfl))]
  cases schemaHistory with
  | none => simp [declaredSchemaHistoryEvidence]
  | some history =>
      simp only [declaredSchemaHistoryEvidence, checkHistoryEvidence,
        reports_validateSchemaHistory_iff (show "HIS000" ∉ comparedHistoryCodes by
          simp [comparedHistoryCodes]),
        reports_validateSchemaHistory_iff (show "HIS001" ∉ comparedHistoryCodes by
          simp [comparedHistoryCodes]),
        reports_validateSchemaHistory_iff (show "HIS012" ∉ comparedHistoryCodes by
          simp [comparedHistoryCodes])]
      simp
      tauto

end Labels

/-- The facts of a report agree with its findings exactly when a live network
read lacks no field, and no given manifest is of another format or incomplete. -/
theorem facts_agree_iff (primitives : Primitives) (source target : Artifact)
    (sourceSchema targetSchema : Option StorageSchema) (policy : Policy)
    (context : ValidationContext) (schemaHistory : Option SchemaHistory) :
    FactsAgree (validateWithHistory primitives source target sourceSchema targetSchema policy
      context schemaHistory) ↔
    CompleteEvidence context sourceSchema targetSchema schemaHistory := by
  constructor
  · rintro ⟨network, storage, history⟩
    exact ⟨network_agrees_iff.1 network, storage_agrees_iff.1 storage,
      history_agrees_iff.1 history⟩
  · rintro ⟨network, storage, history⟩
    exact ⟨network_agrees_iff.2 network, storage_agrees_iff.2 storage,
      history_agrees_iff.2 history⟩

/-- A history of format 2 is not read any further, and its check is still labelled
as a fact. -/
theorem unsupportedHistory_labelled_fact :
    ¬ ∀ (primitives : Primitives) (source target : Artifact)
      (sourceSchema targetSchema : Option StorageSchema) (policy : Policy)
      (context : ValidationContext) (schemaHistory : Option SchemaHistory),
      FactsAgree (validateWithHistory primitives source target sourceSchema targetSchema policy
        context schemaHistory) := by
  intro every
  have agrees := every Sample.primitives (Sample.artifact "1.0.0" ["upgrade"])
    (Sample.artifact "2.0.0" ["upgrade"]) (some (Sample.schema 1 "u32" none))
    (some (Sample.schema 2 "u32" none)) Policy.default Sample.context
    (some { Sample.history with formatVersion := 2 })
  have reported : Reports "HIS001" (checkHistoryEvidence Sample.primitives
      (Sample.artifact "1.0.0" ["upgrade"]) (Sample.artifact "2.0.0" ["upgrade"]) Policy.default
      (some { Sample.history with formatVersion := 2 })) :=
    (reports_validateSchemaHistory_iff (by simp [comparedHistoryCodes])).2
      (Or.inl ⟨by decide, rfl⟩)
  apply (agrees.history rfl).2.1
  rw [reports_findings_iff, reports_pushedFindings_iff (by simp [artifactCodes])]
  exact Or.inr (Or.inl reported)

end SorobanUpgrades
