/-
Module: SorobanUpgrades.Proofs.LiveVerification
Purpose: A plan that passes the live verification is the plan the current files
  and the current network lead to, up to the time of observation.
Trusted boundary: none
Main exports: ValidationContext.observedAs, UpgradePlan.observedAs,
  createPlanWithPaths_observedAs, verifiedPlan_is_current
-/
import SorobanUpgrades.Proofs.PlanRoundTrip
import SorobanUpgrades.Proofs.SecretScan

namespace SorobanUpgrades

open Outcome (bind_eq_ok_iff seq_eq_ok_iff)

/-! ### The time of observation -/

/-- The same network, observed at another time by another node. -/
def ValidationContext.observedAs (context observation : ValidationContext) : ValidationContext :=
  { context with
    rpcVersion := observation.rpcVersion
    captiveCoreVersion := observation.captiveCoreVersion
    observedAtUnixSeconds := observation.observedAtUnixSeconds }

/-- The report under another observation of the network. -/
def ValidationReport.observedAs (report : ValidationReport) (observation : ValidationContext) :
    ValidationReport :=
  { report with context := report.context.observedAs observation }

/-- The plan under another observation of the network. -/
def UpgradePlan.observedAs (plan : UpgradePlan) (observation : ValidationContext) : UpgradePlan :=
  { plan with validation := plan.validation.observedAs observation }

/-- Both observations name a node and a time, or neither does. -/
structure ComparableObservation (context observation : ValidationContext) : Prop where
  node : observation.rpcVersion.isSome = context.rpcVersion.isSome
  time : observation.observedAtUnixSeconds.isSome = context.observedAtUnixSeconds.isSome

section Observations

variable {primitives : Primitives} {source target : Artifact}
  {sourceSchema targetSchema : Option StorageSchema} {policy : Policy}
  {context observation : ValidationContext} {schemaHistory : Option SchemaHistory}

theorem checkProtocolContext_observedAs (comparable : ComparableObservation context observation) :
    checkProtocolContext (context.observedAs observation) = checkProtocolContext context := by
  unfold checkProtocolContext
  dsimp only [ValidationContext.observedAs]
  cases context.protocolSource with
  | unpinned | offlineAssertion => rfl
  | stellarCliNetworkInfo =>
      refine if_congr ?_ rfl rfl
      rw [comparable.node, comparable.time]

theorem targetNetworkProtocolEvidence_observedAs
    (comparable : ComparableObservation context observation) :
    targetNetworkProtocolEvidence (context.observedAs observation) =
      targetNetworkProtocolEvidence context := by
  unfold targetNetworkProtocolEvidence
  dsimp only [ValidationContext.observedAs]
  cases context.protocolSource with
  | unpinned | offlineAssertion => rfl
  | stellarCliNetworkInfo =>
      refine if_congr ?_ rfl rfl
      rw [comparable.time]

/-- A validation looks at the observation only to see that it is complete. -/
theorem validateWithHistory_observedAs (comparable : ComparableObservation context observation) :
    validateWithHistory primitives source target sourceSchema targetSchema policy
        (context.observedAs observation) schemaHistory =
      (validateWithHistory primitives source target sourceSchema targetSchema policy context
        schemaHistory).observedAs observation := by
  have findings : pushedFindings primitives source target sourceSchema targetSchema policy
      (context.observedAs observation) schemaHistory =
      pushedFindings primitives source target sourceSchema targetSchema policy context
        schemaHistory := by
    rw [pushedFindings, checkProtocolContext_observedAs comparable]
    rfl
  have coverage : ∀ storage history, buildEvidenceCoverage (context.observedAs observation) storage
      history = buildEvidenceCoverage context storage history := by
    intro storage history
    rw [buildEvidenceCoverage, targetNetworkProtocolEvidence_observedAs comparable]
    rfl
  unfold validateWithHistory ValidationReport.observedAs
  rw [findings, coverage]

end Observations

/-! ### Requests and plans -/

section Plans

variable {primitives : Primitives} {report : ValidationReport} {observation : ValidationContext}
  {network contractId sourceIdentity : String} {inputs : PlanInputPaths}
  {operations : PlanOperations}

/-- No check of a request looks at the observation. -/
theorem AcceptedRequest.observedAs
    (accepted : AcceptedRequest primitives report network contractId sourceIdentity inputs
      operations) :
    AcceptedRequest primitives (report.observedAs observation) network contractId sourceIdentity
      inputs operations :=
  { accepted with }

/-- The plan carries the observation in its report only. -/
theorem assemblePlan_observedAs :
    assemblePlan (report.observedAs observation) network contractId sourceIdentity inputs operations =
      (assemblePlan report network contractId sourceIdentity inputs operations).observedAs
        observation :=
  rfl

theorem mem_strings_encode_option {value : Option String} {text : String}
    (listed : text ∈ (encode value).strings) : value = some text := by
  cases value with
  | none => cases listed
  | some value =>
      obtain rfl : text = value := by
        simpa [encode, Json.strings] using listed
      rfl

theorem strings_encode_time (value : Option UInt64) : (encode value).strings = [] := by
  cases value <;> rfl

/-- The texts of an observation are its node versions. -/
theorem mem_strings_context_observedAs {context : ValidationContext} {text : String}
    (listed : text ∈ (encode (context.observedAs observation)).strings) :
    (observation.rpcVersion = some text ∨ observation.captiveCoreVersion = some text) ∨
      text ∈ (encode context).strings := by
  rcases Json.mem_strings_replace [_, _, _, _, _, _, _]
      (encode context.observedAtUnixSeconds) listed with time | listed
  · rw [strings_encode_time] at time
    cases time
  rcases Json.mem_strings_replace [_, _, _, _, _, _]
      (encode context.captiveCoreVersion) listed with core | listed
  · exact Or.inl (Or.inr (mem_strings_encode_option core))
  rcases Json.mem_strings_replace [_, _, _, _, _] (encode context.rpcVersion) listed
    with node | listed
  · exact Or.inl (Or.inl (mem_strings_encode_option node))
  · exact Or.inr listed

theorem mem_strings_report_observedAs {text : String}
    (listed : text ∈ (encode (report.observedAs observation)).strings) :
    (observation.rpcVersion = some text ∨ observation.captiveCoreVersion = some text) ∨
      text ∈ (encode report).strings := by
  rcases Json.mem_strings_replace [_, _, _, _] (encode report.context) listed
    with context | listed
  · refine (mem_strings_context_observedAs context).imp_right fun member => ?_
    exact Json.mem_strings_of_member [_, _, _, _] member
  · exact Or.inr listed

theorem mem_strings_plan_observedAs {plan : UpgradePlan} {text : String}
    (listed : text ∈ (encode (plan.observedAs observation)).strings) :
    (observation.rpcVersion = some text ∨ observation.captiveCoreVersion = some text) ∨
      text ∈ (encode plan).strings := by
  rcases Json.mem_strings_replace [_, _, _, _, _, _, _, _, _, _, _, _, _, _]
      (encode plan.validation) listed with validation | listed
  · refine (mem_strings_report_observedAs validation).imp_right fun member => ?_
    exact Json.mem_strings_of_member [_, _, _, _, _, _, _, _, _, _, _, _, _, _] member
  · exact Or.inr listed

/-- A plan can be created again under another observation without seeds. -/
theorem createPlanWithPaths_observedAs (lawful : primitives.Lawful) {plan : UpgradePlan}
    (clean : ∀ text, observation.rpcVersion = some text ∨
      observation.captiveCoreVersion = some text → ¬ ContainsSeed primitives text.toList)
    (created : createPlanWithPaths primitives report network contractId sourceIdentity inputs
      operations = .ok plan) :
    ∃ digest, createPlanWithPaths primitives (report.observedAs observation) network contractId
      sourceIdentity inputs operations = .ok ((plan.observedAs observation).setDigest digest) := by
  obtain ⟨accepted, scanned, _, _, rfl⟩ := createPlanWithPaths_eq_ok_iff.1 created
  obtain ⟨digest, calculated⟩ := exists_calculatePlanSha256 primitives
    (assemblePlan (report.observedAs observation) network contractId sourceIdentity inputs operations)
  refine ⟨digest, createPlanWithPaths_eq_ok_iff.2 ⟨accepted.observedAs, ?_, digest, calculated,
    rfl⟩⟩
  rw [← Bool.not_eq_true, containsStellarPrivateKey_compact_iff lawful] at scanned ⊢
  rintro ⟨text, listed, seed⟩
  rw [assemblePlan_observedAs] at listed
  rcases mem_strings_plan_observedAs listed with observed | listed
  · exact clean text observed seed
  · exact scanned ⟨text, listed, seed⟩

end Plans

/-! ### The network -/

section Network

variable {libraries : Libraries} {environment : Environment} {network contractId : String}

theorem contextFromNetworkInfo_eq_ok_iff {stdout : List UInt8} {now : UInt64}
    {context : ValidationContext} :
    contextFromNetworkInfo libraries network stdout now = .ok context ↔
      ∃ info, NetworkInfo.fromJson libraries.json stdout = some info ∧
        info.toContext network now = context := by
  rw [contextFromNetworkInfo]
  cases NetworkInfo.fromJson libraries.json stdout <;> simp

/-- A live context comes from an answer of the network. -/
theorem resolveLiveNetwork_eq_ok_iff {context : ValidationContext} :
    resolveLiveNetwork libraries environment network = .ok context ↔
      ∃ stdout info now, environment.networkInfo network = .finished stdout ∧
        NetworkInfo.fromJson libraries.json stdout = some info ∧ environment.clock = some now ∧
        info.toContext network now = context := by
  unfold resolveLiveNetwork
  cases environment.networkInfo network with
  | missing => simp
  | failed detail => simp [bail]
  | finished stdout =>
      cases environment.clock with
      | none => simp
      | some now => simp [contextFromNetworkInfo_eq_ok_iff]

/-- The deployed executable has the expected hash. -/
theorem makeSureCurrentContractMatches_hash {expectedSha256 : String}
    (matching : makeSureCurrentContractMatches libraries environment network contractId
      expectedSha256 = .ok ()) :
    ∃ executable, environment.contractFetch network contractId = .finished executable ∧
      libraries.primitives.hexEncode (libraries.primitives.sha256 executable) = expectedSha256 := by
  rw [makeSureCurrentContractMatches, bind_eq_ok_iff] at matching
  obtain ⟨artifact, fetched, matching⟩ := matching
  rw [bailWhen_eq_ok_iff, not_not] at matching
  rw [fetchContractArtifact] at fetched
  cases outcome : environment.contractFetch network contractId with
  | missing => simp [outcome] at fetched
  | failed detail => simp [outcome, bail] at fetched
  | finished executable =>
      simp only [outcome, withContext_eq_ok_iff, liftCore_eq_ok_iff] at fetched
      obtain ⟨_, parts⟩ := artifactParts_of_fromWasm fetched
      exact ⟨executable, rfl, by rw [← parts.hashed, matching]⟩

end Network

/-! ### Verified plans -/

/-- A live plan passes the live verification while the files and the network stand. -/
theorem verifyLoadedPlan_live_of_created {libraries : Libraries} {environment : Environment}
    {inputs : PlanInputPaths} {evidence : Evidence} {context : ValidationContext}
    {network contractId sourceIdentity : String} {operations : PlanOperations} {plan : UpgradePlan}
    (loads : Loads libraries environment inputs evidence)
    (resolved : resolveLiveNetwork libraries environment network = .ok context)
    (deployed : makeSureCurrentContractMatches libraries environment network contractId
      evidence.source.sha256 = .ok ())
    (created : createPlanWithPaths libraries.primitives
      (evidence.report libraries.primitives context) network contractId sourceIdentity inputs
      operations = .ok plan) :
    ∃ lines, verifyLoadedPlan libraries environment plan false = .ok lines := by
  have genuine := verifyPlanDigest_of_created created
  obtain ⟨_, _, _, _, answered⟩ := resolveLiveNetwork_eq_ok_iff.1 resolved
  obtain ⟨_, _, _, digest, rfl⟩ := createPlanWithPaths_eq_ok_iff.1 created
  refine verifyLoadedPlan_live_iff.2
    ⟨genuine, ⟨evidence, loads, ⟨rfl, rfl, rfl, rfl, rfl, rfl, rfl, rfl⟩⟩, ?_⟩
  rw [makeSurePlanIsLive, seq_eq_ok_iff, seq_eq_ok_iff, bailWhen_eq_ok_iff, not_not]
  refine ⟨?_, ?_, deployed⟩
  · obtain ⟨_, _, _, rfl⟩ := answered
    rfl
  · rw [makeSurePlanNetworkMatches, bind_eq_ok_iff]
    refine ⟨context, resolved, bailWhen_eq_ok_iff.2 ?_⟩
    rintro (differs | differs | differs) <;> exact differs rfl

/-- A plan that passes the live verification is safe on the current evidence, is
created again from it up to the observation and the digest, and replaces the
executable it was made for. -/
theorem verifiedPlan_is_current (libraries : Libraries) (environment : Environment)
    (lawful : libraries.primitives.Lawful) (plan : UpgradePlan) (lines : List String)
    (clean : ∀ stdout info, environment.networkInfo plan.network = .finished stdout →
      NetworkInfo.fromJson libraries.json stdout = some info →
      ∀ text ∈ info.texts, ¬ ContainsSeed libraries.primitives text.toList)
    (verified : verifyLoadedPlan libraries environment plan false = .ok lines) :
    ∃ context report digest,
      resolveLiveNetwork libraries environment plan.network = .ok context ∧
      loadReport libraries environment plan.inputs.sourceWasm plan.inputs.targetWasm
        (some plan.inputs.sourceSchema) (some plan.inputs.targetSchema) plan.inputs.policy context
        (some plan.inputs.schemaHistory) = .ok report ∧
      report.safe = true ∧
      createPlanWithPaths libraries.primitives report plan.network plan.contractId
        plan.sourceIdentity plan.inputs
        { migration := plan.migration, invariantCheck := plan.invariantCheck } =
          .ok ((plan.observedAs context).setDigest digest) ∧
      (∃ executable, environment.contractFetch plan.network plan.contractId = .finished executable ∧
        libraries.primitives.hexEncode (libraries.primitives.sha256 executable) =
          plan.sourceWasmSha256) ∧
      plan.status = .reviewReady := by
  obtain ⟨genuine, ⟨evidence, loads, embeds⟩, live⟩ :=
    verifyLoadedPlan_live_iff.1 ⟨lines, verified⟩
  obtain ⟨fresh, created⟩ := verifyPlanDigest_eq_ok_true_iff_rebuilt.1 genuine
  rw [makeSurePlanIsLive, seq_eq_ok_iff, seq_eq_ok_iff, bailWhen_eq_ok_iff, not_not] at live
  obtain ⟨ready, networkMatches, deployed⟩ := live
  rw [makeSurePlanNetworkMatches, bind_eq_ok_iff] at networkMatches
  obtain ⟨context, resolved, networkMatches⟩ := networkMatches
  simp only [bailWhen_eq_ok_iff, not_or, not_not] at networkMatches
  obtain ⟨sameId, samePassphrase, sameProtocol⟩ := networkMatches
  obtain ⟨stdout, info, now, answered, read, _, rfl⟩ := resolveLiveNetwork_eq_ok_iff.1 resolved
  have accepted := (createPlanWithPaths_eq_ok_iff.1 created).1
  -- The planned context names the same network, live and complete.
  have planned : plan.validation =
      evidence.report libraries.primitives plan.validation.context := by
    rw [← fresh, revalidate, embeds.source, embeds.target, embeds.sourceSchema,
      embeds.targetSchema, embeds.policy, embeds.history]
    rfl
  have source : plan.validation.context.protocolSource = .stellarCliNetworkInfo :=
    protocolSource_of_reviewReady created ready
  have name : plan.validation.context.networkName = some plan.network := accepted.networkName
  have safe : plan.validation.safe = true := accepted.safe_report
  have comparable : ComparableObservation plan.validation.context (info.toContext plan.network now) := by
    rw [planned] at safe
    have evidenced := unblocked_checkProtocolContext_iff.1
      (unblocked_pushedFindings_iff.1 (safe_iff_unblocked.1 safe)).2.1
    rw [EvidencedProtocol, source] at evidenced
    obtain ⟨_, _, _, _, node, time⟩ := evidenced
    exact ⟨node.symm, time.symm⟩
  have same : info.toContext plan.network now =
      plan.validation.context.observedAs (info.toContext plan.network now) := by
    simp only [ValidationContext.observedAs, ← sameId, ← samePassphrase, ← sameProtocol, source,
      name]
    rfl
  have report : evidence.report libraries.primitives (info.toContext plan.network now) =
      plan.validation.observedAs (info.toContext plan.network now) := by
    rw [Evidence.report, same, validateWithHistory_observedAs comparable, ← same, planned]
    rfl
  have texts : ∀ text, (info.toContext plan.network now).rpcVersion = some text ∨
      (info.toContext plan.network now).captiveCoreVersion = some text →
      ¬ ContainsSeed libraries.primitives text.toList := by
    intro text observed
    refine clean stdout info answered read text ?_
    simp only [NetworkInfo.toContext, Option.some.injEq] at observed
    rcases observed with rfl | core
    · simp [NetworkInfo.texts]
    · simp [NetworkInfo.texts, core]
  obtain ⟨digest, again⟩ := createPlanWithPaths_observedAs lawful texts created
  exact ⟨_, _, digest, resolved, (loadReport_eq_ok_iff _ _).2 ⟨evidence, loads, report⟩, safe, again,
    makeSureCurrentContractMatches_hash deployed, ready⟩

namespace Sample

/-- The answer of the network in `environment`. -/
def networkInfo : NetworkInfo where
  id := "cee0302d59844d32bdca915c8203dd44b33fbb7edc19051ea37abedf28ecd472"
  version := "27.0.0"
  captiveCoreVersion := some "stellar-core 27.0.0"
  protocolVersion := 27
  passphrase := "Test SDF Network ; September 2015"

def liveContext : ValidationContext := networkInfo.toContext "testnet" 1750000000

theorem liveContext_resolved (source target : WasmModule) :
    resolveLiveNetwork libraries (environment source target) "testnet" = .ok liveContext := by
  refine resolveLiveNetwork_eq_ok_iff.2 ⟨_, networkInfo, _, rfl, ?_, rfl, rfl⟩
  change (printedReader.read (printedBytes _)).bind NetworkInfo.decode = some networkInfo
  rw [printedReader_lawful.read_printed, if_pos (by decide)]
  rfl

theorem deployed {source target : WasmModule} (listed : source ∈ releaseModules) :
    makeSureCurrentContractMatches libraries (environment source target) "testnet" contractId
      source.artifact.sha256 = .ok () := by
  rw [makeSureCurrentContractMatches, bind_eq_ok_iff]
  refine ⟨source.artifact, ?_, bailWhen_eq_ok_iff.2 fun differs => differs rfl⟩
  exact withContext_eq_ok_iff.2 (liftCore_eq_ok_iff.2 (fromWasm_module source listed))

theorem liveRequest_accepted : validatePlanRequest Sample.primitives
    ((evidence sourceModule targetModule).report Sample.primitives liveContext)
    "testnet" contractId "deployer" inputs operations = .ok () := by
  decide +kernel

end Sample

/-- The live plan of the sample upgrade is accepted and current. -/
theorem samplePlan_is_current :
    ∃ (plan : UpgradePlan) (executable : List UInt8),
      Sample.primitives.hexEncode (Sample.primitives.sha256 executable) = plan.sourceWasmSha256 ∧
      plan.status = .reviewReady := by
  obtain ⟨digest, created⟩ := Sample.planned_created Sample.liveRequest_accepted
  obtain ⟨lines, verified⟩ := verifyLoadedPlan_live_of_created
    (Sample.loads Sample.sourceModule_listed Sample.targetModule_listed)
    (Sample.liveContext_resolved _ _) (Sample.deployed Sample.sourceModule_listed) created
  obtain ⟨_, _, _, _, _, _, _, ⟨executable, _, hash⟩, ready⟩ :=
    verifiedPlan_is_current Sample.libraries _ Sample.lawful _ lines
      (fun _ _ _ _ _ _ => by rintro ⟨_, _, _, key⟩; cases key) verified
  exact ⟨_, executable, hash, ready⟩

end SorobanUpgrades
