/-
Module: SorobanUpgrades.Proofs.ReleaseRuns
Purpose: A contract that is replaced only under plans that pass the live
  verification. Over any run of upgrades, whatever happens to the files and the
  network in between, its interface is kept, its version rises, it stays upgradable,
  and a plan that was verified for an earlier executable is refused.
Trusted boundary: human-reviewed spec
Main exports: Contract, VerifiesOn, Upgrades, Succession, releases_succeed,
  verifiedPlan_expires
-/
import SorobanUpgrades.Proofs.LiveVerification
import SorobanUpgrades.Proofs.PolicyVerdicts

namespace SorobanUpgrades

open Outcome (bind_eq_ok_iff seq_eq_ok_iff)
open Relation (TransGen)

/-! ### Succession of releases -/

theorem Retained.trans {first second third : StringMap InterfaceEntry}
    (lower : Retained first second) (upper : Retained second third) : Retained first third := by
  intro name old present
  obtain ⟨between, kept, same⟩ := lower name old present
  obtain ⟨new, found, equal⟩ := upper name between kept
  exact ⟨new, found, same.trans equal⟩

theorem VersionIncreases.trans {primitives : Primitives} {first second third : Artifact}
    (lower : VersionIncreases primitives first second)
    (upper : VersionIncreases primitives second third) :
    VersionIncreases primitives first third := by
  obtain ⟨firstText, secondText, firstVersion, secondVersion, named, between, readFirst, readSecond,
    rising⟩ := lower
  obtain ⟨againText, thirdText, againVersion, thirdVersion, again, last, readAgain, readThird,
    further⟩ := upper
  obtain rfl : secondText = againText := Option.some.inj (between.symm.trans again)
  obtain rfl : secondVersion = againVersion := Option.some.inj (readSecond.symm.trans readAgain)
  exact ⟨firstText, thirdText, firstVersion, thirdVersion, named, last, readFirst, readThird,
    lt_trans rising further⟩

theorem VersionIncreases.irrefl {primitives : Primitives} {artifact : Artifact} :
    ¬ VersionIncreases primitives artifact artifact := by
  rintro ⟨text, otherText, version, otherVersion, named, again, read, readAgain, rising⟩
  obtain rfl : text = otherText := Option.some.inj (named.symm.trans again)
  obtain rfl : version = otherVersion := Option.some.inj (read.symm.trans readAgain)
  exact lt_irrefl version rising

/-- What one release keeps of an earlier one. -/
structure Succession (primitives : Primitives) (source target : Artifact) : Prop where
  functions : Retained source.functions target.functions
  events : Retained source.events target.events
  userTypes : Retained source.userTypes target.userTypes
  versions : VersionIncreases primitives source target
  sourceUpgradable : source.Upgradable
  targetUpgradable : target.Upgradable

theorem Succession.trans {primitives : Primitives} {first second third : Artifact}
    (lower : Succession primitives first second) (upper : Succession primitives second third) :
    Succession primitives first third where
  functions := lower.functions.trans upper.functions
  events := lower.events.trans upper.events
  userTypes := lower.userTypes.trans upper.userTypes
  versions := lower.versions.trans upper.versions
  sourceUpgradable := lower.sourceUpgradable
  targetUpgradable := upper.targetUpgradable

/-- A safe report under a strict policy is a succession. -/
theorem succession_of_safe {primitives : Primitives} {source target : Artifact}
    {sourceSchema targetSchema : Option StorageSchema} {policy : Policy}
    {context : ValidationContext} {schemaHistory : Option SchemaHistory} (strict : policy.Strict)
    (safe : (validateWithHistory primitives source target sourceSchema targetSchema policy context
      schemaHistory).safe = true) :
    Succession primitives source target := by
  have pass := unblocked_iff_policyPass.1 (safe_iff_unblocked.1 safe)
  have protects := strict.protects
  simp only [Policy.protections, List.forall_mem_cons, List.not_mem_nil, false_imp_iff,
    implies_true, and_true] at protects
  obtain ⟨upgrade, semver, _, _, removedFunctions, changedFunctions, removedEvents, changedEvents,
    userTypes⟩ := protects
  have gatedFunctions := pass.functions
  have gatedEvents := pass.events
  have gatedTypes := pass.userTypes
  rw [removedFunctions, changedFunctions] at gatedFunctions
  rw [removedEvents, changedEvents] at gatedEvents
  rw [userTypes] at gatedTypes
  obtain ⟨sourceUpgradable, targetUpgradable⟩ := pass.upgradable upgrade
  exact ⟨gated_iff_retained.1 gatedFunctions, gated_iff_retained.1 gatedEvents,
    gated_iff_retained.1 gatedTypes, pass.versions semver, sourceUpgradable, targetUpgradable⟩

/-! ### Verified upgrades -/

/-- A contract on a network. -/
structure Contract where
  network : String
  contractId : String

/-- The hex digest that identifies a module. -/
def Primitives.moduleHash (primitives : Primitives) (bytes : List UInt8) : String :=
  primitives.hexEncode (primitives.sha256 bytes)

/-- In some state of the world the plan passes the live verification for a contract
that runs `deployed`. A fetch of the contract fails or returns what it runs. The
modules that the plan reads are among `modules`. -/
structure VerifiesOn (libraries : Libraries) (contract : Contract) (modules : Set (List UInt8))
    (deployed : List UInt8) (environment : Environment) (plan : UpgradePlan) : Prop where
  network : plan.network = contract.network
  contractId : plan.contractId = contract.contractId
  honest : ∀ executable,
    environment.contractFetch contract.network contract.contractId = .finished executable →
      executable = deployed
  verified : ∃ lines, verifyLoadedPlan libraries environment plan false = .ok lines
  running : deployed ∈ modules
  stored : ∀ path ∈ [plan.inputs.sourceWasm, plan.inputs.targetWasm], ∀ bytes,
    environment.files path = some bytes → bytes ∈ modules

/-- The executable is replaced under a plan that was just verified, with a policy that
keeps every protection. The network installs a module with the hash that the plan
names. -/
def Upgrades (libraries : Libraries) (contract : Contract) (modules : Set (List UInt8))
    (deployed next : List UInt8) : Prop :=
  ∃ environment plan, VerifiesOn libraries contract modules deployed environment plan ∧
    plan.validation.policy.Strict ∧ next ∈ modules ∧
    libraries.primitives.moduleHash next = plan.targetWasmSha256

section Runs

variable {libraries : Libraries} {contract : Contract} {modules : Set (List UInt8)}
  {deployed next first last : List UInt8} {environment : Environment} {plan : UpgradePlan}

/-- An artifact is loaded from a stored module. -/
theorem exists_module_of_loadArtifact {path : String} {artifact : Artifact}
    (loaded : loadArtifact libraries environment path = .ok artifact) :
    ∃ bytes, environment.files path = some bytes ∧
      Artifact.fromWasm libraries.primitives libraries.wasm bytes = .ok artifact ∧
      libraries.primitives.moduleHash bytes = artifact.sha256 := by
  rw [loadArtifact, bind_eq_ok_iff] at loaded
  obtain ⟨bytes, read, built⟩ := loaded
  rw [withContext_eq_ok_iff, liftCore_eq_ok_iff] at built
  obtain ⟨_, parts⟩ := artifactParts_of_fromWasm built
  exact ⟨bytes, (readBounded_eq_ok_iff.1 read).1, built, parts.hashed.symm⟩

/-- A verified plan replaces the deployed executable, under any policy. -/
theorem VerifiesOn.sourceHash
    (verifies : VerifiesOn libraries contract modules deployed environment plan) :
    libraries.primitives.moduleHash deployed = plan.sourceWasmSha256 := by
  obtain ⟨_, _, live⟩ := verifyLoadedPlan_live_iff.1 verifies.verified
  rw [makeSurePlanIsLive, seq_eq_ok_iff, seq_eq_ok_iff] at live
  obtain ⟨executable, fetched, running⟩ := makeSureCurrentContractMatches_hash live.2.2
  rw [verifies.network, verifies.contractId] at fetched
  obtain rfl : executable = deployed := verifies.honest executable fetched
  exact running

/-- Under a strict policy a verified plan describes a successor of the deployed
executable. -/
theorem VerifiesOn.succession
    (apart : Set.InjOn libraries.primitives.moduleHash modules)
    (verifies : VerifiesOn libraries contract modules deployed environment plan)
    (strict : plan.validation.policy.Strict) :
    ∃ source target targetBytes,
      Artifact.fromWasm libraries.primitives libraries.wasm deployed = .ok source ∧
      targetBytes ∈ modules ∧
      libraries.primitives.moduleHash targetBytes = plan.targetWasmSha256 ∧
      Artifact.fromWasm libraries.primitives libraries.wasm targetBytes = .ok target ∧
      Succession libraries.primitives source target := by
  obtain ⟨genuine, ⟨evidence, loads, embeds⟩, _⟩ :=
    verifyLoadedPlan_live_iff.1 verifies.verified
  -- The stored source module has the hash of the deployed one, so it is the same module.
  obtain ⟨sourceBytes, sourceStored, sourceBuilt, sourceHashed⟩ :=
    exists_module_of_loadArtifact loads.source
  obtain ⟨targetBytes, targetStored, targetBuilt, targetHashed⟩ :=
    exists_module_of_loadArtifact loads.target
  have sourceKnown : sourceBytes ∈ modules :=
    verifies.stored _ List.mem_cons_self sourceBytes sourceStored
  have targetKnown : targetBytes ∈ modules :=
    verifies.stored _ (List.mem_cons_of_mem _ List.mem_cons_self) targetBytes targetStored
  obtain rfl : sourceBytes = deployed := by
    apply apart sourceKnown verifies.running
    rw [sourceHashed, verifies.sourceHash, embeds.sourceHash]
  -- The embedded report is a safe validation of the two artifacts.
  obtain ⟨fresh, created⟩ := verifyPlanDigest_eq_ok_true_iff_rebuilt.1 genuine
  have safe : plan.validation.safe = true :=
    (createPlanWithPaths_eq_ok_iff.1 created).1.safe_report
  rw [← fresh, revalidate, embeds.source, embeds.target] at safe
  exact ⟨evidence.source, evidence.target, targetBytes, sourceBuilt, targetKnown,
    targetHashed.trans embeds.targetHash.symm, targetBuilt, succession_of_safe strict safe⟩

/-- One upgrade is a succession of the two executables. -/
theorem Upgrades.succession
    (apart : Set.InjOn libraries.primitives.moduleHash modules)
    (upgrade : Upgrades libraries contract modules deployed next) :
    ∃ source target,
      Artifact.fromWasm libraries.primitives libraries.wasm deployed = .ok source ∧
      Artifact.fromWasm libraries.primitives libraries.wasm next = .ok target ∧
      Succession libraries.primitives source target := by
  obtain ⟨environment, plan, verifies, strict, known, installed⟩ := upgrade
  obtain ⟨source, target, targetBytes, sourceBuilt, targetKnown, targetHash, targetBuilt,
    succeeds⟩ := verifies.succession apart strict
  obtain rfl : next = targetBytes := apart known targetKnown (installed.trans targetHash.symm)
  exact ⟨source, target, sourceBuilt, targetBuilt, succeeds⟩

/-- A run of upgrades is a succession of its first and its last executable. -/
theorem succession_of_run
    (apart : Set.InjOn libraries.primitives.moduleHash modules)
    (run : TransGen (Upgrades libraries contract modules) first last) :
    ∃ source target,
      Artifact.fromWasm libraries.primitives libraries.wasm first = .ok source ∧
      Artifact.fromWasm libraries.primitives libraries.wasm last = .ok target ∧
      Succession libraries.primitives source target := by
  induction run with
  | single upgrade => exact upgrade.succession apart
  | tail _ upgrade inductionHypothesis =>
      obtain ⟨source, between, sourceBuilt, betweenBuilt, lower⟩ := inductionHypothesis
      obtain ⟨again, target, againBuilt, targetBuilt, upper⟩ := upgrade.succession apart
      obtain rfl : between = again := Except.ok.inj (betweenBuilt.symm.trans againBuilt)
      exact ⟨source, target, sourceBuilt, targetBuilt, lower.trans upper⟩

/-- No run returns to an executable. -/
theorem ne_of_run (apart : Set.InjOn libraries.primitives.moduleHash modules)
    (run : TransGen (Upgrades libraries contract modules) first last) : first ≠ last := by
  rintro rfl
  obtain ⟨source, target, sourceBuilt, targetBuilt, succeeds⟩ := succession_of_run apart run
  obtain rfl : source = target := Except.ok.inj (sourceBuilt.symm.trans targetBuilt)
  exact VersionIncreases.irrefl succeeds.versions

end Runs

/-- Over any run of verified upgrades of a contract, between any two executables it
runs, the later one is another module that keeps every function, event and type of
the earlier one, has a greater version, and can be upgraded in turn. -/
theorem releases_succeed (libraries : Libraries) (contract : Contract)
    (modules : Set (List UInt8)) (first last : List UInt8)
    (apart : Set.InjOn libraries.primitives.moduleHash modules)
    (run : TransGen (Upgrades libraries contract modules) first last) :
    first ≠ last ∧ ∃ source target,
      Artifact.fromWasm libraries.primitives libraries.wasm first = .ok source ∧
      Artifact.fromWasm libraries.primitives libraries.wasm last = .ok target ∧
      Succession libraries.primitives source target :=
  ⟨ne_of_run apart run, succession_of_run apart run⟩

namespace Sample

def contract : Contract := { network := "testnet", contractId := contractId }

/-- Three releases in turn. -/
def threeModules : Set (List UInt8) := {sourceModule.bytes, targetModule.bytes, latestModule.bytes}

theorem threeModules_apart : Set.InjOn Sample.primitives.moduleHash threeModules := by
  have hashes : ([sourceModule.bytes, targetModule.bytes, latestModule.bytes].map
      Sample.primitives.moduleHash).Nodup := by
    decide +kernel
  have listed : ∀ bytes ∈ threeModules,
      bytes ∈ [sourceModule.bytes, targetModule.bytes, latestModule.bytes] := by
    intro bytes known
    simpa [threeModules] using known
  intro left leftKnown right rightKnown same
  exact List.inj_on_of_nodup_map hashes (listed left leftKnown) (listed right rightKnown) same

/-- A live plan on accepted evidence is verified where the network runs its source. -/
theorem livePlan_verifies {world : Environment} {found : Evidence} {executable : List UInt8}
    (loaded : Loads libraries world inputs found)
    (resolved : resolveLiveNetwork libraries world "testnet" = .ok liveContext)
    (running : makeSureCurrentContractMatches libraries world "testnet" contractId
      found.source.sha256 = .ok ())
    (fetched : world.contractFetch "testnet" contractId = .finished executable)
    (known : executable ∈ threeModules)
    (stored : ∀ path ∈ ["source.wasm", "target.wasm"], ∀ bytes, world.files path = some bytes →
      bytes ∈ threeModules)
    (accepted : validatePlanRequest Sample.primitives (found.report Sample.primitives liveContext)
      "testnet" contractId "deployer" inputs operations = .ok ()) :
    ∃ plan, VerifiesOn libraries contract threeModules executable world plan ∧
      plan.validation.policy = found.policy ∧ plan.targetWasmSha256 = found.target.sha256 := by
  obtain ⟨digest, created⟩ := created_of_accepted accepted
  refine ⟨_, ⟨rfl, rfl, ?_, verifyLoadedPlan_live_of_created loaded resolved running created,
    known, stored⟩, rfl, rfl⟩
  intro other answered
  cases fetched.symm.trans answered
  rfl

/-- The default policy keeps every protection. -/
theorem default_strict : Policy.default.Strict := by
  change Policy.default.disabled = []
  decide

theorem sha256_module {module : WasmModule} (listed : module ∈ releaseModules) :
    Sample.primitives.moduleHash module.bytes = module.artifact.sha256 := by
  obtain ⟨_, parts⟩ := artifactParts_of_fromWasm (fromWasm_module module listed)
  exact parts.hashed.symm

theorem firstPlan_verifies : ∃ plan,
    VerifiesOn libraries contract threeModules sourceModule.bytes
      (environment sourceModule targetModule) plan ∧
    plan.validation.policy = Policy.default ∧
    plan.targetWasmSha256 = targetModule.artifact.sha256 := by
  refine livePlan_verifies (loads sourceModule_listed targetModule_listed)
    (liveContext_resolved _ _) (deployed sourceModule_listed) rfl (by simp [threeModules]) ?_
    liveRequest_accepted
  intro path listed bytes stored
  rcases List.mem_cons.1 listed with rfl | listed
  · cases stored
    simp [threeModules]
  · obtain rfl := List.mem_singleton.1 listed
    cases stored
    simp [threeModules]

theorem latestModule_listed : latestModule ∈ releaseModules := by
  simp [releaseModules]

/-- The files of the upgrade after the first one. -/
def laterEnvironment (source target : WasmModule) : Environment :=
  ((environment source target).write "source.schema.json"
    (printedBytes (encode (schema 2 "u32" none)))).write "target.schema.json"
    (printedBytes (encode (schema 3 "u32" none)))

def laterEvidence (source target : WasmModule) : Evidence :=
  { evidence source target with
    sourceSchema := schema 2 "u32" none
    targetSchema := schema 3 "u32" none }

theorem laterEnvironment_files {source target : WasmModule} {path : String}
    (notSource : path ≠ "source.schema.json") (notTarget : path ≠ "target.schema.json") :
    (laterEnvironment source target).files path = (environment source target).files path :=
  (Environment.write_files_of_ne notTarget).trans (Environment.write_files_of_ne notSource)

theorem laterLoads {source target : WasmModule} (sourceListed : source ∈ releaseModules)
    (targetListed : target ∈ releaseModules) :
    Loads libraries (laterEnvironment source target) inputs (laterEvidence source target) where
  source := (loadArtifact_congr (laterEnvironment_files (by decide) (by decide))).trans
    (loads sourceListed targetListed).source
  target := (loadArtifact_congr (laterEnvironment_files (by decide) (by decide))).trans
    (loads sourceListed targetListed).target
  sourceSchema := loadSchema_printed (schema 2 "u32" none)
    ((Environment.write_files_of_ne (by decide)).trans Environment.write_files)
    (by decide +kernel) (by decide)
  targetSchema := loadSchema_printed (schema 3 "u32" none) Environment.write_files
    (by decide +kernel) (by decide)
  policy := rfl
  history := (loadSchemaHistory_congr (laterEnvironment_files (by decide) (by decide))).trans
    (loads sourceListed targetListed).history

theorem latestRequest_accepted : validatePlanRequest Sample.primitives
    ((laterEvidence targetModule latestModule).report Sample.primitives liveContext)
    "testnet" contractId "deployer" inputs operations = .ok () := by
  decide +kernel

theorem latestPlan_verifies : ∃ plan,
    VerifiesOn libraries contract threeModules targetModule.bytes
      (laterEnvironment targetModule latestModule) plan ∧
    plan.validation.policy = Policy.default ∧
    plan.targetWasmSha256 = latestModule.artifact.sha256 := by
  refine livePlan_verifies (laterLoads targetModule_listed latestModule_listed)
    (liveContext_resolved targetModule latestModule) (@deployed _ latestModule targetModule_listed)
    rfl (by simp [threeModules]) ?_ latestRequest_accepted
  intro path listed bytes stored
  rcases List.mem_cons.1 listed with rfl | listed
  · cases stored
    simp [threeModules]
  · obtain rfl := List.mem_singleton.1 listed
    cases stored
    simp [threeModules]

theorem firstUpgrade :
    Upgrades libraries contract threeModules sourceModule.bytes targetModule.bytes := by
  obtain ⟨plan, verifies, policy, target⟩ := firstPlan_verifies
  exact ⟨_, plan, verifies, policy ▸ default_strict, by simp [threeModules],
    (sha256_module targetModule_listed).trans target.symm⟩

theorem secondUpgrade :
    Upgrades libraries contract threeModules targetModule.bytes latestModule.bytes := by
  obtain ⟨plan, verifies, policy, target⟩ := latestPlan_verifies
  exact ⟨_, plan, verifies, policy ▸ default_strict, by simp [threeModules],
    (sha256_module latestModule_listed).trans target.symm⟩

/-- Two upgrades in turn. -/
theorem sampleRun : TransGen (Upgrades libraries contract threeModules) sourceModule.bytes
    latestModule.bytes :=
  .tail (.single firstUpgrade) secondUpgrade

end Sample

/-- The run of two upgrades. -/
theorem sampleReleases_succeed : Sample.sourceModule.bytes ≠ Sample.latestModule.bytes ∧
    ∃ source target,
      Artifact.fromWasm Sample.primitives Sample.releaseReaders Sample.sourceModule.bytes =
        .ok source ∧
      Artifact.fromWasm Sample.primitives Sample.releaseReaders Sample.latestModule.bytes =
        .ok target ∧
      Succession Sample.primitives source target :=
  releases_succeed Sample.libraries Sample.contract Sample.threeModules _ _
    Sample.threeModules_apart Sample.sampleRun

/-- A plan that was verified for an executable, under whatever policy, is refused after
any run of strict upgrades away from it, its own or that of another plan. -/
theorem verifiedPlan_expires (libraries : Libraries) (contract : Contract)
    (modules : Set (List UInt8)) (first last : List UInt8) (earlier later : Environment)
    (plan : UpgradePlan) (apart : Set.InjOn libraries.primitives.moduleHash modules)
    (verifies : VerifiesOn libraries contract modules first earlier plan)
    (run : TransGen (Upgrades libraries contract modules) first last) :
    ¬ VerifiesOn libraries contract modules last later plan := by
  intro again
  have same : first = last :=
    apart verifies.running again.running (verifies.sourceHash.trans again.sourceHash.symm)
  exact ne_of_run apart run same

/-- The plan of the first upgrade is refused after both. -/
theorem sampleVerifiedPlan_expires : ∃ plan,
    VerifiesOn Sample.libraries Sample.contract Sample.threeModules Sample.sourceModule.bytes
      (Sample.environment Sample.sourceModule Sample.targetModule) plan ∧
    ∀ later, ¬ VerifiesOn Sample.libraries Sample.contract Sample.threeModules
      Sample.latestModule.bytes later plan := by
  obtain ⟨plan, verifies, _⟩ := Sample.firstPlan_verifies
  exact ⟨plan, verifies, fun later => verifiedPlan_expires Sample.libraries Sample.contract
    Sample.threeModules Sample.sourceModule.bytes Sample.latestModule.bytes _ later plan
    Sample.threeModules_apart verifies Sample.sampleRun⟩

end SorobanUpgrades
