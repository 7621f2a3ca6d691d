import SorobanUpgrades.Library.Ordered
import SorobanUpgrades.Library.Json
import SorobanUpgrades.Library.JsonText
import SorobanUpgrades.Library.TextScan
import SorobanUpgrades.Library.JsonCodec
import SorobanUpgrades.Library.JsonLayout
import SorobanUpgrades.Library.Semver
import SorobanUpgrades.Library.Sha256
import SorobanUpgrades.Library.Loop
import SorobanUpgrades.Library.Outcome
import SorobanUpgrades.Library.Routes
import SorobanUpgrades.Library.Worklist
import SorobanUpgrades.Library.Transaction
import SorobanUpgrades.Library.ShellWords
import SorobanUpgrades.Core.Types
import SorobanUpgrades.Core.Serialize
import SorobanUpgrades.Core.Primitives
import SorobanUpgrades.Core.Spec
import SorobanUpgrades.Core.Wasm
import SorobanUpgrades.Core.Checks
import SorobanUpgrades.Core.Interfaces
import SorobanUpgrades.Core.Storage
import SorobanUpgrades.Core.History
import SorobanUpgrades.Core.Impact
import SorobanUpgrades.Core.Validate
import SorobanUpgrades.Core.Plan
import SorobanUpgrades.Core.Parse
import SorobanUpgrades.Core.Cli
import SorobanUpgrades.Core.Output
import SorobanUpgrades.Core.Run
import SorobanUpgrades.Core.Host
import SorobanUpgrades.Core.Counter
import SorobanUpgrades.Core.Account
import SorobanUpgrades.Proofs.PlanDigest
import SorobanUpgrades.Proofs.PlanVerification
import SorobanUpgrades.Proofs.SecretScan
import SorobanUpgrades.Proofs.CheckVerdicts
import SorobanUpgrades.Proofs.StorageVerdicts
import SorobanUpgrades.Proofs.HistoryVerdicts
import SorobanUpgrades.Proofs.DefaultPolicy
import SorobanUpgrades.Proofs.FieldLifecycle
import SorobanUpgrades.Proofs.SchemaVersions
import SorobanUpgrades.Proofs.PublicImpacts
import SorobanUpgrades.Proofs.StrictParsing
import SorobanUpgrades.Proofs.EntrypointExports
import SorobanUpgrades.Proofs.Commands
import SorobanUpgrades.Proofs.PlanRoundTrip
import SorobanUpgrades.Proofs.LiveVerification
import SorobanUpgrades.Proofs.StepCommands
import SorobanUpgrades.Proofs.FindingCodes
import SorobanUpgrades.Proofs.EvidenceLabels
import SorobanUpgrades.Proofs.GateMonotone
import SorobanUpgrades.Proofs.StorageOrder
import SorobanUpgrades.Proofs.PlanExecution
import SorobanUpgrades.Proofs.VersionGate
import SorobanUpgrades.Proofs.MigrationSteps
import SorobanUpgrades.Proofs.HonestHistory
import SorobanUpgrades.Proofs.CanonicalInterfaces
import SorobanUpgrades.Proofs.CallReachability
import SorobanUpgrades.Proofs.SpecExtraction
import SorobanUpgrades.Proofs.TypeChanges
import SorobanUpgrades.Proofs.ImpactLimits
import SorobanUpgrades.Proofs.PolicyVerdicts
import SorobanUpgrades.Proofs.ReleaseRuns
import SorobanUpgrades.Proofs.CommandRuns
import SorobanUpgrades.Proofs.CommandVerdicts
import SorobanUpgrades.Proofs.CommandOutputs
import SorobanUpgrades.Proofs.ArtifactReading
import SorobanUpgrades.Proofs.InterfaceGate
import SorobanUpgrades.Proofs.MigrationArguments
import SorobanUpgrades.Proofs.CounterStorage
import SorobanUpgrades.Proofs.CounterRuns
import SorobanUpgrades.Proofs.CounterUpgrade
import SorobanUpgrades.Proofs.AccountStorage
import SorobanUpgrades.Proofs.AccountRuns
