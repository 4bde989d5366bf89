import Admissorium.App.DecisionFlags
import Admissorium.App.EmergencySwitch
import Admissorium.App.GuardedWrites
import Admissorium.App.RepairTargets
import Admissorium.App.RequestPipeline
import Admissorium.App.SignatureVerifiers
import Admissorium.App.TokenExchange
import Admissorium.App.WebhookEnvelope
import Admissorium.App.WebhookIntake
import Admissorium.Classify.Rewrapping
import Admissorium.Cli.Audit
import Admissorium.Cli.LicenseRegistry
import Admissorium.Cli.Publication
import Admissorium.Cli.Report
import Admissorium.Compare.AcceptedVsCandidate
import Admissorium.Files.Endings
import Admissorium.Files.FileSystem
import Admissorium.Files.Tasks
import Admissorium.Firewall.GlobGuards
import Admissorium.Gates.AuthorityFreeze
import Admissorium.Gates.ChainOrder
import Admissorium.Gates.ObjectGates
import Admissorium.Gates.StorageOrder
import Admissorium.Gates.TruthTyping
import Admissorium.Hostile.AnswerKey
import Admissorium.Hostile.ProductionDecision
import Admissorium.Invariants.AuthorityScope
import Admissorium.Invariants.CrossStackBundle
import Admissorium.Invariants.PackageSources
import Admissorium.Invariants.ReceiptIdentity
import Admissorium.Invariants.RepoClasses
import Admissorium.JavaScript.Instants
import Admissorium.JavaScript.JsonRoundTrip
import Admissorium.Pipeline.EvidenceChain
import Admissorium.Pipeline.StoredBundle
import Admissorium.Pipeline.WriterSeed
import Admissorium.Policy.PermissionLevels
import Admissorium.Policy.TruthPathGuard
import Admissorium.Reports.JsonBinding
import Admissorium.Reports.JsonHistory
import Admissorium.Schema.StoredSchemas
import Admissorium.Schema.ValidateObject
import Admissorium.Scripts.CandidateSuites
import Admissorium.Scripts.ClassifierSuite
import Admissorium.Scripts.Filing
import Admissorium.Scripts.History
import Admissorium.Scripts.HostileBattery
import Admissorium.Scripts.NpmSteps
import Admissorium.Scripts.Processes
import Admissorium.Scripts.ReadinessArtifact
import Admissorium.Scripts.ReadinessGate
import Admissorium.Scripts.ReleaseGate
import Admissorium.Scripts.ReportBundle
import Admissorium.Scripts.SchemaValidation
import Admissorium.Scripts.Snapshots
import Admissorium.Scripts.StepNeeds
import Admissorium.Scripts.StoredChain
import Admissorium.Scripts.StoredSuites
import Admissorium.Scripts.SuiteReports
import Admissorium.Scripts.WebhookSuite
import Admissorium.Scripts.WriterChain
import Admissorium.Signing.Replay
import Admissorium.Verdict.FileGrowth
import Admissorium.Verdict.FirewallStrictness
