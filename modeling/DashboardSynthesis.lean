import DashboardSynthesis.Main
import DashboardSynthesis.Proofs.Json.RoundTrip
import DashboardSynthesis.Proofs.PromQL.Selector
import DashboardSynthesis.Proofs.Synthesis.DecisionDashboard
import DashboardSynthesis.Proofs.Synthesis.Failures
import DashboardSynthesis.Proofs.Synthesis.Names
import DashboardSynthesis.Proofs.Session.Effects
import DashboardSynthesis.Proofs.Session.Inputs
import DashboardSynthesis.Proofs.Synthesis.Effects
import DashboardSynthesis.Proofs.Command.Dashboard
import DashboardSynthesis.Proofs.Command.Endpoint
import DashboardSynthesis.Proofs.Program.Ending
import DashboardSynthesis.Proofs.Program.ExitCodes
import DashboardSynthesis.Proofs.FileTree.LastName
import DashboardSynthesis.Proofs.Program.DryRuns
import DashboardSynthesis.Proofs.Synthesis.AuditLink
import DashboardSynthesis.Proofs.Program.BothWays
import DashboardSynthesis.Proofs.Dashboard.PanelIds
import DashboardSynthesis.Proofs.Dashboard.PanelGrid
import DashboardSynthesis.Proofs.Command.Answering
import DashboardSynthesis.Proofs.FileTree.Trails
import DashboardSynthesis.Proofs.Dashboard.Confinement
import DashboardSynthesis.Proofs.Dashboard.Interleaving
import DashboardSynthesis.Proofs.Synthesis.Links
import DashboardSynthesis.Proofs.Dashboard.Survival
import DashboardSynthesis.Proofs.Console.Lines
import DashboardSynthesis.Proofs.Console.Warnings
import DashboardSynthesis.Proofs.Command.SkipReports
import DashboardSynthesis.Proofs.Template.Rejoining
import DashboardSynthesis.Proofs.Dashboard.Refusal
import DashboardSynthesis.Proofs.Dashboard.CheckedEdits
import DashboardSynthesis.Proofs.Synthesis.RegistryDefects
import DashboardSynthesis.Proofs.Command.DecisionFiles
import DashboardSynthesis.Proofs.Synthesis.Storing
import DashboardSynthesis.Proofs.Synthesis.Qualification
import DashboardSynthesis.Proofs.Dashboard.Datasource
import DashboardSynthesis.Proofs.Synthesis.Calls
