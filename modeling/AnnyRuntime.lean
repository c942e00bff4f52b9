import AnnyRuntime.Lib.Dict
import AnnyRuntime.Json.Torn
import AnnyRuntime.Lib.LineLog
import AnnyRuntime.Lib.TornLog
import AnnyRuntime.Continuity.Crash
import AnnyRuntime.Execution.Capability
import AnnyRuntime.Execution.Registry
import AnnyRuntime.Lib.Ranking
import AnnyRuntime.Core.Inventory
import AnnyRuntime.Orchestration.Authorization
import AnnyRuntime.Execution.Fencing
import AnnyRuntime.Execution.Admission
import AnnyRuntime.Execution.RegistryFile
import AnnyRuntime.Continuity.Orphans
import AnnyRuntime.Execution.Restart
import AnnyRuntime.Mcp.Accounting
import AnnyRuntime.Mcp.Authority
import AnnyRuntime.Execution.Output
import AnnyRuntime.Execution.Lifecycle
import AnnyRuntime.Api.Bridge
import AnnyRuntime.Sync.Staging
import AnnyRuntime.Sync.Panel
import AnnyRuntime.Sync.Recovery
import AnnyRuntime.Browser.Submission
import AnnyRuntime.Browser.Ipc
import AnnyRuntime.Browser.Crossing
import AnnyRuntime.Browser.Sessions
import AnnyRuntime.Security.Grants
import AnnyRuntime.Core.Recovery
import AnnyRuntime.Core.Engine
import AnnyRuntime.Continuity.Reload
import AnnyRuntime.Execution.Restore
import AnnyRuntime.Execution.Provenance
import AnnyRuntime.Telemetry.Chronology
import AnnyRuntime.Session.Manager
import AnnyRuntime.Shell.Executor
import AnnyRuntime.Tools.Builtins
import AnnyRuntime.Admin.Access
import AnnyRuntime.Admin.GitHub
import AnnyRuntime.Admin.Onboarding
import AnnyRuntime.Admin.Audit
import AnnyRuntime.Bootstrap.Authority
import AnnyRuntime.Identity.Enrollment
import AnnyRuntime.Compute.RemoteManager
import AnnyRuntime.Compute.Colab
import AnnyRuntime.Compute.Bridged
import AnnyRuntime.Execution.Evidence
import AnnyRuntime.Execution.LocalModel
import AnnyRuntime.Execution.Preservation
import AnnyRuntime.Filesystem.Boundary
import AnnyRuntime.Filesystem.Service
import AnnyRuntime.Lib.Links
import AnnyRuntime.Lib.Traced
import AnnyRuntime.Execution.Handlers
import AnnyRuntime.Execution.Forbidden
import AnnyRuntime.Execution.GitArguments
import AnnyRuntime.Continuity.Rerun
import AnnyRuntime.Intelligence.Assessment
import AnnyRuntime.Execution.SaveFaults
import AnnyRuntime.Continuity.FailedWrites
import AnnyRuntime.Continuity.Quarantine
import AnnyRuntime.Continuity.Contract
import AnnyRuntime.Git.Commit
import AnnyRuntime.Git.Quoting
import AnnyRuntime.Workspace.Ephemeral
import AnnyRuntime.Telemetry.Totals
import AnnyRuntime.Execution.Submitting
import AnnyRuntime.Lib.ShellScripts
import AnnyRuntime.Lib.ShellWords
import AnnyRuntime.Intelligence.Evidence
import AnnyRuntime.Orchestration.Convergence
import AnnyRuntime.Execution.Frontier
import AnnyRuntime.Mcp.Soundness
import AnnyRuntime.Browser.Verdict
import AnnyRuntime.Sync.Backed
import AnnyRuntime.Telemetry.Totality
import AnnyRuntime.Telemetry.Uniform
import AnnyRuntime.Accounts.Credentials
import AnnyRuntime.Accounts.Uniqueness
import AnnyRuntime.Bootstrap.Readiness
import AnnyRuntime.Events.Bus
import AnnyRuntime.Workspace.Manager
import AnnyRuntime.Process.Limit
import AnnyRuntime.Intelligence.Store
import AnnyRuntime.Intelligence.Grading
import AnnyRuntime.Intelligence.Runner
import AnnyRuntime.Secrets.FaithfulMap
import AnnyRuntime.Continuity.Resolution
import AnnyRuntime.Execution.Observed
import AnnyRuntime.Telemetry.Workers
import AnnyRuntime.Telemetry.Stream
import AnnyRuntime.Admin.Csrf
import AnnyRuntime.Admin.Server
import AnnyRuntime.Api.BridgeServer
import AnnyRuntime.Lib.Settling
import AnnyRuntime.Process.Lifecycle
