import FolioLattice.Audit.Laundering
import FolioLattice.Auth.SessionRuns
import FolioLattice.Backup.Consistency
import FolioLattice.Deployment.Recovery
import FolioLattice.Deployment.Restored
import FolioLattice.External.Finality
import FolioLattice.Limits.Fairness
import FolioLattice.PublicMcp.Revocation
import FolioLattice.PublicMcp.Spelling
import FolioLattice.Store.Acl
import FolioLattice.Store.Contents
import FolioLattice.Store.ReadCalls
import FolioLattice.Store.Writers
import FolioLattice.Audit.Trail
import FolioLattice.Audit.Verified
import FolioLattice.Server.OneRead
import FolioLattice.BackupOps.Readiness
import FolioLattice.Store.Grep
import FolioLattice.Store.Recovered
import FolioLattice.Store.WriteOutcome
import FolioLattice.Store.Traversal
import FolioLattice.Store.Paging
import FolioLattice.Store.SearchSound
import FolioLattice.Audit.ExportEnds
import FolioLattice.Store.Search
import FolioLattice.Store.Startup
import FolioLattice.Store.Components
import FolioLattice.Limits.RetryAfter
import FolioLattice.Limits.Keys
import FolioLattice.Auth.TransactionRuns
import FolioLattice.Auth.Activity
import FolioLattice.Store.Links
import FolioLattice.External.CredentialScan
import FolioLattice.External.Pinned
import FolioLattice.Store.GraphPaths
import FolioLattice.Store.Snapshots
import FolioLattice.Audit.Purges
import FolioLattice.Store.Confined
import FolioLattice.Server.ReturnTo
import FolioLattice.Bridge.Decisions
import FolioLattice.Limits.Held
import FolioLattice.Slack.Search
import FolioLattice.Recipe.Resumed
import FolioLattice.Limits.OneDimension
import FolioLattice.Store.Snippets
import FolioLattice.Server.BodyGate
import FolioLattice.Server.HttpAudit
import FolioLattice.Audit.Integrity
import FolioLattice.Audit.CaughtUp
import FolioLattice.Store.IndexTables
import FolioLattice.External.Alone
import FolioLattice.SignIn.Bound
import FolioLattice.SignIn.SignOut
import FolioLattice.Renderer.Preview
import FolioLattice.Server.RelayedCalls
