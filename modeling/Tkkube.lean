import Tkkube.Value
import Tkkube.Path
import Tkkube.Restore.Types
import Tkkube.Restore.Transform
import Tkkube.Restore.Phases
import Tkkube.Restore.Orchestrator
import Tkkube.Restore.Segments
import Tkkube.Restore.Steps
import Tkkube.Restore.PhaseOrder
import Tkkube.Restore.Bookkeeping
import Tkkube.Restore.Effects
import Tkkube.Restore.Results
import Tkkube.Restore.SharedWorkdir
import Tkkube.Config.Shared
import Tkkube.Config.Loader
import Tkkube.Config.Merge
import Tkkube.Config.Validation
import Tkkube.Restore.Manifests
import Tkkube.Restore.RestorePath
import Tkkube.Security.RateLimiter
import Tkkube.Security.InputValidator
import Tkkube.Integration.GitopsClient
import Tkkube.Triggers.GitopsTrigger
import Tkkube.Triggers.WebhookHandler
import Tkkube.Triggers.Monitor
import Tkkube.Security.Manager
import Tkkube.Security.Setup
import Tkkube.Integration.GenerationRequest
import Tkkube.Integration.SecureGitopsClient
