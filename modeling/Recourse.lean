import Recourse.Policy.Types
import Recourse.Policy.Normalize
import Recourse.Policy.Guardrails
import Recourse.Policy.Record
import Recourse.Policy.Key
import Recourse.Policy.Options
import Recourse.Hedge.Trigger
import Recourse.Retry.Types
import Recourse.Budget.Registry
import Recourse.Retry.Group
import Recourse.Retry.Invariants
import Recourse.Retry.Coordinator
import Recourse.Retry.Spawner
import Recourse.Retry.Hedging
import Recourse.Retry.Drain
