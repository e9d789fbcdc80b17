import Kubediag.Api.Types
import Kubediag.Util
import Kubediag.RecovererChain.RunRecovery
import Kubediag.RecovererChain.Dispatch
import Kubediag.RecovererChain.Run
import Kubediag.RecovererChain.Queue
import Kubediag.Legacy.Chain
import Kubediag.Legacy.Channel
import Kubediag.Cluster.Store
import Kubediag.Cluster.Agents
import Kubediag.Cluster.Deployment
import Kubediag.Cluster.Mixed
import Kubediag.Cluster.Upgrade
import Kubediag.Http.Handlers
