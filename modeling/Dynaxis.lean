import Dynaxis.WriteBehind.Retry
import Dynaxis.WriteBehind.ReplayEquivalence
import Dynaxis.WriteBehind.Stranded
import Dynaxis.Realtime.Interest
import Dynaxis.Realtime.Timeline
import Dynaxis.Rudp.Receiver
import Dynaxis.Rudp.Convergence
import Dynaxis.Chat.Admission
import Dynaxis.Chat.BanBook
import Dynaxis.Chat.Identity
import Dynaxis.Chat.Kicks
import Dynaxis.Chat.Fleet
import Dynaxis.Chat.MessageOrder
import Dynaxis.Chat.Hooks
import Dynaxis.Chat.ColdHooks
import Dynaxis.Admin.Replay
import Dynaxis.Admin.Fanout
import Dynaxis.Admin.TopologyRevisions
import Dynaxis.Gateway.BackendFrames
import Dynaxis.Gateway.ResumeToken
import Dynaxis.Concurrent.ThreadManager
import Dynaxis.Storage.DbWorkerPool
import Dynaxis.App.Lifecycle
import Dynaxis.Gateway.UdpBinding
import Dynaxis.Gateway.RudpFallback
import Dynaxis.Gateway.SessionDirectory
import Dynaxis.Gateway.DirectBind
import Dynaxis.Realtime.FixedStep
import Dynaxis.Net.Session
import Dynaxis.Worlds.Kubernetes
import Dynaxis.Admin.DeploymentStore
import Dynaxis.Admin.Deployments
import Dynaxis.Net.RetryBudget
import Dynaxis.Protocol.Utf8
import Dynaxis.Memory.MemoryPool
