import DispatchRouter.RouterCore
import DispatchRouter.Forwarder
import DispatchRouter.ForwarderSteps
import DispatchRouter.DeliveryTags
import DispatchRouter.PeerLinkage
import DispatchRouter.Connection
import DispatchRouter.Message
import DispatchRouter.RouterNode
import DispatchRouter.RxHandler
import DispatchRouter.Settlement
import DispatchRouter.Policy
import DispatchRouter.PolicyGate
import DispatchRouter.PolicyLinkName
import DispatchRouter.Multicast
import DispatchRouter.Closest
import DispatchRouter.Annotations
import DispatchRouter.OpenedHandler
import DispatchRouter.PolicyTrees
import DispatchRouter.LinkLinkage
import DispatchRouter.PolicyOpen
import DispatchRouter.Atomic
import DispatchRouter.PolicyConfig
import DispatchRouter.RouterSetup
