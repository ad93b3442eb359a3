import Podmesh.Agent.Cotenant
import Podmesh.Protocol.EnvelopeReplay
import Podmesh.Scheduler.AttachmentLifetime
import Podmesh.Proxy.LiveTenancy
import Podmesh.Proxy.Ingress
import Podmesh.Scheduler.LocationAuthenticity
import Podmesh.Scheduler.ReconciliationFanout
import Podmesh.Manifest.Privileges
import Podmesh.Podctl.FreshDeployment
import Podmesh.Agent.CompareAndSwap
import Podmesh.Agent.Rollback
import Podmesh.Agent.Restart
import Podmesh.Proxy.Discovery
import Podmesh.Agent.Offers
import Podmesh.Scheduler.ControlRelay
import Podmesh.Agent.DelegationKeys
import Podmesh.Agent.Release
import Podmesh.Podctl.RollingUpdate
import Podmesh.Proxy.RouteChoice
import Podmesh.Scheduler.QueryDeadline
import Podmesh.Scheduler.ReconciliationOutcome
import Podmesh.Proxy.StreamLimits
import Podmesh.Scheduler.PeerPins
import Podmesh.Proxy.RelayTokens
import Podmesh.Proxy.GrantRenewal
import Podmesh.Sidecar.DnsCache
import Podmesh.Manifest.Quantities
import Podmesh.Proxy.ActiveGauge
import Podmesh.Sidecar.VipRoutes
import Podmesh.Proxy.RawRelay
import Podmesh.Podctl.TrustFile
import Podmesh.Protocol.NodeIdentity
import Podmesh.Scheduler.RelayGrants
