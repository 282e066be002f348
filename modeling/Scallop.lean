import Scallop.DataPlane.ExtensionBounds
import Scallop.DataPlane.Nack
import Scallop.DataPlane.TemplateStructure
import Scallop.SequenceRewriter.Exact
import Scallop.SequenceRewriter.FullTarget
import Scallop.SequenceRewriter.Loss
import Scallop.SequenceRewriter.Reference
import Scallop.SequenceRewriter.Reorder
import Scallop.SequenceRewriter.Shift
import Scallop.DataPlane.Isolation
import Scallop.DataPlane.Layers
import Scallop.DataPlane.Malformed
import Scallop.SwitchAgent.Compound
import Scallop.SwitchAgent.DecodeTargets
import Scallop.SwitchAgent.EstimateOrder
import Scallop.SwitchAgent.Descriptors
import Scallop.SwitchAgent.Estimates
import Scallop.SwitchAgent.Failed
import Scallop.SwitchAgent.Links
import Scallop.SwitchAgent.Matches
import Scallop.SwitchAgent.ApiClient
import Scallop.SwitchAgent.Routing
import Scallop.SwitchAgent.Stun
import Scallop.SwitchAgent.Unique
import Scallop.SwitchAgent.Walk
import Scallop.Controller.Accepted
import Scallop.Controller.ClientConnections
import Scallop.Controller.ClientText
import Scallop.Controller.Endpoints
import Scallop.Controller.Failure
import Scallop.Controller.Hiding
import Scallop.Controller.Notifications
import Scallop.Sdp.Splitter
import Scallop.Controller.StreamSafety
import Scallop.Controller.SwitchConnections
import Scallop.Client.SignalClient
import Scallop.Wire
import Scallop.Tofino.Av1Recognition
import Scallop.Tofino.PacketIn
import Scallop.Tofino.Commands
import Scallop.Tofino.Insertions
import Scallop.Tofino.Ingress
import Scallop.Tofino.SfuSwitchAgent
import Scallop.Sdp.Idempotence
import Scallop.Util.Strings
import Scallop.Util.NonSymmetric
import Scallop.Web.ControllerWebServer
import Scallop.Controller.Apart
import Scallop.Deployment
import Scallop.Reports
