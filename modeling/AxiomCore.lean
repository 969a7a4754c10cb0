import AxiomCore.Audit.Collector
import AxiomCore.Audit.ComplianceLog
import AxiomCore.Crypto.Attestation
import AxiomCore.Crypto.Expiry
import AxiomCore.Crypto.RawAuth
import AxiomCore.Crypto.RawExchange
import AxiomCore.Crypto.RevocationWire
import AxiomCore.Gateway.ApprovalBinding
import AxiomCore.Gateway.AuditFailures
import AxiomCore.Gateway.AuditTamper
import AxiomCore.Gateway.FlowErrors
import AxiomCore.Gateway.PolicyLoad
import AxiomCore.Hal.HdlSigning
import AxiomCore.Hal.Memory
import AxiomCore.Hal.TensorAlloc
import AxiomCore.Node.Authentic
import AxiomCore.Node.ClockOrder
import AxiomCore.Node.Concurrency
import AxiomCore.Node.Dedup
import AxiomCore.Node.Mesh
import AxiomCore.Node.Regossip
import AxiomCore.Node.Requests
import AxiomCore.Node.Retrace
import AxiomCore.Node.Telegram
import AxiomCore.Node.TextPayloads
import AxiomCore.Node.Wan
import AxiomCore.Node.WgPeerManage
import AxiomCore.Router.Bootstrap
import AxiomCore.Router.Multihop
import AxiomCore.Router.RoutePolicy
import AxiomCore.Runtime.Scheduler
import AxiomCore.Transport.Reassembly
import AxiomCore.Transport.ReliableLink
import AxiomCore.Transport.Secure
import AxiomCore.Transport.TokenWire
