import OpenSomeIp.Lib.Method
import OpenSomeIp.Lib.BigEndian
import OpenSomeIp.Lib.Framing
import OpenSomeIp.Lib.Transition
import OpenSomeIp.Lib.History
import OpenSomeIp.Lib.Loop
import OpenSomeIp.Lib.Chunks
import OpenSomeIp.Types
import OpenSomeIp.Message
import OpenSomeIp.Serialization
import OpenSomeIp.SerializationRoundTrip
import OpenSomeIp.E2e
import OpenSomeIp.SimpleE2eProfile
import OpenSomeIp.E2eStream
import OpenSomeIp.Receiver
import OpenSomeIp.ReceiverSystem
import OpenSomeIp.ReceiverDelivery
import OpenSomeIp.ReceiverAsync
import OpenSomeIp.ReceiverAgreement
import OpenSomeIp.ReceiverRelease
import OpenSomeIp.SyncInterleaving
import OpenSomeIp.SyncClose
import OpenSomeIp.Rpc
import OpenSomeIp.RpcSystem
import OpenSomeIp.RpcAgreement
import OpenSomeIp.Server
import OpenSomeIp.Client
import OpenSomeIp.E2eSystem
import OpenSomeIp.Tp
import OpenSomeIp.TpStream
import OpenSomeIp.TpNative
import OpenSomeIp.RpcInFlight
import OpenSomeIp.RpcPending
import OpenSomeIp.RpcResults
import OpenSomeIp.Component
import OpenSomeIp.Transport
import OpenSomeIp.TransportKinds
import OpenSomeIp.Sd
import OpenSomeIp.RpcServer
import OpenSomeIp.Events
import OpenSomeIp.TpManager
import OpenSomeIp.Lib.Lifecycle
import OpenSomeIp.ReceiverLifecycle
import OpenSomeIp.Lib.Sequence
import OpenSomeIp.Lib.Raising
import OpenSomeIp.Composite
import OpenSomeIp.CompositeLifecycle
import OpenSomeIp.ServerNode
import OpenSomeIp.ClientNode
import OpenSomeIp.NodeLifecycle
import OpenSomeIp.Publish
import OpenSomeIp.PublishThreshold
import OpenSomeIp.ServerSystem
import OpenSomeIp.ServerAnswers
import OpenSomeIp.Lib.Slices
import OpenSomeIp.Lib.Script
import OpenSomeIp.TpScript
import OpenSomeIp.TpOnce
import OpenSomeIp.E2eVerification
import OpenSomeIp.Recording
import OpenSomeIp.E2eLedger
import OpenSomeIp.ClientLedger
import OpenSomeIp.ServerLedger
import OpenSomeIp.Lib.BinaryPolynomial
import OpenSomeIp.Lib.BinaryReflection
import OpenSomeIp.Crc8
import OpenSomeIp.Crc16
import OpenSomeIp.Lib.ErrorDetection
import OpenSomeIp.CrcDetection
import OpenSomeIp.Lib.Counting
import OpenSomeIp.ReadGrammar
import OpenSomeIp.Utf8
import OpenSomeIp.Reencoding
import OpenSomeIp.ReadCursor
import OpenSomeIp.Writers
import OpenSomeIp.DeserializerPaths
import OpenSomeIp.TcpConnection
import OpenSomeIp.SyncFifo
import OpenSomeIp.Lib.Handout
import OpenSomeIp.ReceiverHandout
import OpenSomeIp.Lib.Mirror
import OpenSomeIp.SdOffers
import OpenSomeIp.RpcDispatch
import OpenSomeIp.ReceiverLines
import OpenSomeIp.EventIsolation
import OpenSomeIp.E2eCounter
import OpenSomeIp.TpTiling
import OpenSomeIp.TpFields
import OpenSomeIp.TpLoopBound
import OpenSomeIp.TpTermination
import OpenSomeIp.Lib.Registering
import OpenSomeIp.Registrations
import OpenSomeIp.TransportIdempotence
import OpenSomeIp.ReceiverAtomicity
import OpenSomeIp.Bridge
import OpenSomeIp.Lib.Medium
import OpenSomeIp.Conversions
import OpenSomeIp.Posting
import OpenSomeIp.Link
import OpenSomeIp.LinkDelivery
import OpenSomeIp.Multicast
import OpenSomeIp.MulticastDelivery
import OpenSomeIp.Responder
import OpenSomeIp.ResponderSystem
import OpenSomeIp.Calculator
import OpenSomeIp.Lib.Lanes
import OpenSomeIp.DualInterleaving
import OpenSomeIp.DualDelivery
import OpenSomeIp.DualOrder
import OpenSomeIp.E2eTampering
import OpenSomeIp.Lib.Tandem
import OpenSomeIp.SerializerPaths
import OpenSomeIp.WithStatement
import OpenSomeIp.Lib.Numerals
import OpenSomeIp.Identifiers
import OpenSomeIp.SdFinding
import OpenSomeIp.LinkHearing
import OpenSomeIp.ComplexTypes
import OpenSomeIp.CallMethod
import OpenSomeIp.TpTraffic
