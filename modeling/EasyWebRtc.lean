import EasyWebRtc.Lib.Octets
import EasyWebRtc.Lib.Tlv
import EasyWebRtc.Lib.Traced
import EasyWebRtc.Lib.Guarded
import EasyWebRtc.Lib.Framed
import EasyWebRtc.Lib.Crc
import EasyWebRtc.Lib.Text
import EasyWebRtc.Common.Utils
import EasyWebRtc.Common.Crc32
import EasyWebRtc.Rtc.StunPacket.Basic
import EasyWebRtc.Rtc.StunPacket.Grammar
import EasyWebRtc.Rtc.StunPacket.ParseProof
import EasyWebRtc.Rtc.StunPacket.Serialize
import EasyWebRtc.Rtc.StunPacket.SerializeProof
import EasyWebRtc.Rtc.StunPacket.Fingerprint
import EasyWebRtc.Rtc.StunPacket.RoundTrip
import EasyWebRtc.Rtc.StunPacket.Authentication
import EasyWebRtc.Rtc.StunPacket.Termination
import EasyWebRtc.Rtc.StunPacket.StaleBytes
import EasyWebRtc.Rtc.StunPacket.Burst
import EasyWebRtc.Rtc.SrtpSession
import EasyWebRtc.Rtc.DtlsTransport.Basic
import EasyWebRtc.Rtc.DtlsTransport.Keys
import EasyWebRtc.Rtc.IceServer
import EasyWebRtc.Rtc.WebRtcTransport.Basic
import EasyWebRtc.Rtc.WebRtcTransport.Invariant
import EasyWebRtc.Rtc.IceResponse
import EasyWebRtc.Rtc.WebRtcTransport.Media
import EasyWebRtc.Rtc.WebRtcTransport.Emission
import EasyWebRtc.Rtc.WebRtcTransport.Inbound
import EasyWebRtc.Rtc.DtlsTransport.Machine
import EasyWebRtc.Rtc.DtlsTransport.Notifications
import EasyWebRtc.Rtc.DtlsTransport.Shutdown
import EasyWebRtc.Rtc.IceAnswer
import EasyWebRtc.Rtc.IceCredentials
import EasyWebRtc.Rtc.IceRotation
import EasyWebRtc.Rtc.WebRtcTransport.Opening
import EasyWebRtc.Rtc.DtlsTransport.KeySplit
import EasyWebRtc.Rtc.DtlsTransport.Fingerprints
import EasyWebRtc.Rtc.ErrorReply
import EasyWebRtc.Rtc.WebRtcTransport.Demux
import EasyWebRtc.Rtc.WebRtcTransport.Faults
import EasyWebRtc.Rtc.WebRtcTransport.Admission
import EasyWebRtc.Rtc.WebRtcTransport.Sdp
import EasyWebRtc.Rtp.RtpUtil
import EasyWebRtc.Rtp.Reuse
import EasyWebRtc.Rtp.Depacketizer
import EasyWebRtc.Rtp.StapA
import EasyWebRtc.Rtp.FuA
import EasyWebRtc.Rtp.Publish
import EasyWebRtc.Rtp.Packetization
import EasyWebRtc.Net.UdpServer
import EasyWebRtc.Net.HandleRead
import EasyWebRtc.Session.WebRtcSession
import EasyWebRtc.Session.Routing
import EasyWebRtc.Session.Execution
import EasyWebRtc.Session.Destination
import EasyWebRtc.Session.Split
import EasyWebRtc.Session.Registry
import EasyWebRtc.Session.Fragments
import EasyWebRtc.Session.Refinement
import EasyWebRtc.Session.Queues
import EasyWebRtc.Session.Admission
import EasyWebRtc.Session.Connections
import EasyWebRtc.Session.Broadcast
import EasyWebRtc.Session.Signalling
