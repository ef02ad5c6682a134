import WebrtcServer.StunBounds
import WebrtcServer.StunFraming
import WebrtcServer.IceAuth
import WebrtcServer.H264Pack
import WebrtcServer.Resend
import WebrtcServer.MediaTracks
import WebrtcServer.DtlsAuth
import WebrtcServer.UnprotectedRtcp
import WebrtcServer.RtcpFraming
import WebrtcServer.TransportManager
import WebrtcServer.ProtectedSend
import WebrtcServer.DtlsRestart
import WebrtcServer.StunRejection
import WebrtcServer.Fingerprint
import WebrtcServer.ObserverLatch
import WebrtcServer.StreamEnd
import WebrtcServer.GopSegment
import WebrtcServer.RequestAnswer
import WebrtcServer.ListenPorts
import WebrtcServer.SendQueue
import WebrtcServer.Rtt
import WebrtcServer.ResendAge
import WebrtcServer.PackStream
import WebrtcServer.SourceLiveness
import WebrtcServer.Components
import WebrtcServer.CreateAnswer
import WebrtcServer.DtlsRole
import WebrtcServer.TransportStop
import WebrtcServer.UnitPayloads
import WebrtcServer.NackItems
import WebrtcServer.StunResponse
import WebrtcServer.StunRestore
import WebrtcServer.IceNomination
import WebrtcServer.ReportTimestamp
import WebrtcServer.ReportCounts
import WebrtcServer.OfferPayloads
import WebrtcServer.ResendSpacing
import WebrtcServer.SourceUrls
import WebrtcServer.TranscodedPts
import WebrtcServer.Crc32
import WebrtcServer.ByteScripts
import WebrtcServer.LossRecovery
import WebrtcServer.RtcpRoundTrip
import WebrtcServer.ViewerStream
import WebrtcServer.TranscoderLifetime
import WebrtcServer.DtlsContext
import WebrtcServer.Broadcast
import WebrtcServer.ObserverLifetime
import WebrtcServer.DtlsTimer
import WebrtcServer.DtlsRetransmit
import WebrtcServer.SourceStop
import WebrtcServer.LipSync
import WebrtcServer.FrameOrder
