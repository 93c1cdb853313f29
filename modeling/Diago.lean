import Diago.Lib.Bytes
import Diago.Lib.Numeral
import Diago.Lib.Base64
import Diago.Lib.Runes
import Diago.Lib.IPText
import Diago.Lib.Lines
import Diago.Lib.Op
import Diago.Lib.Run
import Diago.Lib.KeyedJoin
import Diago.Lib.Machine
import Diago.Lib.Quote
import Diago.Lib.LetterCase
import Diago.Lib.BigEndian
import Diago.Lib.Ledger
import Diago.SDP.Description
import Diago.SDP.Sections
import Diago.SDP.Reading
import Diago.Media.Codec
import Diago.Media.Srtp
import Diago.Media.Session
import Diago.Media.Association
import Diago.Media.Listen
import Diago.Media.LocalSDP
import Diago.Media.Finalize
import Diago.Media.RemoteSDP
import Diago.Media.Refusal
import Diago.Media.Wire
import Diago.Media.Frame
import Diago.Media.Negotiation
import Diago.Media.Applied
import Diago.Media.Keying
import Diago.Media.Protection
import Diago.Media.SecureProfile
import Diago.Media.Finalizing
import Diago.Media.Continuation
import Diago.Media.Fingerprints
import Diago.Media.ReadBack
import Diago.Media.Attributes
import Diago.Media.Bound
import Diago.Media.PortRange
import Diago.Media.Legible
import Diago.Media.Sdes
import Diago.Media.SdesChoice
import Diago.Media.Exchange
import Diago.Media.Endpoint
import Diago.Media.Renegotiation
import Diago.Media.Agreement
import Diago.Media.Direction
import Diago.Media.FinalLine
import Diago.Media.Answer
import Diago.Media.Origin
import Diago.Media.Formats
import Diago.Media.Isolation
import Diago.Media.ClientHello
import Diago.Media.KeyExchangeConn
import Diago.Dialog.Invite
import Diago.Lib.Seq16
import Diago.Lib.SlotTable
import Diago.Jitter.Buffer
import Diago.Jitter.Slots
import Diago.Jitter.Filing
import Diago.Jitter.Playout
import Diago.Jitter.System
import Diago.Jitter.Order
import Diago.Refer.Attempt
import Diago.Refer.Lifecycle
import Diago.Refer.Routing
import Diago.Refer.Deadline
import Diago.Dialog.ReInvite
import Diago.Rtp.Sequencer
import Diago.Media.BadInput
import Diago.Rtp.Rtcp
import Diago.Rtp.Session
import Diago.Rtp.PacketReader
import Diago.Lib.Region
import Diago.Rtp.PayloadStream
import Diago.Dialog.SessionTimer
import Diago.Dialog.FailedUpdate
import Diago.Dialog.Reason
import Diago.Dialog.Turns
import Diago.Bridge.Mix
import Diago.Bridge.Concurrency
import Diago.Bridge.Streams
import Diago.Rtp.Dtmf
import Diago.Rtp.DtmfReading
import Diago.Rtp.RealTime
import Diago.Rtp.PacketStream
import Diago.Rtp.Reports
import Diago.Rtp.Reading
import Diago.Rtp.Loss
import Diago.Rtp.RoundTrip
import Diago.Jitter.Accounting
import Diago.Jitter.Waiting
import Diago.Jitter.Retry
import Diago.Jitter.Pace
import Diago.Auth.Digest
import Diago.Lib.Chunks
import Diago.Lib.File
import Diago.Lib.Interleave
import Diago.Audio.Playback
import Diago.Rtp.Copy
import Diago.Audio.Wav
import Diago.Audio.Stereo
import Diago.Media.Frames
import Diago.Audio.Monitor
import Diago.Lib.Spans
import Diago.Audio.PlaybackURL
import Diago.Register.Transaction
import Diago.Register.Cadence
import Diago.Register.Refresh
import Diago.Lib.Schedule
import Diago.Rtp.Monitor
import Diago.Rtp.MonitorClose
import Diago.Jitter.Threads
import Diago.Jitter.Closing
import Diago.Dialog.Glare
import Diago.Dialog.SessionRefresh
import Diago.Media.IceMux
import Diago.Media.IceMuxClose
import Diago.Media.Verification
