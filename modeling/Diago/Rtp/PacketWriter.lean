import Diago.Rtp.Session

/-! # The RTP packet writer

The writer puts payloads into packets of one stream: each packet has the next
sequence number and the timestamp that the payloads before it add up to.
-/
namespace Diago.Rtp
open Lib Media

structure RTPPacketWriter where
  ssrc : UInt32
  codec : Codec
  sampleRateTimestamp : UInt32
  seqWriter : RTPExtendedSequenceNumber
  nextTimestamp : UInt32 := 0
  initTimestamp : UInt32 := 0

namespace RTPPacketWriter

/-- The packet handed to the RTP writer, whose error is returned and changes nothing here. -/
def writeSamples (p : RTPPacketWriter) (payload : Bytes) (sampleRateTimestamp : UInt32)
    (marker : Bool) (payloadType : UInt8) : RTPPacket × RTPPacketWriter :=
  ({ marker := marker
     payloadType := payloadType
     timestamp := p.nextTimestamp
     sequenceNumber := p.seqWriter.nextSeqNumber.1
     ssrc := p.ssrc
     payload := payload },
    { p with
      seqWriter := p.seqWriter.nextSeqNumber.2
      nextTimestamp := p.nextTimestamp + sampleRateTimestamp })

def write (p : RTPPacketWriter) (b : Bytes) : RTPPacket × RTPPacketWriter :=
  p.writeSamples b p.sampleRateTimestamp (p.nextTimestamp = p.initTimestamp) p.codec.payloadType

end RTPPacketWriter

end Diago.Rtp
