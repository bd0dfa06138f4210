import SensorLink.Error.Basic
import SensorLink.Packet.Basic

/-!
# New firmware for the router

The router is told the length of its new image first. Once it is ready, the image follows as raw
chunks, each behind its own length. The router acknowledges none of them, so the sender pauses after
each.
-/

namespace SensorLink

/-- An image for the router. -/
structure RouterImage where
  bytes : Bytes
  deriving Repr

namespace RouterImage

/-- How many bytes of the image a chunk holds at most. -/
def chunkSize : Nat := 1024

/-- How long the sender waits after a chunk. -/
def chunkPause : Duration := .milliseconds 10

/-- Takes an image whose length can be announced. -/
def ofBytes (bytes : Bytes) : Except Error RouterImage :=
  if bytes.isEmpty then .error (.invalidParameter .routerImageEmpty)
  else if 2 ^ 32 ≤ bytes.length then .error (.invalidParameter (.routerImageTooLong bytes.length))
  else .ok ⟨bytes⟩

/-- The length that is announced. -/
def totalLength (image : RouterImage) : UInt32 := UInt32.ofNat image.bytes.length

/-- How many chunks the image has. -/
def chunkCount (image : RouterImage) : Nat := (image.bytes.length + (chunkSize - 1)) / chunkSize

/-- The request that announces the image. -/
def request (image : RouterImage) (unixTime : UInt32) : DfuRequest :=
  { unixTime, totalLength := image.totalLength }

/-- A chunk as it is sent: its length and its bytes. -/
def chunk (part : Bytes) : Bytes := Wire.u16 (UInt16.ofNat part.length) ++ part

/-- At most `count` chunks of some bytes. -/
def chunksUpTo : Nat → Bytes → List Bytes
  | 0, _ => []
  | count + 1, bytes =>
    if bytes.isEmpty then []
    else chunk (bytes.take chunkSize) :: chunksUpTo count (bytes.drop chunkSize)

/-- The chunks of the image in the order in which they are sent. -/
def chunks (image : RouterImage) : List Bytes := chunksUpTo image.chunkCount image.bytes

end RouterImage
end SensorLink
