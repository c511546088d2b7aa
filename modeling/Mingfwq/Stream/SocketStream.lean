import Mingfwq.ByteArray.Buffers
import Mingfwq.ByteArray.Codec
import Mingfwq.Lib.Transfer
import Mingfwq.Stream.Model

/-!
# Byte arrays on a stream (stream.cpp, socket_stream.cpp)

`recvmsg` puts what has arrived into the free cells behind the cursor, and `sendmsg` takes the bytes ahead of it. The
socket is connected. One call moves at most 0x7ffff000 bytes, so that its result is an `int`, and takes as many buffers
as there are.
-/

namespace Mingfwq

open Lib

/-- `recvmsg`: the bytes go into the buffers one after the other. -/
def scatter (root : List ByteArray.Node) : List ByteArray.Iovec → Bytes → List ByteArray.Node
  | [], _ => root
  | iov :: iovs, bytes =>
      scatter (root.modify iov.node fun cur => overwrite cur iov.offset (bytes.take iov.iov_len)) iovs
        (bytes.drop iov.iov_len)

/-- The other end as a sender sees it: how many bytes the next calls of `sendmsg` take at most, none for one that
returns -1. After them all bytes are taken. -/
structure Sink where
  takes : List (Option Nat)
  sent : Bytes
  deriving DecidableEq, Repr

namespace Sink

/-- `sendmsg` of these bytes: what it returns. -/
def send (sink : Sink) (bytes : Bytes) : Option Nat × Sink :=
  match sink.takes with
  | [] => (some bytes.length, ⟨[], sink.sent ++ bytes⟩)
  | none :: takes => (none, ⟨takes, sink.sent⟩)
  | some n :: takes => (some (bytes.take n).length, ⟨takes, sink.sent ++ bytes.take n⟩)

/-- Every call takes some bytes. -/
def Successful (sink : Sink) : Prop := ∀ n ∈ sink.takes, ∃ m, n = some (m + 1)

end Sink

namespace SocketStream

/-- `read(ba, length)`. -/
def read (memory : ByteArray.Memory) : Peer × ByteArray → Nat → Except ByteArray.Fault (Option Nat × (Peer × ByteArray))
  | (peer, ba), length => do
      let (iovs, ba) ← ba.getWriteBuffers length (memory ba)
      match peer.read (iovs.map ByteArray.Iovec.iov_len).sum with
      | (none, peer) => .ok (none, (peer, ba))
      | (some bytes, peer) =>
          let rt := bytes.length
          let ba := { ba with m_root := scatter ba.m_root iovs bytes }
          let ba ← if rt > 0 then ba.setPosition (ba.m_position + rt) else .ok ba
          .ok (some rt, (peer, ba))

/-- `write(ba, length)`. -/
def write : Sink × ByteArray → Nat → Except ByteArray.Fault (Option Nat × (Sink × ByteArray))
  | (sink, ba), length => do
      let (iovs, _) ← ba.getReadBuffers (.ofNat length)
      match sink.send (iovs.flatMap (ByteArray.Iovec.bytes ba)) with
      | (none, sink) => .ok (none, (sink, ba))
      | (some rt, sink) =>
          let ba ← if rt > 0 then ba.setPosition (ba.m_position + rt) else .ok ba
          .ok (some rt, (sink, ba))

/-! ## The loops that SocketStream inherits -/

variable {σ : Type}

/-- What a loop over all bytes returns: their number as an `int`, or the zero it has met. -/
def result (length : Nat) : Bool × σ → Int × σ
  | (all, s) => (if all then toInt32 length else 0, s)

/-- `readFixSize(ba, length)`; each call uses up some of what is to arrive. -/
def readFixSize (memory : ByteArray.Memory) (peer : Peer) (ba : ByteArray) (length : Nat) :
    Except ByteArray.Fault (Option (Int × (Peer × ByteArray))) :=
  (transferLoop (read memory) (peer.size + 1) (peer, ba) length).map (·.map (result length))

/-- `writeFixSize(ba, length)`; each call uses up what the next one may take, or moves bytes. -/
def writeFixSize (sink : Sink) (ba : ByteArray) (length : Nat) :
    Except ByteArray.Fault (Option (Int × (Sink × ByteArray))) :=
  (transferLoop write (sink.takes.length + length + 1) (sink, ba) length).map (·.map (result length))

end SocketStream

end Mingfwq
