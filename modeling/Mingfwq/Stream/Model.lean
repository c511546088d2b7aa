import Mathlib.Algebra.Group.Int.Defs
import Mathlib.Algebra.Group.Nat.Defs
import Mingfwq.Lib.Blocks

/-!
# Reading from a stream (stream.cpp, socket_stream.cpp)

The other end of a connection is the list of what arrives from it. A read takes what has arrived, as far as
its length allows, and leaves the rest for the next one.
-/

namespace Mingfwq

open Lib

abbrev Bytes := List UInt8

/-- The conversions to `int` and to `int64_t`. -/
def toInt32 (x : Int) : Int := x.bmod (2 ^ 32)

def toInt64 (x : Int) : Int := x.bmod (2 ^ 64)

/-- Some bytes arrive, or `recv` returns -1. -/
inductive Packet where
  | data (bytes : Bytes)
  | failure
  deriving DecidableEq, Repr

/-- What is still to arrive; after it the other end has closed the connection. -/
abbrev Peer := List Packet

/-- How a call ends that returns no message: it closes the connection and returns null, `std::string` throws
`length_error`, it leaves the bounds of its memory, an assertion fails, or it does not end. -/
inductive Stop where
  | closed
  | lengthError
  | outOfBounds
  | assertion
  | unfinished
  deriving DecidableEq, Repr

def Packet.bytes : Packet → Bytes
  | .data bytes => bytes
  | .failure => []

/-- A packet whose read succeeds. -/
def Packet.Successful : Packet → Prop
  | .data bytes => bytes ≠ []
  | .failure => False

namespace Peer

/-- All bytes that are still to arrive. -/
def bytes (peer : Peer) : Bytes := peer.flatMap Packet.bytes

/-- Every read succeeds until all has arrived. -/
def Successful (peer : Peer) : Prop := ∀ p ∈ peer, p.Successful

/-- As many reads as the peer can answer. -/
def size : Peer → Nat
  | [] => 0
  | p :: peer => p.bytes.length + 1 + size peer

/-- `read(buffer, length)`: the bytes it puts in the buffer (returning their number), or none for -1. -/
def read : Peer → Nat → Option Bytes × Peer
  | [], _ => (some [], [])
  | .failure :: peer, _ => (none, peer)
  | .data bytes :: peer, length =>
      if bytes.length ≤ length then (some bytes, peer)
      else (some (bytes.take length), .data (bytes.drop length) :: peer)

/-- A read whose result `<= 0` closes the connection. -/
def receive (peer : Peer) (length : Nat) : Except Stop (Bytes × Peer) :=
  match peer.read length with
  | (some (b :: bytes), peer) => .ok (b :: bytes, peer)
  | _ => .error .closed

end Peer

/-- `memmove(data, data + from, length)`. -/
def memmove (data : Bytes) (source length : Nat) : Except Stop Bytes :=
  if source + length ≤ data.length then .ok (overwrite data 0 ((data.drop source).take length))
  else .error .outOfBounds

/-- The loop of readFixSize: `left` bytes are missing, the next goes to `buffer[pos]`. The result of read is put
in a `size_t`, so -1 moves the position one back. -/
def readFixSizeLoop : Nat → Peer → Bytes → Int → Nat → Except Stop (Option Bytes × Peer)
  | 0, _, _, _, _ => .error .unfinished
  | fuel + 1, peer, buffer, pos, left =>
      if left = 0 then .ok (some buffer, peer)
      else
        match peer.read left with
        | (none, peer) => readFixSizeLoop fuel peer buffer (pos - 1) (left + 1)
        | (some [], peer) => .ok (none, peer)
        | (some bytes, peer) =>
            if pos < 0 ∨ buffer.length < pos + bytes.length then .error .outOfBounds
            else
              readFixSizeLoop fuel peer (overwrite buffer pos.toNat bytes) (pos + bytes.length) (left - bytes.length)

/-- `readFixSize(&buffer[pos], length)`, where a result `<= 0` closes the connection. -/
def readFixSize (peer : Peer) (buffer : Bytes) (pos length : Nat) : Except Stop (Bytes × Peer) := do
  let (read, peer) ← readFixSizeLoop (peer.size + 1) peer buffer pos length
  match read with
  | none => .error .closed
  | some buffer => if toInt32 length ≤ 0 then .error .closed else .ok (buffer, peer)

end Mingfwq
