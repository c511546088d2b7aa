import Mingfwq.Lib.System
import Mingfwq.Lib.Blocks

/-!
# The byte array (bytearray.h, bytearray.cpp)

The chain of nodes from `m_root` is a list: a node is its memory block, `next` is the node after it, a node
pointer is an index and null is `none`. `new char[s]` does not initialise its memory, so the operations that
allocate take the bytes the allocator finds there.
-/

namespace Mingfwq

open Lib

/-- `ByteArray::Node`: the block `ptr`; its `size` is the number of its bytes. -/
abbrev ByteArray.Node := List UInt8

structure ByteArray where
  m_baseSize : Nat
  m_position : Nat
  m_capacity : Nat
  m_size : Nat
  m_root : List ByteArray.Node
  m_cur : Option Nat
  deriving DecidableEq, Repr

/-- Why an operation does not return: it follows a null node, or it throws. -/
inductive ByteArray.Fault where
  | nullNode
  | outOfRange (what : String)
  deriving DecidableEq, Repr

/-- A piece of a node, as an `iovec` names it. -/
structure ByteArray.Iovec where
  node : Nat
  offset : Nat
  iov_len : Nat
  deriving DecidableEq, Repr

namespace ByteArray

/-- `new Node(s)`, `count` times in a row. -/
def newNodes (s count : Nat) (memory : Nat → UInt8) : List Node :=
  (List.range count).map fun i => (List.range s).map fun j => memory (i * s + j)

def new (base_size : Nat) (memory : Nat → UInt8) : ByteArray where
  m_baseSize := base_size
  m_position := 0
  m_capacity := base_size
  m_size := 0
  m_root := newNodes base_size 1 memory
  m_cur := some 0

/-- The nodes from a node pointer on. -/
def chain (a : ByteArray) : Option Nat → List Node
  | none => []
  | some i => a.m_root.drop i

/-- `steps` times `cur = cur->next`. -/
def next (a : ByteArray) (cur : Option Nat) (steps : Nat) : Option Nat :=
  cur.bind fun i => if i + steps < a.m_root.length then some (i + steps) else none

def getReadSize (a : ByteArray) : Nat := a.m_size - a.m_position

def getCapacity (a : ByteArray) : Nat := a.m_capacity - a.m_position

def clear (a : ByteArray) : ByteArray :=
  { a with
    m_position := 0
    m_size := 0
    m_capacity := a.m_baseSize
    m_root := a.m_root.take 1
    m_cur := some 0 }

/-- The number of nodes addCapacity appends for `size` bytes that do not fit. -/
def missingNodes (a : ByteArray) (size : Nat) : Nat :=
  let missing := size - a.getCapacity
  missing / a.m_baseSize + if missing % a.m_baseSize > a.getCapacity then 1 else 0

def addCapacity (a : ByteArray) (size : Nat) (memory : Nat → UInt8) : ByteArray :=
  if size = 0 then a
  else if a.getCapacity > size then a
  else
    let count := a.missingNodes size
    let first := if count = 0 then none else some a.m_root.length
    { a with
      m_root := a.m_root ++ newNodes a.m_baseSize count memory
      m_capacity := a.m_capacity + count * a.m_baseSize
      m_cur := if a.getCapacity = 0 then first else a.m_cur }

/-- The loop of write, on the nodes from `m_cur` on: the nodes after it, and how often `m_cur` moved on. -/
def writeLoop : List Node → Nat → List UInt8 → Except Fault (List Node × Nat)
  | [], _, _ => .error .nullNode
  | cur :: ns, npos, buf =>
      let ncap := cur.length - npos
      if ncap ≥ buf.length then
        .ok (overwrite cur npos buf :: ns, if cur.length = npos + buf.length then 1 else 0)
      else do
        let (ns', steps) ← writeLoop ns 0 (buf.drop ncap)
        .ok (overwrite cur npos (buf.take ncap) :: ns', steps + 1)

def write (a : ByteArray) (buf : List UInt8) (memory : Nat → UInt8) : Except Fault ByteArray :=
  if buf = [] then .ok a
  else do
    let a := a.addCapacity buf.length memory
    let (ns, steps) ← writeLoop (a.chain a.m_cur) (a.m_position % a.m_baseSize) buf
    let m_position := a.m_position + buf.length
    .ok { a with
          m_root := a.m_root.take (a.m_root.length - ns.length) ++ ns
          m_cur := a.next a.m_cur steps
          m_position := m_position
          m_size := max a.m_size m_position }

/-- The loop of read, on the nodes from `m_cur` on: the bytes read, and how often `m_cur` moved on. -/
def readLoop : List Node → Nat → Nat → Except Fault (List UInt8 × Nat)
  | [], _, _ => .error .nullNode
  | cur :: ns, npos, size =>
      let ncap := cur.length - npos
      if size = 0 then .ok ([], 0)
      else if ncap ≥ size then
        .ok ((cur.drop npos).take size, if cur.length = npos + size then 1 else 0)
      else do
        let (bytes, steps) ← readLoop ns 0 (size - ncap)
        .ok (cur.drop npos ++ bytes, steps + 1)

def read (a : ByteArray) (size : Nat) : Except Fault (List UInt8 × ByteArray) :=
  if size > a.getReadSize then .error (.outOfRange "not enough len")
  else do
    let (bytes, steps) ← readLoop (a.chain a.m_cur) (a.m_position % a.m_baseSize) size
    .ok (bytes, { a with m_cur := a.next a.m_cur steps, m_position := a.m_position + size })

/-- The loop of setPosition, from `m_root` on: how often `m_cur` moved on. -/
def seekLoop : List Node → Nat → Except Fault Nat
  | [], _ => .error .nullNode
  | cur :: ns, v =>
      if v > cur.length then do
        let steps ← seekLoop ns (v - cur.length)
        .ok (steps + 1)
      else .ok (if v = cur.length then 1 else 0)

def setPosition (a : ByteArray) (v : Nat) : Except Fault ByteArray :=
  if v > a.m_capacity then .error (.outOfRange "set_position out of range")
  else do
    let steps ← seekLoop a.m_root v
    .ok { a with m_position := v, m_size := max a.m_size v, m_cur := a.next (some 0) steps }

/-- The loop of getWriteBuffers, on the nodes from node number `i` on. -/
def writeBuffersLoop : List Node → Nat → Nat → Nat → Except Fault (List Iovec)
  | [], _, _, _ => .error .nullNode
  | cur :: ns, i, npos, len =>
      let ncap := cur.length - npos
      if ncap ≥ len then .ok [⟨i, npos, len⟩]
      else do
        let iovs ← writeBuffersLoop ns (i + 1) 0 (len - ncap)
        .ok (⟨i, npos, ncap⟩ :: iovs)

def getWriteBuffers (a : ByteArray) (len : Nat) (memory : Nat → UInt8) :
    Except Fault (List Iovec × ByteArray) :=
  if len = 0 then .ok ([], a)
  else do
    let a := a.addCapacity len memory
    let iovs ← writeBuffersLoop (a.chain a.m_cur) (a.m_cur.getD 0) (a.m_position % a.m_baseSize) len
    .ok (iovs, a)

/-! ## Runs -/

/-- A call of the public interface, with the memory its allocations find. -/
inductive Call where
  | write (buf : List UInt8) (memory : Nat → UInt8)
  | read (size : Nat)
  | setPosition (v : Nat)
  | clear
  | getWriteBuffers (len : Nat) (memory : Nat → UInt8)

/-- An exception leaves the array as it was (each is thrown before anything is assigned); a null node ends
the run. -/
def outcome (a : ByteArray) : Except Fault ByteArray → Outcome Fault ByteArray
  | .ok a' => .next a'
  | .error .nullNode => .abort .nullNode
  | .error (.outOfRange _) => .next a

def step (a : ByteArray) : Call → Outcome Fault ByteArray
  | .write buf memory => a.outcome (a.write buf memory)
  | .read size => a.outcome ((a.read size).map Prod.snd)
  | .setPosition v => a.outcome (a.setPosition v)
  | .clear => .next a.clear
  | .getWriteBuffers len memory => a.outcome ((a.getWriteBuffers len memory).map Prod.snd)

def system (base_size : Nat) (memory : Nat → UInt8) : System ByteArray Call Fault where
  init := new base_size memory
  step := step

end ByteArray

end Mingfwq
