import Mathlib.Data.List.AList
import Mingfwq.Socket.Model

/-!
# The connections of a client (http_connection.h, http_connection.cpp)

A `HttpConnection*` is the address of a connection; the live connections stand in the heap. A client calls
getConnection, uses what it has got and drops the pointer, whose deleter is ReleasePtr.
-/

namespace Mingfwq.Http

open Lib

/-- `HttpConnection`, a `SocketStream`; m_createTime keeps its initialiser. -/
structure PooledConnection where
  m_socket : Socket
  m_createTime : UInt64
  m_request : UInt64
  deriving DecidableEq, Repr

def PooledConnection.new (sock : Socket) : PooledConnection where
  m_socket := sock
  m_createTime := 0
  m_request := 0

def PooledConnection.isConnected (conn : PooledConnection) : Bool := conn.m_socket.isConnected

/-- The conversion of an `int32_t` to `uint64_t`. -/
def toUInt64 (x : Int32) : UInt64 := .ofInt x.toInt

structure HttpConnectionPool where
  m_maxSize : Int32
  m_maxAliveTime : Int32
  m_maxRequest : Int32
  m_conns : List Nat
  m_total : Int32
  deriving DecidableEq, Repr

namespace HttpConnectionPool

def new (max_size max_alive_time max_request : UInt32) : HttpConnectionPool where
  m_maxSize := max_size.toInt32
  m_maxAliveTime := max_alive_time.toInt32
  m_maxRequest := max_request.toInt32
  m_conns := []
  m_total := 0

/-- getConnection goes on to the next round of its loop, with the connection among those to delete. -/
def rejects (pool : HttpConnectionPool) (conn : PooledConnection) (now_ms : UInt64) : Bool :=
  !conn.isConnected || conn.m_createTime + toUInt64 pool.m_maxAliveTime > now_ms

/-- ReleasePtr deletes the connection, once its request is counted. -/
def drops (pool : HttpConnectionPool) (conn : PooledConnection) (now_ms : UInt64) : Bool :=
  !conn.isConnected || conn.m_createTime + toUInt64 pool.m_maxAliveTime ≥ now_ms ||
    conn.m_request > toUInt64 pool.m_maxRequest

/-! ## Any number of clients -/

/-- Where a client is: without a connection, in the loop of getConnection (which it runs under the lock), behind the
loop, about to create a connection, about to count it; with a connection; in ReleasePtr behind `delete`, or about to
put the connection in the list. -/
inductive Pc where
  | out
  | select (now_ms : UInt64) (invalid_conns : List Nat)
  | selected (ptr : Option Nat) (invalid_conns : List Nat)
  | create
  | created (ptr : Nat)
  | borrowed (ptr : Nat)
  | deleted
  | release (ptr : Nat)
  deriving DecidableEq, Repr

/-- The connection a client has, in a call or between calls. -/
def Pc.holds (ptr : Nat) : Pc → Bool
  | .selected (some p) _ => p = ptr
  | .created p => p = ptr
  | .borrowed p => p = ptr
  | .release p => p = ptr
  | _ => false

/-- Neither getConnection nor ReleasePtr is in progress. -/
def Pc.isQuiet : Pc → Bool
  | .out => true
  | .borrowed _ => true
  | _ => false

/-- `born` is not in the source: the time at which a connection was created. -/
structure State where
  pool : HttpConnectionPool
  heap : AList fun _ : Nat => PooledConnection
  m_mutex : Option Nat
  clients : List Pc
  born : Nat → UInt64

inductive Fault where
  | danglingPointer
  deriving DecidableEq, Repr

/-- What the client `t` does: it calls getConnection, which reads the time; it takes the lock, runs one round of the
loop, deletes the invalid connections, establishes a connection (or fails to) and counts it. It uses its connection,
or drops it at some time: ReleasePtr deletes it and counts it out, or puts it in the list. -/
inductive Action where
  | getConnection (t : Nat) (now_ms : UInt64)
  | loop (t : Nat)
  | deleteInvalid (t : Nat)
  | establish (t : Nat) (sock : Option Socket) (address : Nat) (now_ms : UInt64)
  | countIn (t : Nat)
  | use (t : Nat) (op : Socket.Op)
  | releasePtr (t : Nat) (now_ms : UInt64)
  | countOut (t : Nat)
  | pushBack (t : Nat)
  deriving DecidableEq, Repr

namespace State

def init (pool : HttpConnectionPool) (n : Nat) : State where
  pool := pool
  heap := ∅
  m_mutex := none
  clients := List.replicate n .out
  born := fun _ => 0

def setPc (s : State) (t : Nat) (pc : Pc) : State := { s with clients := s.clients.set t pc }

/-- `delete` of connections, one after the other; none where one of them is not there. -/
def deleteAll (heap : AList fun _ : Nat => PooledConnection) :
    List Nat → Option (AList fun _ : Nat => PooledConnection)
  | [] => some heap
  | ptr :: ptrs => if ptr ∈ heap then deleteAll (heap.erase ptr) ptrs else none

end State

def step (s : State) : Action → Outcome Fault State
  | .getConnection t now_ms =>
      match s.clients[t]? with
      | some .out =>
          if s.m_mutex = none then .next { s.setPc t (.select now_ms []) with m_mutex := some t } else .blocked
      | _ => .blocked
  | .loop t =>
      match s.clients[t]? with
      | some (.select now_ms invalid_conns) =>
          match s.pool.m_conns with
          | [] => .next { s.setPc t (.selected none invalid_conns) with m_mutex := none }
          | ptr :: conns =>
              match s.heap.lookup ptr with
              | none => .abort .danglingPointer
              | some conn =>
                  if s.pool.rejects conn now_ms then .next (s.setPc t (.select now_ms (invalid_conns ++ [ptr])))
                  else .next { s.setPc t (.selected (some ptr) invalid_conns) with
                    pool := { s.pool with m_conns := conns }
                    m_mutex := none }
      | _ => .blocked
  | .deleteInvalid t =>
      match s.clients[t]? with
      | some (.selected ptr invalid_conns) =>
          match State.deleteAll s.heap invalid_conns with
          | none => .abort .danglingPointer
          | some heap =>
              let pool := { s.pool with m_total := s.pool.m_total - Int32.ofInt invalid_conns.length }
              .next { s.setPc t (match ptr with | none => .create | some ptr => .borrowed ptr) with pool, heap }
      | _ => .blocked
  | .establish t sock address now_ms =>
      match s.clients[t]? with
      | some .create =>
          match sock with
          | none => .next (s.setPc t .out)
          | some sock =>
              if address ∈ s.heap then .blocked
              else .next { s.setPc t (.created address) with
                heap := s.heap.insert address (.new sock)
                born := Function.update s.born address now_ms }
      | _ => .blocked
  | .countIn t =>
      match s.clients[t]? with
      | some (.created ptr) =>
          .next { s.setPc t (.borrowed ptr) with pool := { s.pool with m_total := s.pool.m_total + 1 } }
      | _ => .blocked
  | .use t op =>
      match s.clients[t]? with
      | some (.borrowed ptr) =>
          match s.heap.lookup ptr with
          | none => .abort .danglingPointer
          | some conn => .next { s with heap := s.heap.insert ptr { conn with m_socket := (conn.m_socket.run op).2 } }
      | _ => .blocked
  | .releasePtr t now_ms =>
      match s.clients[t]? with
      | some (.borrowed ptr) =>
          match s.heap.lookup ptr with
          | none => .abort .danglingPointer
          | some conn =>
              let conn := { conn with m_request := conn.m_request + 1 }
              if s.pool.drops conn now_ms then .next { s.setPc t .deleted with heap := s.heap.erase ptr }
              else .next { s.setPc t (.release ptr) with heap := s.heap.insert ptr conn }
      | _ => .blocked
  | .countOut t =>
      match s.clients[t]? with
      | some .deleted => .next { s.setPc t .out with pool := { s.pool with m_total := s.pool.m_total - 1 } }
      | _ => .blocked
  | .pushBack t =>
      match s.clients[t]? with
      | some (.release ptr) =>
          if s.m_mutex = none then
            .next { s.setPc t .out with pool := { s.pool with m_conns := s.pool.m_conns ++ [ptr] } }
          else .blocked
      | _ => .blocked

def system (pool : HttpConnectionPool) (n : Nat) : System State Action Fault where
  init := .init pool n
  step := step

end HttpConnectionPool

end Mingfwq.Http
