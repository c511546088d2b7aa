import Mathlib.Data.List.Basic
import Mingfwq.Lib.System

/-!
# A socket object (socket.h, socket.cpp)

The results of the system calls are parameters: -1 is a descriptor there is none for, and a result other than 0 is a
call that fails.
-/

namespace Mingfwq

open Lib

structure Socket where
  m_sock : Int
  m_family : Int
  m_isConnected : Bool
  deriving DecidableEq, Repr

namespace Socket

def new (family : Int) : Socket where
  m_sock := -1
  m_family := family
  m_isConnected := false

def isConnected (sock : Socket) : Bool := sock.m_isConnected

def isValid (sock : Socket) : Bool := sock.m_sock ≠ -1

/-- `fd` is the result of `socket(m_family, m_type, m_protocol)`. -/
def newSock (sock : Socket) (fd : Int) : Socket := { sock with m_sock := fd }

/-- The conversion of an `int` to `bool`. -/
def toBool (x : Int) : Bool := x ≠ 0

def close (sock : Socket) : Bool × Socket :=
  if !sock.m_isConnected && sock.m_sock = -1 then (true, sock)
  else (false, { sock with m_isConnected := toBool (-1), m_sock := -1 })

/-- `ctx` is what is known of the context of `newsock`: it is there, it is a socket's and it is not closed. There is
none for -1. -/
def init (sock : Socket) (newsock : Int) (ctx : Bool) : Bool × Socket :=
  if newsock ≠ -1 && ctx then (true, { sock with m_sock := newsock, m_isConnected := true })
  else (false, sock)

/-- The start of bind and of connect. -/
def ensureValid (sock : Socket) (fd : Int) : Socket := if !sock.isValid then sock.newSock fd else sock

/-- `taken`: another socket accepts connections at a unix address. -/
def bind (sock : Socket) (family fd : Int) (taken : Bool) (rt : Int) : Bool × Socket :=
  let sock := sock.ensureValid fd
  if !sock.isValid then (false, sock)
  else if family ≠ sock.m_family then (false, sock)
  else if taken then (false, sock)
  else if rt ≠ 0 then (false, sock)
  else (true, sock)

/-- `rt` is the result of `::connect`, or of `::connect_with_timeout` where there is a timeout. -/
def connect (sock : Socket) (family fd rt : Int) : Bool × Socket :=
  let sock := sock.ensureValid fd
  if !sock.isValid then (false, sock)
  else if family ≠ sock.m_family then (false, sock)
  else if rt ≠ 0 then (false, sock.close.2)
  else (true, { sock with m_isConnected := true })

def listen (sock : Socket) (rt : Int) : Bool × Socket :=
  if !sock.isValid then (false, sock)
  else if rt ≠ 0 then (false, sock.close.2)
  else (true, sock)

/-- send, sendTo, recv and recvFrom, with the result of the system call. -/
def transfer (sock : Socket) (rt : Int) : Int := if sock.isConnected then rt else -1

/-! ## Any operations in a row -/

inductive Op where
  | init (newsock : Int) (ctx : Bool)
  | bind (family fd : Int) (taken : Bool) (rt : Int)
  | connect (family fd rt : Int)
  | listen (rt : Int)
  | close
  | transfer (rt : Int)
  deriving DecidableEq, Repr

/-- The result of an operation, where it is a `bool`, and the socket after it. -/
def run (sock : Socket) : Op → Option Bool × Socket
  | .init newsock ctx => (sock.init newsock ctx).map some id
  | .bind family fd taken rt => (sock.bind family fd taken rt).map some id
  | .connect family fd rt => (sock.connect family fd rt).map some id
  | .listen rt => (sock.listen rt).map some id
  | .close => sock.close.map some id
  | .transfer _ => (none, sock)

/-- The socket, and whether it has not been connected or taken over since `close()` was called. -/
structure State where
  sock : Socket
  closed : Bool
  deriving DecidableEq, Repr

def State.closedAfter (closed : Bool) (op : Op) (result : Option Bool) : Bool :=
  match op, result with
  | .close, _ => true
  | .connect _ _ _, some true => false
  | .init _ _, some true => false
  | _, _ => closed

def step (s : State) (op : Op) : Outcome Empty State :=
  let (result, sock) := s.sock.run op
  .next { sock, closed := State.closedAfter s.closed op result }

def system (family : Int) : System State Op Empty where
  init := ⟨.new family, false⟩
  step := step

end Socket

end Mingfwq
