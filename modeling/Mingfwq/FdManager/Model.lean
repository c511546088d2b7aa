import Mathlib.Logic.Function.Basic
import Mingfwq.Lib.System

/-!
# The table of descriptors (fd_manager.h, fd_manager.cpp)

A `FdCtx::ptr` names a context by the order of its creation. `get` has two critical sections: the lookup under the
read lock and, where it creates, the insertion under the write lock.
-/

namespace Mingfwq

open Lib

structure FdCtx where
  m_isInit : Bool
  m_isSocket : Bool
  m_sysNonblock : Bool
  m_userNonblock : Bool
  m_isClosed : Bool
  m_fd : Int
  m_recvTimeout : UInt64
  m_sendTimeout : UInt64
  deriving DecidableEq, Repr

/-- `SO_RCVTIMEO` and `SO_SNDTIMEO`. -/
inductive TimeoutType where
  | SO_RCVTIMEO
  | SO_SNDTIMEO
  deriving DecidableEq, Repr

namespace FdCtx

/-- The constructor; `fd_stat` says whether `fstat` succeeds, and then whether it is a socket. -/
def new (fd : Int) (fd_stat : Option Bool) : FdCtx where
  m_isInit := fd_stat.isSome
  m_isSocket := fd_stat.getD false
  m_sysNonblock := fd_stat.getD false
  m_userNonblock := false
  m_isClosed := false
  m_fd := fd
  m_recvTimeout := -1
  m_sendTimeout := -1

def setUserNonblock (ctx : FdCtx) (v : Bool) : FdCtx := { ctx with m_userNonblock := v }

def getUserNonblock (ctx : FdCtx) : Bool := ctx.m_userNonblock

/-- It returns the other flag. -/
def getSysNonblock (ctx : FdCtx) : Bool := ctx.m_userNonblock

def setTimeout (ctx : FdCtx) (type : TimeoutType) (v : UInt64) : FdCtx :=
  match type with
  | .SO_RCVTIMEO => { ctx with m_recvTimeout := v }
  | .SO_SNDTIMEO => { ctx with m_sendTimeout := v }

def getTimeout (ctx : FdCtx) (type : TimeoutType) : UInt64 :=
  match type with
  | .SO_RCVTIMEO => ctx.m_recvTimeout
  | .SO_SNDTIMEO => ctx.m_sendTimeout

end FdCtx

/-- The contexts created so far, and the table. -/
structure FdManager where
  ctxs : List FdCtx
  m_datas : List (Option Nat)
  deriving DecidableEq, Repr

/-- `m_datas[fd]` with a negative `fd`. -/
inductive FdFault where
  | outOfRange
  deriving DecidableEq, Repr

namespace FdManager

/-- `resize(n)` of a vector of pointers. -/
def resize (datas : List (Option Nat)) (n : Nat) : List (Option Nat) :=
  datas.take n ++ List.replicate (n - datas.length) none

def new : FdManager where
  ctxs := []
  m_datas := resize [] 64

/-- `m_datas[fd]`, null past the end. -/
def slot (m : FdManager) (fd : Int) : Option Nat :=
  if fd < 0 then none else m.m_datas[fd.toNat]?.join

/-- How the read section of `get` ends: it returns, or it goes on to the write section. -/
inductive Lookup where
  | found (ctx : Option Nat)
  | missing
  deriving DecidableEq, Repr

/-- The section of `get` under the read lock. -/
def lookup (m : FdManager) (fd : Int) (auto_create : Bool) : Except FdFault Lookup :=
  if fd = -1 then .ok (.found none)
  else if (m.m_datas.length : Int) ≤ fd then
    if auto_create then .ok .missing else .ok (.found none)
  else if fd < 0 then .error .outOfRange
  else if (m.slot fd).isSome || !auto_create then .ok (.found (m.slot fd))
  else .ok .missing

/-- The section of `get` under the write lock. -/
def create (m : FdManager) (fd : Int) (fd_stat : Option Bool) : FdManager :=
  let ctx := m.ctxs.length
  let m_datas := if fd ≥ m.m_datas.length then resize m.m_datas (fd.toNat * 3 / 2) else m.m_datas
  { ctxs := m.ctxs ++ [.new fd fd_stat]
    m_datas := m_datas.set fd.toNat (some ctx) }

def get (m : FdManager) (fd : Int) (auto_create : Bool) (fd_stat : Option Bool) :
    Except FdFault (Option Nat × FdManager) := do
  match ← m.lookup fd auto_create with
  | .found ctx => .ok (ctx, m)
  | .missing => .ok ((m.create fd fd_stat).slot fd, m.create fd fd_stat)

def del (m : FdManager) (fd : Int) : Except FdFault FdManager :=
  if (m.m_datas.length : Int) ≤ fd then .ok m
  else if fd < 0 then .error .outOfRange
  else .ok { m with m_datas := m.m_datas.set fd.toNat none }

/-! ## Any number of threads -/

/-- Where a thread is in `get`: about to take the write lock. -/
inductive Pc where
  | out
  | create (fd : Int)
  deriving DecidableEq, Repr

/-- A result that is not null, and how often `del(fd)` had been called before. -/
structure Result where
  fd : Int
  generation : Nat
  ctx : Nat
  deriving DecidableEq, Repr

/-- The manager and its threads. `generation` and `results` are not in the source: they count the calls of `del` and
record what the calls of `get` have returned. -/
structure State where
  manager : FdManager
  pc : Nat → Pc
  generation : Int → Nat
  results : List Result

inductive Action where
  | get (t : Nat) (fd : Int) (auto_create : Bool)
  | create (t : Nat) (fd_stat : Option Bool)
  | del (t : Nat) (fd : Int)
  deriving DecidableEq, Repr

def State.init : State where
  manager := .new
  pc := fun _ => .out
  generation := fun _ => 0
  results := []

/-- `get(fd)` returns `ctx` to its caller. -/
def State.returned (s : State) (fd : Int) : Option Nat → State
  | none => s
  | some ctx => { s with results := ⟨fd, s.generation fd, ctx⟩ :: s.results }

def step (s : State) : Action → Outcome FdFault State
  | .get t fd auto_create =>
      match s.pc t with
      | .out =>
          match s.manager.lookup fd auto_create with
          | .error e => .abort e
          | .ok (.found ctx) => .next (s.returned fd ctx)
          | .ok .missing => .next { s with pc := Function.update s.pc t (.create fd) }
      | _ => .blocked
  | .create t fd_stat =>
      match s.pc t with
      | .create fd =>
          let manager := s.manager.create fd fd_stat
          .next { (s.returned fd (manager.slot fd)) with manager, pc := Function.update s.pc t .out }
      | _ => .blocked
  | .del t fd =>
      match s.pc t with
      | .out =>
          match s.manager.del fd with
          | .error e => .abort e
          | .ok manager =>
              .next { s with manager, generation := Function.update s.generation fd (s.generation fd + 1) }
      | _ => .blocked

def system : System State Action FdFault where
  init := .init
  step := step

end FdManager

end Mingfwq
