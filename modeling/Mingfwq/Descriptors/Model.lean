import Mingfwq.FdManager.Model
import Mingfwq.IOManager.FdContext

/-!
# Hooked calls that make, change and close descriptors (hook.cpp)

The calls of one fiber after the other, on the table of descriptors and the event table of the current IOManager. The
kernel hands out any number that is not open.
-/

namespace Mingfwq

open Lib

/-- How the process dies. -/
inductive Hook.Fault where
  | fdManager (e : FdFault)
  | event (e : EventFault)
  deriving DecidableEq, Repr

/-- The two tables, and the descriptors that are open in the kernel with what `fstat` says of each: whether it is a
socket. -/
structure Hook.Process where
  manager : FdManager
  contexts : Nat → FdContext
  opened : Nat → Option Bool

namespace Hook.Process

/-- The command of fcntl; `arg` is its bit O_NONBLOCK. -/
inductive Fcntl where
  | F_SETFL (arg : Bool)
  | F_DUPFD (result : Option Nat)
  | other
  deriving DecidableEq, Repr

/-- A call, with what the kernel answers: a new descriptor or -1, and whether epoll_ctl returns 0. A close says
whether its thread has an IOManager. `open` is a descriptor made without a hooked call. -/
inductive Action where
  | socket (result : Option Nat)
  | accept (s : Nat) (result : Option Nat)
  | open (fd : Nat) (isSocket : Bool)
  | setsockopt (fd : Nat) (optname : Option TimeoutType) (v : UInt64)
  | fcntl (fd : Nat) (cmd : Fcntl)
  | addEvent (fd : Nat) (event : Event) (cb : Option Nat) (who : Caller) (waiter : Nat) (rt : Bool)
  | dispatch (fd : Nat) (event : EpollEvents) (rt2 : Bool)
  | close (fd : Nat) (iom : Bool) (rt : Bool)
  deriving DecidableEq, Repr

def init : Process where
  manager := .new
  contexts := fun fd => { fd := fd }
  opened := fun _ => none

/-- The context `FdMgr::GetInstance()->get(fd)` points to. -/
def getCtx (p : Process) (fd : Nat) : Option FdCtx :=
  (p.manager.slot fd).bind fun ctx => p.manager.ctxs[ctx]?

/-- A method of that context. -/
def modifyCtx (p : Process) (fd : Nat) (f : FdCtx → FdCtx) : Process :=
  match p.manager.slot fd with
  | none => p
  | some ctx => { p with manager := { p.manager with ctxs := p.manager.ctxs.modify ctx f } }

/-- The kernel opens a descriptor that is not open. -/
def opens (p : Process) (isSocket : Bool) (fd : Nat) : Option Process :=
  if (p.opened fd).isSome then none
  else some { p with opened := Function.update p.opened fd (some isSocket) }

/-- `FdMgr::GetInstance()->get(fd, true)` after the kernel has opened `fd`. -/
def getCreate (p : Process) (fd : Nat) : Outcome Fault Process :=
  match p.manager.get fd true (p.opened fd) with
  | .error e => .abort (.fdManager e)
  | .ok (_, manager) => .next { p with manager }

/-- socket and accept, after the system call. -/
def returns (auto_create : Bool) (p : Process) : Option Nat → Outcome Fault Process
  | none => .next p
  | some fd =>
      match p.opens true fd with
      | none => .blocked
      | some p => if auto_create then p.getCreate fd else .next p

def setsockopt (t_hook_enable : Bool) (p : Process) (fd : Nat) (optname : Option TimeoutType) (v : UInt64) : Process :=
  if t_hook_enable then
    match optname with
    | some type => p.modifyCtx fd fun ctx => ctx.setTimeout type v
    | none => p
  else p

def fcntl (p : Process) (fd : Nat) : Fcntl → Outcome Fault Process
  | .F_SETFL arg =>
      match p.getCtx fd with
      | none => .next p
      | some ctx =>
          if ctx.m_isClosed || !ctx.m_isSocket then .next p
          else .next (p.modifyCtx fd fun ctx => ctx.setUserNonblock arg)
  | .F_DUPFD none => .next p
  | .F_DUPFD (some result) =>
      match p.opens ((p.opened fd).getD false) result with
      | none => .blocked
      | some p => .next p
  | .other => .next p

/-- Write a section back. -/
def commit (p : Process) (fd : Nat) : Except EventFault (Option Section) → Outcome Fault Process
  | .error e => .abort (.event e)
  | .ok none => .next p
  | .ok (some r) => .next { p with contexts := Function.update p.contexts fd r.ctx }

/-- The kernel closes the descriptor. -/
def close_f (p : Process) (fd : Nat) : Process := { p with opened := Function.update p.opened fd none }

def close (t_hook_enable : Bool) (p : Process) (fd : Nat) (iom rt : Bool) : Outcome Fault Process :=
  if t_hook_enable then .next (p.close_f fd)
  else
    match p.manager.lookup fd false with
    | .error e => .abort (.fdManager e)
    | .ok (.found none) =>
        match if iom then p.commit fd ((p.contexts fd).cancelAll rt) else .next p with
        | .next p =>
            match p.manager.del fd with
            | .error e => .abort (.fdManager e)
            | .ok manager => .next ({ p with manager }.close_f fd)
        | o => o
    | .ok _ => .next (p.close_f fd)

def step (t_hook_enable : Bool) (p : Process) : Action → Outcome Fault Process
  | .socket result => p.returns t_hook_enable result
  -- accept does not test t_hook_enable itself
  | .accept _ result => p.returns true result
  | .open fd isSocket =>
      match p.opens isSocket fd with
      | none => .blocked
      | some p => .next p
  | .setsockopt fd optname v => .next (p.setsockopt t_hook_enable fd optname v)
  | .fcntl fd cmd => p.fcntl fd cmd
  | .addEvent fd event cb who waiter rt =>
      -- epoll_ctl fails on a descriptor that is not open
      if rt && (p.opened fd).isNone then .blocked
      else p.commit fd ((p.contexts fd).addEvent event cb who waiter rt)
  | .dispatch fd event rt2 => p.commit fd (((p.contexts fd).dispatch event rt2).map some)
  | .close fd iom rt => p.close t_hook_enable fd iom rt

def system (t_hook_enable : Bool) : System Process Action Fault where
  init := init
  step := step t_hook_enable

end Hook.Process

end Mingfwq
