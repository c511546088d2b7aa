import Mathlib.Logic.Function.Basic
import Mingfwq.Lib.System
import Mingfwq.IOManager.FdContext

/-!
# The event table under any number of threads

Each operation is cut at its locks: the lookup in `m_FdContexts` under `m_mutex`, then the section under
`fd_ctx->mutex` on the context the lookup found. Contexts are allocated once and never freed while the
IOManager runs, so a context is named by the order of its allocation.
-/

namespace Mingfwq

open Lib

/-- Where a thread stands in an operation. -/
inductive IOManager.Pc where
  | out
  | addEventResize (fd : Nat) (event : Event) (cb : Option Nat)
  | addEvent (fd_ctx : Nat) (event : Event) (cb : Option Nat)
  | delEvent (fd_ctx : Nat) (event : Event)
  | cancelEvent (fd_ctx : Nat) (event : Event)
  | cancelAll (fd_ctx : Nat)
  | idle (events : List (Nat × EpollEvents))
  deriving DecidableEq, Repr

/-- The state shared by the threads. `issued`, `scheduled` and `dropped` are not in the source: they number
the successful addEvent calls and record where each registration went. -/
structure IOManager where
  contexts : List FdContext
  m_FdContexts : List Nat
  m_pendingEventCount : Int
  pc : Nat → IOManager.Pc
  issued : Nat
  scheduled : List Nat
  dropped : List Nat

/-- One atomic step of thread `t`. -/
inductive IOManager.Action where
  | addEvent (t fd : Nat) (event : Event) (cb : Option Nat)
  | contextResize (t : Nat)
  | addEventLocked (t : Nat) (who : Caller) (rt : Bool)
  | delEvent (t fd : Nat) (event : Event)
  | delEventLocked (t : Nat) (rt : Bool)
  | cancelEvent (t fd : Nat) (event : Event)
  | cancelEventLocked (t : Nat) (rt : Bool)
  | cancelAll (t fd : Nat)
  | cancelAllLocked (t : Nat) (rt : Bool)
  | epoll_wait (t : Nat) (events : List (Nat × EpollEvents))
  | dispatch (t : Nat) (rt2 : Bool)
  deriving DecidableEq, Repr

namespace IOManager

def setPc (m : IOManager) (t : Nat) (pc : Pc) : IOManager := { m with pc := Function.update m.pc t pc }

/-- `m_FdContexts.resize(size)`, then a new context in every empty slot. -/
def contextResize (m : IOManager) (size : Nat) : IOManager :=
  let kept := m.m_FdContexts.take size
  let fresh := List.range' kept.length (size - kept.length)
  { m with
    contexts := m.contexts ++ fresh.map fun i => { fd := i }
    m_FdContexts := kept ++ List.range' m.contexts.length (size - kept.length) }

/-- The constructor: `contextResize(32)`. -/
def init : IOManager :=
  contextResize
    { contexts := [], m_FdContexts := [], m_pendingEventCount := 0, pc := fun _ => .out
      issued := 0, scheduled := [], dropped := [] } 32

/-- Write back what a section did to the context `fd_ctx`. -/
def commit (m : IOManager) (fd_ctx : Nat) (r : Section) : IOManager :=
  { m with
    contexts := m.contexts.set fd_ctx r.ctx
    m_pendingEventCount := m.m_pendingEventCount + r.pending
    scheduled := m.scheduled ++ r.scheduled
    dropped := m.dropped ++ r.dropped }

/-- Leave a section that may fail, with the thread going on at `pc`. -/
def leave (m : IOManager) (t : Nat) (pc : Pc) (fd_ctx : Nat) :
    Except EventFault (Option Section) → Outcome EventFault IOManager
  | .error e => .abort e
  | .ok none => .next (m.setPc t pc)
  | .ok (some r) => .next ((m.commit fd_ctx r).setPc t pc)

/-- The lookup of delEvent, cancelEvent and cancelAll: nothing to do above the size of the table. -/
def lookup (m : IOManager) (t fd : Nat) (pc : Nat → Pc) : Outcome EventFault IOManager :=
  match m.m_FdContexts[fd]? with
  | none => .next m
  | some fd_ctx => .next (m.setPc t (pc fd_ctx))

def step (m : IOManager) : Action → Outcome EventFault IOManager
  | .addEvent t fd event cb =>
      match m.pc t with
      | .out =>
          match m.m_FdContexts[fd]? with
          | some fd_ctx => .next (m.setPc t (.addEvent fd_ctx event cb))
          | none => .next (m.setPc t (.addEventResize fd event cb))
      | _ => .blocked
  | .contextResize t =>
      match m.pc t with
      | .addEventResize fd event cb =>
          -- `fd * 1.5`, truncated; the size may be smaller than what another thread has just set
          let m' := m.contextResize (fd * 3 / 2)
          match m'.m_FdContexts[fd]? with
          | some fd_ctx => .next (m'.setPc t (.addEvent fd_ctx event cb))
          | none => .abort .outOfRange
      | _ => .blocked
  | .addEventLocked t who rt =>
      match m.pc t with
      | .addEvent fd_ctx event cb =>
          match m.contexts[fd_ctx]? with
          | none => .blocked
          | some c =>
              match c.addEvent event cb who m.issued rt with
              | .error e => .abort e
              | .ok none => .next (m.setPc t .out)
              | .ok (some r) =>
                  .next { (m.commit fd_ctx r).setPc t .out with issued := m.issued + 1 }
      | _ => .blocked
  | .delEvent t fd event =>
      match m.pc t with
      | .out => m.lookup t fd fun fd_ctx => .delEvent fd_ctx event
      | _ => .blocked
  | .delEventLocked t rt =>
      match m.pc t with
      | .delEvent fd_ctx event =>
          match m.contexts[fd_ctx]? with
          | none => .blocked
          | some c => m.leave t .out fd_ctx (.ok (c.delEvent event rt))
      | _ => .blocked
  | .cancelEvent t fd event =>
      match m.pc t with
      | .out => m.lookup t fd fun fd_ctx => .cancelEvent fd_ctx event
      | _ => .blocked
  | .cancelEventLocked t rt =>
      match m.pc t with
      | .cancelEvent fd_ctx event =>
          match m.contexts[fd_ctx]? with
          | none => .blocked
          | some c => m.leave t .out fd_ctx (c.cancelEvent event rt)
      | _ => .blocked
  | .cancelAll t fd =>
      match m.pc t with
      | .out => m.lookup t fd .cancelAll
      | _ => .blocked
  | .cancelAllLocked t rt =>
      match m.pc t with
      | .cancelAll fd_ctx =>
          match m.contexts[fd_ctx]? with
          | none => .blocked
          | some c => m.leave t .out fd_ctx (c.cancelAll rt)
      | _ => .blocked
  | .epoll_wait t events =>
      match m.pc t with
      | .out =>
          -- only a descriptor with registered events is reported, with any bits
          if events.all fun q => (m.contexts[q.1]?).any (·.events ≠ .NONE) then
            .next (m.setPc t (.idle events))
          else .blocked
      | _ => .blocked
  | .dispatch t rt2 =>
      match m.pc t with
      | .idle ((fd_ctx, event) :: events) =>
          match m.contexts[fd_ctx]? with
          | none => .blocked
          | some c => m.leave t (.idle events) fd_ctx ((c.dispatch event rt2).map some)
      | .idle [] => .next (m.setPc t .out)
      | _ => .blocked

/-- The IOManager as a system of threads. -/
def system : System IOManager Action EventFault where
  init := init
  step := step

end IOManager

end Mingfwq
