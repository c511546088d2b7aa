import Mathlib.Data.List.Basic
import Mingfwq.Fiber
import Mingfwq.Lib.System

/-!
# The scheduler (scheduler.h, scheduler.cpp, fiber.cpp)

Every worker thread runs Scheduler::run, one atomic step at a time: the locked scan of the queue, the check
and assignment of swapIn, the restore and the save of a context, each test and assignment of a fiber's state,
each update of `m_activeThreadCount`. A fiber is its number, a worker its thread id; both index their tables.
-/

namespace Mingfwq

open Lib

structure Fiber where
  m_state : FiberState
  /-- whether `m_cb` is set -/
  m_cb : Bool
  /-- whether `m_ctx` holds a context to restore: makecontext or swapcontext has written it, and nobody has
  restored it since -/
  saved : Bool
  deriving DecidableEq, Repr

namespace Fiber

/-- `new Fiber(cb)`, also what reset makes of a fiber. -/
def new (m_cb : Bool) : Fiber := { m_state := .INIT, m_cb := m_cb, saved := true }

/-- The assertion of reset. -/
def resettable (f : Fiber) : Bool := f.m_state.finished || f.m_state == .INIT

end Fiber

namespace Scheduler

inductive FiberOrCb where
  | fiber (f : Nat)
  | cb
  deriving DecidableEq, Repr

/-- An entry of the queue; no thread stands for `-1`. -/
structure FiberAndThread where
  task : FiberOrCb
  thread : Option Nat
  deriving DecidableEq, Repr

/-- Where a worker is in Scheduler::run. `cb` says that the fiber is the worker's `cb_fiber` and not that of
the entry `ft`. -/
inductive Pc where
  | scan                           -- about to lock m_mutex and look for an entry
  | taken (ft : FiberAndThread)    -- the entry is removed, about to test what it is
  | swapIn (f : Nat) (cb : Bool)   -- about to assert m_state != EXEC and to assign EXEC
  | restore (f : Nat) (cb : Bool)  -- about to restore m_ctx
  | exec (f : Nat) (cb : Bool)     -- on the stack of the fiber
  | save (f : Nat) (cb : Bool)     -- in swapOut, about to save m_ctx
  | back (f : Nat) (cb : Bool)     -- swapIn has returned, about to decrement m_activeThreadCount
  | test (f : Nat) (cb : Bool)     -- about to test m_state
  | push (f : Nat) (cb : Bool)     -- m_state was READY, about to call schedule
  | hold (f : Nat) (cb : Bool)     -- m_state was none of READY, TERM, EXCEPT, about to assign HOLD
  | drop                           -- the fiber of the entry was finished, about to decrement
  | idle                           -- no entry for this worker
  | exited
  deriving DecidableEq, Repr

structure Worker where
  pc : Pc
  cb_fiber : Option Nat
  /-- whether `idle_fiber` has terminated -/
  idleTerm : Bool
  deriving DecidableEq, Repr

end Scheduler

structure Scheduler where
  m_fibers : List Scheduler.FiberAndThread
  m_activeThreadCount : Nat
  m_stopping : Bool
  m_autoStop : Bool
  workers : List Scheduler.Worker
  fibers : List Fiber
  /-- the fibers that wait for an event, once for each successful addEvent -/
  waiting : List Nat
  deriving DecidableEq, Repr

namespace Scheduler

/-- A failed assertion, or a context restored that is not there. -/
inductive Fault where
  | swapIn      -- MINGFWQ_ASSERT(m_state != EXEC)
  | reset       -- MINGFWQ_ASSERT(m_state == TERM || m_state == INIT || m_state == EXCEPT)
  | addEvent    -- MINGFWQ_ASSERT2(event_ctx.fiber->getState() == Fiber::EXEC, ..)
  | restore     -- swapcontext to a context that another thread has not saved yet
  deriving DecidableEq, Repr

/-- What the function of a fiber does next. -/
inductive Body where
  | addEvent | YieldToReady | YieldToHold | swapOut | returns | throws
  deriving DecidableEq, Repr

inductive Action where
  | newFiber
  | schedule (fc : FiberOrCb) (thread : Option Nat)
  | scheduleAll (fcs : List FiberOrCb)
  | dispatch (f : Nat)
  | stop_autoStop
  | stop_stopping
  | run (w : Nat)
  | body (w : Nat) (b : Body)
  deriving DecidableEq, Repr

/-- A task that exists: no entry names a fiber that nobody has made. -/
def FiberOrCb.made (s : Scheduler) : FiberOrCb → Bool
  | .fiber f => f < s.fibers.length
  | .cb => true

def scheduleNoLock (s : Scheduler) (fc : FiberOrCb) (thread : Option Nat) : Scheduler :=
  { s with m_fibers := s.m_fibers ++ [⟨fc, thread⟩] }

def stopping (s : Scheduler) : Bool :=
  s.m_autoStop && s.m_stopping && s.m_fibers.isEmpty && s.m_activeThreadCount == 0

def setWorker (s : Scheduler) (w : Nat) (k : Worker) : Scheduler :=
  { s with workers := s.workers.set w k }

def setFiber (s : Scheduler) (f : Nat) (x : Fiber) : Scheduler :=
  { s with fibers := s.fibers.set f x }

/-- The scan of run passes over an entry pinned to another thread, and one whose fiber is executing. -/
def skips (s : Scheduler) (w : Nat) (ft : FiberAndThread) : Bool :=
  if ft.thread ≠ none ∧ ft.thread ≠ some w then true
  else match ft.task with
    | .fiber f => (s.fibers[f]?).any (·.m_state == .EXEC)
    | .cb => false

/-- The first entry the scan does not pass over, and the queue without it. -/
def takeFirst (s : Scheduler) (w : Nat) : List FiberAndThread → Option (FiberAndThread × List FiberAndThread)
  | [] => none
  | ft :: fts =>
      if s.skips w ft then (s.takeFirst w fts).map fun q => (q.1, ft :: q.2)
      else some (ft, fts)

/-- What the entry is: a fiber to resume, a finished fiber to drop, or a callback that needs a fiber. -/
def begin (s : Scheduler) (w : Nat) (k : Worker) : FiberOrCb → Outcome Fault Scheduler
  | .fiber f =>
      match s.fibers[f]? with
      | none => .blocked
      | some x => .next (s.setWorker w { k with pc := if x.m_state.finished then .drop else .swapIn f false })
  | .cb =>
      match k.cb_fiber with
      | some f =>
          match s.fibers[f]? with
          | none => .blocked
          | some x =>
              if x.resettable then
                .next ((s.setFiber f (.new true)).setWorker w { k with pc := .swapIn f true })
              else .abort .reset
      | none =>
          let f := s.fibers.length
          .next ({ s with fibers := s.fibers ++ [Fiber.new true] }.setWorker w
            { k with pc := .swapIn f true, cb_fiber := some f })

/-- The steps of a worker that has fiber `f`, from swapIn on, the body of the fiber apart. -/
def resume (s : Scheduler) (w : Nat) (k : Worker) (x : Fiber) : Pc → Outcome Fault Scheduler
  | .swapIn f cb =>
      if x.m_state = .EXEC then .abort .swapIn
      else .next ((s.setFiber f { x with m_state := .EXEC }).setWorker w { k with pc := .restore f cb })
  | .restore f cb =>
      if x.saved then .next ((s.setFiber f { x with saved := false }).setWorker w { k with pc := .exec f cb })
      else .abort .restore
  | .save f cb => .next ((s.setFiber f { x with saved := true }).setWorker w { k with pc := .back f cb })
  | .back f cb =>
      .next ({ s with m_activeThreadCount := s.m_activeThreadCount - 1 }.setWorker w { k with pc := .test f cb })
  | .test f cb =>
      if x.m_state = .READY then .next (s.setWorker w { k with pc := .push f cb })
      else if x.m_state.finished then
        -- cb_fiber->reset(nullptr)
        .next ((if cb then s.setFiber f (.new false) else s).setWorker w { k with pc := .scan })
      else .next (s.setWorker w { k with pc := .hold f cb })
  | .push f cb =>
      .next ((s.scheduleNoLock (.fiber f) none).setWorker w
        { k with pc := .scan, cb_fiber := if cb then none else k.cb_fiber })
  | .hold f cb =>
      .next ((s.setFiber f { x with m_state := .HOLD }).setWorker w
        { k with pc := .scan, cb_fiber := if cb then none else k.cb_fiber })
  | _ => .blocked

/-- The fiber a worker has in hand. -/
def Pc.fiber : Pc → Option Nat
  | .taken ⟨.fiber f, _⟩ => some f
  | .swapIn f _ | .restore f _ | .exec f _ | .save f _ | .back f _ | .test f _ | .push f _ | .hold f _ => some f
  | _ => none

/-- One step of Scheduler::run. -/
def run (s : Scheduler) (w : Nat) (k : Worker) : Outcome Fault Scheduler :=
  match k.pc with
  | .scan =>
      match s.takeFirst w s.m_fibers with
      | some (ft, fts) =>
          .next ({ s with m_fibers := fts, m_activeThreadCount := s.m_activeThreadCount + 1 }.setWorker w
            { k with pc := .taken ft })
      | none => .next (s.setWorker w { k with pc := .idle })
  | .taken ft => s.begin w k ft.task
  | .drop =>
      .next ({ s with m_activeThreadCount := s.m_activeThreadCount - 1 }.setWorker w { k with pc := .scan })
  | .idle =>
      if k.idleTerm then .next (s.setWorker w { k with pc := .exited })
      -- the idle fiber goes once round its loop: it terminates when stopping, else it yields
      else .next (s.setWorker w { k with pc := .scan, idleTerm := s.stopping })
  | .exited => .blocked
  | pc =>
      match pc.fiber.bind fun f => s.fibers[f]? with
      | some x => s.resume w k x pc
      | none => .blocked

/-- The fiber as its function leaves it, on the way to swapOut. -/
def Body.leave (x : Fiber) : Body → Fiber
  | .YieldToReady => { x with m_state := .READY }
  | .YieldToHold => { x with m_state := .HOLD }
  | .returns => { x with m_state := .TERM, m_cb := false }
  | .throws => { x with m_state := .EXCEPT }
  | .addEvent | .swapOut => x

/-- One step of the function of fiber `f`. -/
def body (s : Scheduler) (w : Nat) (k : Worker) (f : Nat) (cb : Bool) (x : Fiber) (b : Body) :
    Outcome Fault Scheduler :=
  -- a null callback throws at once
  if !x.m_cb && b != .throws then .blocked
  else if b = .addEvent then
    -- the assertions on the descriptor are those of FdContext.addEvent
    if x.m_state = .EXEC then .next { s with waiting := s.waiting ++ [f] } else .abort .addEvent
  else .next ((s.setFiber f (b.leave x)).setWorker w { k with pc := .save f cb })

def step (s : Scheduler) : Action → Outcome Fault Scheduler
  | .newFiber => .next { s with fibers := s.fibers ++ [Fiber.new true] }
  | .schedule fc thread => if fc.made s then .next (s.scheduleNoLock fc thread) else .blocked
  | .scheduleAll fcs =>
      if fcs.all (·.made s) then .next (fcs.foldl (fun s fc => s.scheduleNoLock fc none) s) else .blocked
  | .dispatch f =>
      if f ∈ s.waiting then
        .next ({ s with waiting := s.waiting.erase f }.scheduleNoLock (.fiber f) none)
      else .blocked
  | .stop_autoStop => .next { s with m_autoStop := true }
  | .stop_stopping => if s.m_autoStop then .next { s with m_stopping := true } else .blocked
  | .run w =>
      match s.workers[w]? with
      | some k => s.run w k
      | none => .blocked
  | .body w b =>
      match s.workers[w]? with
      | some k =>
          match k.pc with
          | .exec f cb =>
              match s.fibers[f]? with
              | some x => s.body w k f cb x b
              | none => .blocked
          | _ => .blocked
      | none => .blocked

/-- A started scheduler of `threads` workers. -/
def init (threads : Nat) : Scheduler where
  m_fibers := []
  m_activeThreadCount := 0
  m_stopping := false
  m_autoStop := false
  workers := List.replicate threads { pc := .scan, cb_fiber := none, idleTerm := false }
  fibers := []
  waiting := []

def system (threads : Nat) : System Scheduler Action Fault where
  init := init threads
  step := step

end Scheduler

end Mingfwq
