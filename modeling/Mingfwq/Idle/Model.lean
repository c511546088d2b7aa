import Mathlib.Algebra.Group.Int.Defs
import Mathlib.Algebra.Group.Nat.Defs
import Mingfwq.Timer.Model

/-!
# Workers that wait for timers (iomanager.cpp, scheduler.cpp)

The workers of an IOManager alternate between `IOManager::idle` and the tasks of `Scheduler::run`. An insertion and the
tickle it calls for are one step, and so are the computation of a wait and the call of `epoll_wait`: a worker that knows
its wait counts as blocked. What `GetCurrentMS` returns is a parameter of each step.
-/

namespace Mingfwq

open Lib

namespace Idle

/-- `(int)next_timeout`. -/
def toInt (next_timeout : UInt64) : Int := Int.bmod next_timeout.toNat (2 ^ 32)

def MAX_TIMEOUT : UInt64 := 3000

/-- The timeout given to `epoll_wait`. -/
def clamp (next_timeout : UInt64) : UInt64 :=
  if next_timeout ≠ ~~~0 then
    if toInt next_timeout > MAX_TIMEOUT.toNat then MAX_TIMEOUT else next_timeout
  else MAX_TIMEOUT

/-- When `epoll_wait(.., (int)next_timeout)` returns by itself: never with a negative timeout. -/
def wakeUp (now next_timeout : UInt64) : Option Nat :=
  if toInt next_timeout < 0 then none else some (now.toNat + (toInt next_timeout).toNat)

/-- Where a worker is. -/
inductive Pc where
  | run (woken : Bool)      -- in Scheduler::run; `woken` says that it has run no task since epoll_wait returned
  | enter (woken : Bool)    -- in idle, about to call getNextTimer
  | blocked (next_timeout : UInt64) (wake : Option Nat)
  | returned                -- epoll_wait has returned, about to call listExpiredCb
  | collected               -- in the loop over the events
  | exited
  deriving DecidableEq, Repr

/-- Between its wake-up and its next call of `getNextTimer`, without a task in between. -/
def Pc.woken : Pc → Bool
  | .run woken => woken
  | .enter woken => woken
  | .returned => true
  | .collected => true
  | _ => false

def Pc.isBlocked : Pc → Bool
  | .blocked _ _ => true
  | _ => false

/-- Whether the worker is blocked past the deadline. -/
def Pc.sleepsPast (deadline : Nat) : Pc → Bool
  | .blocked _ (some wake) => deadline < wake
  | .blocked _ none => true
  | _ => false

/-- Whether `m_idleThreadCount` counts the worker. -/
def Pc.isIdle : Pc → Bool
  | .enter _ => true
  | .blocked _ _ => true
  | .returned => true
  | .collected => true
  | _ => false

end Idle

/-- The part of an IOManager that wakes its workers; `m_tickleFds` is the number of bytes in the pipe. -/
structure Idle where
  timers : TimerManager
  m_tickleFds : Nat
  m_idleThreadCount : Nat
  workers : List Idle.Pc

namespace Idle

/-- `n` workers, none of them idle yet. -/
def init (n : Nat) : Idle where
  timers := .new
  m_tickleFds := 0
  m_idleThreadCount := 0
  workers := List.replicate n (.run false)

inductive Action where
  | addTimer (address : Nat) (ms : UInt64) (cb : Callback) (recurring : Bool) (now : UInt64)
  | reset (i : Nat) (ms : UInt64) (from_now : Bool) (now : UInt64)
  | stopping (now : UInt64)         -- another thread calls stopping(), which calls getNextTimer
  | tickle                          -- the scheduler has a task
  | task (w : Nat)                  -- run takes a task
  | idle (w : Nat)                  -- run finds no task and resumes the idle fiber
  | getNextTimer (w : Nat) (now : UInt64) (stop : Bool)
  | interrupted (w : Nat) (now : UInt64)
  | wake (w : Nat)                  -- epoll_wait returns: a timeout, a byte in the pipe, another event
  | listExpiredCb (w : Nat) (address : Nat) (now : UInt64)
  | drain (w : Nat)                 -- the pipe is one of the events
  | swapOut (w : Nat)
  deriving DecidableEq, Repr

def hasIdleThreads (s : Idle) : Bool := s.m_idleThreadCount > 0

def tickle (s : Idle) : Idle :=
  if s.hasIdleThreads then { s with m_tickleFds := s.m_tickleFds + 1 } else s

def onTimerInsertedAtFront (s : Idle) : Idle := s.tickle

/-- The end of an insertion. -/
def inserted (s : Idle) (at_front : Bool) (timers : TimerManager) : Idle :=
  if at_front then { s with timers }.onTimerInsertedAtFront else { s with timers }

def setPc (s : Idle) (w : Nat) (pc : Pc) : Idle := { s with workers := s.workers.set w pc }

/-- A worker goes into epoll_wait, which does not block with a timeout of zero. -/
def epoll_wait (s : Idle) (w : Nat) (now next_timeout : UInt64) : Idle :=
  if toInt next_timeout = 0 then s.setPc w .returned
  else s.setPc w (.blocked next_timeout (wakeUp now next_timeout))

def step (s : Idle) : Action → Outcome TimerFault Idle
  | .addTimer address ms cb recurring now =>
      if ∃ i < s.timers.created, s.timers.Live i ∧ (s.timers.timer i).address = address then .blocked
      else
        let (at_front, timers) := s.timers.addTimer address ms (some cb) recurring now
        .next (s.inserted at_front timers)
  | .reset i ms from_now now =>
      if (s.timers.timer i).held then
        match s.timers.reset i ms from_now now with
        | .error e => .abort e
        | .ok (_, at_front, timers) => .next (s.inserted at_front timers)
      else .blocked
  | .stopping now => .next { s with timers := (s.timers.getNextTimer now).2 }
  | .tickle => .next s.tickle
  | .task w =>
      match s.workers[w]? with
      | some (.run _) => .next (s.setPc w (.run false))
      | _ => .blocked
  | .idle w =>
      match s.workers[w]? with
      | some (.run woken) =>
          .next { s.setPc w (.enter woken) with m_idleThreadCount := s.m_idleThreadCount + 1 }
      | _ => .blocked
  | .getNextTimer w now stop =>
      match s.workers[w]? with
      | some (.enter _) =>
          let (next_timeout, timers) := s.timers.getNextTimer now
          -- `stop` is the rest of stopping: no pending event, and the scheduler is stopping
          if next_timeout = ~~~0 ∧ stop then
            .next { { s with timers }.setPc w .exited with m_idleThreadCount := s.m_idleThreadCount - 1 }
          else .next ({ s with timers }.epoll_wait w now (clamp next_timeout))
      | _ => .blocked
  | .interrupted w now =>
      match s.workers[w]? with
      -- EINTR: the wait starts again with the timeout it had
      | some (.blocked next_timeout _) => .next (s.epoll_wait w now (clamp next_timeout))
      | _ => .blocked
  | .wake w =>
      match s.workers[w]? with
      | some (.blocked _ _) => .next (s.setPc w .returned)
      | _ => .blocked
  | .listExpiredCb w address now =>
      match s.workers[w]? with
      | some .returned =>
          match s.timers.listExpiredCb address now with
          | .error e => .abort e
          | .ok (_, timers) => .next ({ s with timers }.setPc w .collected)
      | _ => .blocked
  | .drain w =>
      match s.workers[w]? with
      | some .collected => .next { s with m_tickleFds := 0 }
      | _ => .blocked
  | .swapOut w =>
      match s.workers[w]? with
      | some .collected =>
          .next { s.setPc w (.run true) with m_idleThreadCount := s.m_idleThreadCount - 1 }
      | _ => .blocked

def system (n : Nat) : System Idle Action TimerFault where
  init := init n
  step := step

end Idle

end Mingfwq
