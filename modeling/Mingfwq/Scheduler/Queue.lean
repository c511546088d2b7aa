import Mathlib.Logic.Function.Basic
import Mingfwq.Scheduler.Model

/-!
# The queue and its lock (scheduler.h, scheduler.cpp)

The system of the scheduler takes a scan of the queue in one step. Here a thread that holds `m_mutex` takes a step for
each entry it pushes or looks at, and the states of the fibers change at any time, since nobody locks to assign them.
-/

namespace Mingfwq.Scheduler

open Lib

/-- An entry of `m_fibers` and where it comes from: which call of schedule has pushed it, and its place among what this
call was given. -/
structure Entry extends FiberAndThread where
  call : Nat
  place : Nat
  deriving DecidableEq, Repr

/-- An entry that a scan has gone past, with the state its fiber was in then. -/
structure Passed where
  entry : Entry
  state : Option FiberState
  deriving DecidableEq, Repr

/-- What the thread that holds `m_mutex` is doing. -/
inductive Holder where
  | schedule (rest : List (Option FiberOrCb)) (thread : Option Nat) (place : Nat) (need_ticke : Bool)
  | run (w : Nat) (passed : List Passed) (rest : List Entry) (tickle_me : Bool)
  deriving DecidableEq, Repr

/-- Where a worker is in Scheduler::run when it does not hold the lock. -/
inductive Stage where
  | loop                          -- about to lock m_mutex
  | tickle (ft : Option Entry)    -- tickle_me was true, about to call tickle
  | execute (ft : Option Entry)   -- about to execute what it has taken, or the idle fiber
  deriving DecidableEq, Repr

/-- The queue, its lock, and what the scan reads. The entries pushed, the entries removed, with the worker that has
removed them, and the entries a scan has gone past are history. -/
structure Queue where
  m_fibers : List Entry
  m_mutex : Option Holder
  m_state : Nat → FiberState
  worker : Nat → Stage
  tickled : Nat
  calls : Nat
  pushed : List Entry
  removed : List (Nat × Entry)

namespace Queue

inductive Action where
  | schedule (fc : Option FiberOrCb) (thread : Option Nat)
  | scheduleAll (fcs : List (Option FiberOrCb))
  | push
  | lock (w : Nat)
  | look
  | tickle (w : Nat)
  | execute (w : Nat)
  | setState (f : Nat) (state : FiberState)
  deriving DecidableEq, Repr

/-- A null pointer or an empty function is not pushed. -/
def scheduleNoLock (s : Queue) (fc : Option FiberOrCb) (thread : Option Nat) (place : Nat) : Queue × Bool :=
  let need_tickle := s.m_fibers.isEmpty
  match fc with
  | some task =>
      let ft : Entry := { task := task, thread := thread, call := s.calls, place := place }
      ({ s with m_fibers := s.m_fibers ++ [ft], pushed := s.pushed ++ [ft] }, need_tickle)
  | none => (s, need_tickle)

/-- The loop of schedule: one more push, or the end of the call. -/
def push (s : Queue) (rest : List (Option FiberOrCb)) (thread : Option Nat) (place : Nat) (need_ticke : Bool) : Queue :=
  match rest with
  | fc :: rest =>
      let (s, need_tickle) := s.scheduleNoLock fc thread place
      { s with m_mutex := some (.schedule rest thread (place + 1) (need_tickle || need_ticke)) }
  | [] => { s with m_mutex := none, calls := s.calls + 1, tickled := s.tickled + if need_ticke then 1 else 0 }

/-- What the scan asks `getState` for. -/
def getState (s : Queue) : FiberOrCb → Option FiberState
  | .fiber f => some (s.m_state f)
  | .cb => none

/-- The end of the scan. -/
def unlock (s : Queue) (w : Nat) (ft : Option Entry) (tickle_me : Bool) : Queue :=
  { s with
    m_mutex := none
    worker := Function.update s.worker w (if tickle_me then .tickle ft else .execute ft) }

/-- The loop of run over the queue, with `passed` before `it` and `rest` from `it` on. -/
def look (s : Queue) (w : Nat) (passed : List Passed) (rest : List Entry) (tickle_me : Bool) : Queue :=
  match rest with
  | [] => s.unlock w none tickle_me
  | it :: rest =>
      if it.thread ≠ none ∧ it.thread ≠ some w then
        { s with m_mutex := some (.run w (passed ++ [⟨it, s.getState it.task⟩]) rest true) }
      else if s.getState it.task = some .EXEC then
        { s with m_mutex := some (.run w (passed ++ [⟨it, s.getState it.task⟩]) rest tickle_me) }
      else
        { s with
          m_fibers := passed.map Passed.entry ++ rest
          removed := s.removed ++ [(w, it)] }.unlock w (some it) (tickle_me || !rest.isEmpty)

def step (s : Queue) : Action → Outcome Empty Queue
  | .schedule fc thread =>
      if s.m_mutex = none then .next { s with m_mutex := some (.schedule [fc] thread 0 false) } else .blocked
  | .scheduleAll fcs =>
      if s.m_mutex = none then .next { s with m_mutex := some (.schedule fcs none 0 false) } else .blocked
  | .push =>
      match s.m_mutex with
      | some (.schedule rest thread place need_ticke) => .next (s.push rest thread place need_ticke)
      | _ => .blocked
  | .lock w =>
      if s.m_mutex = none ∧ s.worker w = .loop then .next { s with m_mutex := some (.run w [] s.m_fibers false) }
      else .blocked
  | .look =>
      match s.m_mutex with
      | some (.run w passed rest tickle_me) => .next (s.look w passed rest tickle_me)
      | _ => .blocked
  | .tickle w =>
      match s.worker w with
      | .tickle ft =>
          .next { s with tickled := s.tickled + 1, worker := Function.update s.worker w (.execute ft) }
      | _ => .blocked
  | .execute w =>
      match s.worker w with
      | .execute _ => .next { s with worker := Function.update s.worker w .loop }
      | _ => .blocked
  | .setState f state => .next { s with m_state := Function.update s.m_state f state }

def init : Queue where
  m_fibers := []
  m_mutex := none
  m_state _ := .INIT
  worker _ := .loop
  tickled := 0
  calls := 0
  pushed := []
  removed := []

/-- Any thread may call schedule, and any may be a worker. -/
def system : System Queue Action Empty where
  init := init
  step := step

end Queue

end Mingfwq.Scheduler
