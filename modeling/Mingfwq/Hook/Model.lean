import Mingfwq.IOManager.FdContext
import Mingfwq.Lib.System

/-!
# Hooked calls with a timeout (hook.cpp)

One call of do_io or connect_with_timeout with a finite timeout: the fiber that makes it, the callbacks of its
condition timers, and the dispatch of epoll. Each attempt of the call arms a timer of its own, and all of them
share `tinfo`. The sections under `fd_ctx->mutex` are those of the event table.
-/

namespace Mingfwq

open Lib

namespace Hook

/-- The hooked function; do_io is given its event. -/
inductive Call where
  | do_io (event : Event)
  | connect_with_timeout
  deriving DecidableEq, Repr

def Call.event : Call → Event
  | .do_io event => event
  | .connect_with_timeout => .WRITE

/-- `goto retry`: do_io makes its system call again after it has waited. -/
def Call.retries : Call → Bool
  | .do_io _ => true
  | .connect_with_timeout => false

/-- Where the fiber is. -/
inductive Pc where
  | io             -- about to make the system call
  | addTimer       -- the call would block, about to arm the condition timer
  | addEvent       -- about to call addEvent
  | YieldToHold    -- waiting for the event, about to yield
  | parked
  | timerCancel    -- resumed, about to cancel the timer
  | test           -- about to test tinfo->cancelled
  | failed         -- addEvent returned -1, about to cancel the timer
  | done
  deriving DecidableEq, Repr

/-- Where a timer is; its callback first tests and sets `cancelled`, then calls cancelEvent. -/
inductive TimerPc where
  | armed          -- in m_timers
  | expired        -- listExpiredCb has taken the callback out
  | cancelEvent    -- the callback has set cancelled, about to call cancelEvent
  | finished
  deriving DecidableEq, Repr

inductive Action where
  | io (again : Bool)               -- whether the call would block: EAGAIN, or EINPROGRESS
  | addTimer
  | addEvent (rt : Bool)
  | YieldToHold
  | swapIn                          -- a worker takes the fiber from the queue
  | timerCancel
  | test
  | listExpiredCb (timer : Nat)
  | callback (timer : Nat)
  | cancelEvent (timer : Nat) (rt : Bool)
  | dispatch (event : EpollEvents) (rt2 : Bool)
  deriving DecidableEq, Repr

end Hook

structure Hook where
  fd_ctx : FdContext
  pc : Hook.Pc
  /-- whether `tinfo->cancelled` is ETIMEDOUT -/
  cancelled : Bool
  /-- the timers of the attempts so far -/
  timers : List Hook.TimerPc
  /-- how often the fiber is on the queue -/
  scheduled : Nat
  deriving DecidableEq, Repr

namespace Hook

/-- Take over what a section did to the event table. -/
def commit (s : Hook) (r : Section) : Hook :=
  { s with fd_ctx := r.ctx, scheduled := s.scheduled + r.scheduled.length }

def setTimer (s : Hook) (i : Nat) (t : TimerPc) : Hook :=
  { s with timers := s.timers.set i t }

/-- `timer->cancel()` for the timer of this attempt: it has no effect once the callback is taken out. -/
def cancelTimer (s : Hook) : Hook :=
  let i := s.timers.length - 1
  if s.timers[i]? = some .armed then s.setTimer i .finished else s

def step (call : Call) (who : Caller) (s : Hook) : Action → Outcome EventFault Hook
  | .io again =>
      if s.pc = .io then .next { s with pc := if again then .addTimer else .done } else .blocked
  | .addTimer =>
      if s.pc = .addTimer then .next { s with pc := .addEvent, timers := s.timers ++ [.armed] } else .blocked
  | .addEvent rt =>
      if s.pc = .addEvent then
        match s.fd_ctx.addEvent call.event none who s.timers.length rt with
        | .error e => .abort e
        | .ok none => .next { s with pc := .failed }
        | .ok (some r) => .next { s.commit r with pc := .YieldToHold }
      else .blocked
  | .YieldToHold => if s.pc = .YieldToHold then .next { s with pc := .parked } else .blocked
  | .swapIn =>
      if s.pc = .parked ∧ 0 < s.scheduled then
        .next { s with pc := .timerCancel, scheduled := s.scheduled - 1 }
      else .blocked
  | .timerCancel =>
      if s.pc = .timerCancel then .next { s.cancelTimer with pc := .test }
      else if s.pc = .failed then .next { s.cancelTimer with pc := .done }
      else .blocked
  | .test =>
      if s.pc = .test then
        .next { s with pc := if !s.cancelled && call.retries then .io else .done }
      else .blocked
  | .listExpiredCb i =>
      if s.timers[i]? = some .armed then .next (s.setTimer i .expired) else .blocked
  | .callback i =>
      if s.timers[i]? = some .expired then
        -- tinfo is gone when the call has returned
        if s.pc = .done ∨ s.cancelled then .next (s.setTimer i .finished)
        else .next { s.setTimer i .cancelEvent with cancelled := true }
      else .blocked
  | .cancelEvent i rt =>
      if s.timers[i]? = some .cancelEvent then
        match s.fd_ctx.cancelEvent call.event rt with
        | .error e => .abort e
        | .ok none => .next (s.setTimer i .finished)
        | .ok (some r) => .next ((s.commit r).setTimer i .finished)
      else .blocked
  | .dispatch event rt2 =>
      match s.fd_ctx.dispatch event rt2 with
      | .error e => .abort e
      | .ok r => .next (s.commit r)

/-- A call on descriptor `fd`, made by a fiber that runs under an IOManager. -/
def system (call : Call) (fd iom fiber : Nat) : System Hook Action EventFault where
  init := { fd_ctx := { fd := fd }, pc := .io, cancelled := false, timers := [], scheduled := 0 }
  step := step call ⟨some iom, fiber, .EXEC⟩

end Hook

end Mingfwq
