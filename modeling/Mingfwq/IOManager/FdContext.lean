import Mingfwq.Fiber

/-!
# The event table entry of one descriptor

`IOManager::FdContext` (iomanager.h 24-48, iomanager.cpp 12-46) and the sections that addEvent, delEvent,
cancelEvent, cancelAll and idle run under `fd_ctx->mutex`.
-/

namespace Mingfwq

/-- `IOManager::Event`; NONE is the empty set of `Events`. -/
inductive Event where
  | READ | WRITE
  deriving DecidableEq, Repr

/-- The bits 0x1 and 0x4 of `FdContext::events`. -/
structure Events where
  READ : Bool
  WRITE : Bool
  deriving DecidableEq, Repr

namespace Events

def NONE : Events := ⟨false, false⟩

/-- `events & event` -/
def has (s : Events) : Event → Bool
  | .READ => s.READ
  | .WRITE => s.WRITE

/-- `events | event` -/
def or (s : Events) : Event → Events
  | .READ => { s with READ := true }
  | .WRITE => { s with WRITE := true }

/-- `events & ~event` -/
def andNot (s : Events) : Event → Events
  | .READ => { s with READ := false }
  | .WRITE => { s with WRITE := false }

/-- `events & real_events` -/
def and (s t : Events) : Events := ⟨s.READ && t.READ, s.WRITE && t.WRITE⟩

def count (s : Events) : Int := s.READ.toNat + s.WRITE.toNat

end Events

/-- The bits of `epoll_event::events` that idle() reads. -/
structure EpollEvents where
  EPOLLIN : Bool := false
  EPOLLOUT : Bool := false
  EPOLLERR : Bool := false
  EPOLLHUP : Bool := false
  deriving DecidableEq, Repr

/-- How the process dies. -/
inductive EventFault where
  | triggerEvent    -- MINGFWQ_ASSERT(events & event)
  | addEvent        -- MINGFWQ_ASSERT(!(fd_ctx->events & event))
  | eventContext    -- MINGFWQ_ASSERT(!event_ctx.scheduler && !event_ctx.fiber && !event_ctx.cb)
  | fiberState      -- MINGFWQ_ASSERT2(event_ctx.fiber->getState() == Fiber::EXEC, ..)
  | cancelAll       -- MINGFWQ_ASSERT(fd_ctx->events == 0)
  | nullScheduler   -- ctx.scheduler->schedule(..) on a null scheduler
  | outOfRange      -- m_FdContexts[fd] past the end
  deriving DecidableEq, Repr

/-- `FdContext::EventContext`. The waiter is not in the source: it numbers the successful addEvent that
filled the context, to follow one registration through a run. -/
structure EventContext where
  scheduler : Option Nat := none
  fiber : Option Nat := none
  cb : Option Nat := none
  waiter : Option Nat := none
  deriving DecidableEq, Repr

/-- `IOManager::FdContext`, without its mutex. -/
structure FdContext where
  fd : Nat
  read : EventContext := {}
  write : EventContext := {}
  events : Events := .NONE
  deriving DecidableEq, Repr

/-- What a section leaves behind: the context, the waiters it handed to a scheduler, the waiters it dropped
without scheduling them, the change of `m_pendingEventCount`. -/
structure Section where
  ctx : FdContext
  scheduled : List Nat := []
  dropped : List Nat := []
  pending : Int := 0
  deriving DecidableEq, Repr

/-- The thread that calls addEvent: `Scheduler::GetThis()`, `Fiber::GetThis()` and the state of that fiber. -/
structure Caller where
  scheduler : Option Nat
  fiber : Nat
  state : FiberState
  deriving DecidableEq, Repr

/-- What a successful addEvent writes into the empty event context. -/
def Caller.eventContext (who : Caller) (cb : Option Nat) (waiter : Nat) : EventContext where
  scheduler := who.scheduler
  fiber := if cb.isSome then none else some who.fiber
  cb := cb
  waiter := some waiter

namespace FdContext

def getContext (c : FdContext) : Event → EventContext
  | .READ => c.read
  | .WRITE => c.write

def setContext (c : FdContext) : Event → EventContext → FdContext
  | .READ, x => { c with read := x }
  | .WRITE, x => { c with write := x }

/-- `schedule(&ctx.cb)` and `schedule(&ctx.fiber)` swap the task out of the context. -/
def triggerEvent (c : FdContext) (event : Event) : Except EventFault Section :=
  if c.events.has event then
    let ctx := c.getContext event
    match ctx.scheduler with
    | none => .error .nullScheduler
    | some _ =>
        let swapped := if ctx.cb.isSome then { ctx with cb := none } else { ctx with fiber := none }
        .ok { ctx := ({ c with events := c.events.andNot event }).setContext event
                { swapped with scheduler := none, waiter := none }
              scheduled := ctx.waiter.toList
              pending := -1 }
  else .error .triggerEvent

end FdContext

namespace Section

/-- Two triggerEvent calls of one section. -/
def triggerEvent (r : Section) (event : Event) : Except EventFault Section := do
  let r' ← r.ctx.triggerEvent event
  .ok { r' with
        scheduled := r.scheduled ++ r'.scheduled
        dropped := r.dropped ++ r'.dropped
        pending := r.pending + r'.pending }

/-- `if(mask & event){ triggerEvent(event); --m_pendingEventCount; }` -/
def triggerIf (r : Section) (mask : Events) (event : Event) : Except EventFault Section :=
  if mask.has event then r.triggerEvent event else .ok r

end Section

namespace FdContext

/-- addEvent under `fd_ctx->mutex`; `rt` says whether epoll_ctl returned 0, `none` is the result -1. -/
def addEvent (c : FdContext) (event : Event) (cb : Option Nat) (who : Caller) (waiter : Nat) (rt : Bool) :
    Except EventFault (Option Section) :=
  if c.events.has event then .error .addEvent
  else if !rt then .ok none
  else
    let ctx := c.getContext event
    if ctx.scheduler.isSome || ctx.fiber.isSome || ctx.cb.isSome then .error .eventContext
    else if cb.isNone && who.state ≠ .EXEC then .error .fiberState
    else
      .ok (some { ctx := ({ c with events := c.events.or event }).setContext event
                    (who.eventContext cb waiter)
                  pending := 1 })

/-- delEvent under `fd_ctx->mutex`; `none` is the result false. -/
def delEvent (c : FdContext) (event : Event) (rt : Bool) : Option Section :=
  if !c.events.has event || !rt then none
  else some
    { ctx := ({ c with events := c.events.andNot event }).setContext event {}
      dropped := (c.getContext event).waiter.toList
      pending := -1 }

/-- cancelEvent under `fd_ctx->mutex`; `none` is the result false. -/
def cancelEvent (c : FdContext) (event : Event) (rt : Bool) : Except EventFault (Option Section) :=
  if !c.events.has event || !rt then .ok none
  else (c.triggerEvent event).map some

/-- cancelAll under `fd_ctx->mutex`; `none` is the result false. -/
def cancelAll (c : FdContext) (rt : Bool) : Except EventFault (Option Section) :=
  if c.events = .NONE || !rt then .ok none
  else do
    let r ← Section.triggerIf { ctx := c } c.events .READ
    let r ← r.triggerIf r.ctx.events .WRITE
    if r.ctx.events = .NONE then .ok (some r) else .error .cancelAll

/-- `real_events` of one reported event: an error or a hang-up counts as readable and writable. -/
def realEvents (event : EpollEvents) : Events :=
  let bad := event.EPOLLERR || event.EPOLLHUP
  ⟨event.EPOLLIN || bad, event.EPOLLOUT || bad⟩

/-- The body of the dispatch loop of idle() under `fd_ctx->mutex`; `rt2` says whether epoll_ctl returned 0.
The two tests read `real_events`, not `fd_ctx->events & real_events`. -/
def dispatch (c : FdContext) (event : EpollEvents) (rt2 : Bool) : Except EventFault Section :=
  if c.events.and (realEvents event) = .NONE || !rt2 then .ok { ctx := c }
  else do
    let r ← Section.triggerIf { ctx := c } (realEvents event) .READ
    r.triggerIf (realEvents event) .WRITE

end FdContext

end Mingfwq
