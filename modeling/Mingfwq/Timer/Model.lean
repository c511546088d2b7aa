import Mathlib.Logic.Function.Basic
import Mingfwq.Lib.OrderedSet
import Mingfwq.Lib.System

/-!
# Timers (timer.h, timer.cpp)

A `Timer::ptr` names a timer by the order of its creation. Each operation is atomic under `m_mutex`, with what it reads
before it takes the lock. The milliseconds that `GetCurrentMS` returns and the address that `new` returns are
parameters.
-/

namespace Mingfwq

open Lib

/-- A callback that is not empty, by its number. -/
abbrev Callback := Nat

/-- `held` says whether a `Timer::ptr` outside of the manager still names the timer. -/
structure Timer where
  address : Nat
  held : Bool
  m_recurring : Bool
  m_ms : UInt64
  m_next : UInt64
  m_cb : Option Callback
  deriving DecidableEq, Repr

namespace Timer

/-- The constructor; `timer` is then held by its caller. -/
def new (address : Nat) (ms : UInt64) (cb : Option Callback) (recurring : Bool) (now : UInt64) : Timer where
  address := address
  held := true
  m_recurring := recurring
  m_ms := ms
  m_next := now + ms
  m_cb := cb

/-- `Timer(next)`, only made to be compared. -/
def ofNext (address : Nat) (next : UInt64) : Timer where
  address := address
  held := true
  m_recurring := false
  m_ms := 0
  m_next := next
  m_cb := none

def Comparator : Option Timer → Option Timer → Bool
  | none, none => false
  | none, some _ => true
  | some _, none => false
  | some lhs, some rhs =>
      if lhs.m_next < rhs.m_next then true
      else if lhs.m_next > rhs.m_next then false
      else lhs.address < rhs.address

end Timer

/-- The timers made so far, whether freed or not, and the set. -/
structure TimerManager where
  created : Nat
  timer : Nat → Timer
  m_timers : List Nat
  m_tickled : Bool

/-- What the set does not survive. -/
inductive TimerFault where
  | eraseEnd     -- erase(end())
  | keyChanged   -- m_next assigned to a timer that is in the set
  deriving DecidableEq, Repr

namespace TimerManager

def new : TimerManager where
  created := 0
  timer := fun _ => ⟨0, false, false, 0, 0, none⟩
  m_timers := []
  m_tickled := false

/-- The comparator on two pointers. -/
def less (m : TimerManager) (i j : Nat) : Bool := Timer.Comparator (some (m.timer i)) (some (m.timer j))

def find (m : TimerManager) (i : Nat) : Nat := OrderedSet.find m.less m.m_timers i

def erase (m : TimerManager) (it : Nat) : Except TimerFault TimerManager :=
  if it < m.m_timers.length then .ok { m with m_timers := m.m_timers.eraseIdx it } else .error .eraseEnd

/-- Whether `insert` returns the iterator `begin()`, and the set. -/
def insert (m : TimerManager) (i : Nat) : Bool × TimerManager :=
  let (it, m_timers) := OrderedSet.insert m.less m.m_timers i
  (it == 0, { m with m_timers })

def setTimer (m : TimerManager) (i : Nat) (t : Timer) : TimerManager :=
  { m with timer := Function.update m.timer i t }

/-- `m_next = next`. -/
def setNext (m : TimerManager) (i : Nat) (next : UInt64) : Except TimerFault TimerManager :=
  if i ∈ m.m_timers then .error .keyChanged else .ok (m.setTimer i { m.timer i with m_next := next })

/-- `addTimer(val, lock)`: whether it goes on to call `onTimerInsertedAtFront`. -/
def addTimerLocked (m : TimerManager) (i : Nat) : Bool × TimerManager :=
  let (begin, m) := m.insert i
  let at_front := begin && !m.m_tickled
  (at_front, if at_front then { m with m_tickled := true } else m)

/-- `addTimer(ms, cb, recurring)`. The timer it returns is the one made last. -/
def addTimer (m : TimerManager) (address : Nat) (ms : UInt64) (cb : Option Callback) (recurring : Bool)
    (now : UInt64) : Bool × TimerManager :=
  let i := m.created
  ({ m with created := i + 1 }.setTimer i (.new address ms cb recurring now)).addTimerLocked i

def cancel (m : TimerManager) (i : Nat) : Except TimerFault (Bool × TimerManager) :=
  if (m.timer i).m_cb.isSome then do
    let m := m.setTimer i { m.timer i with m_cb := none }
    let m ← m.erase (m.find i)
    .ok (true, m)
  else .ok (false, m)

def refresh (m : TimerManager) (i : Nat) (now : UInt64) : Except TimerFault (Bool × TimerManager) :=
  if (m.timer i).m_cb.isNone then .ok (false, m)
  else
    let it := m.find i
    if it = m.m_timers.length then .ok (false, m)
    else do
      let m ← m.erase it
      let m ← m.setNext i (now + (m.timer i).m_ms)
      .ok (true, (m.insert i).2)

/-- What `reset` returns, and whether it goes on to call `onTimerInsertedAtFront`. -/
def reset (m : TimerManager) (i : Nat) (ms : UInt64) (from_now : Bool) (now : UInt64) :
    Except TimerFault (Bool × Bool × TimerManager) :=
  if ms == (m.timer i).m_ms && !from_now then .ok (false, false, m)
  else if (m.timer i).m_cb.isNone then .ok (false, false, m)
  else
    let it := m.find i
    if it = m.m_timers.length then .ok (false, false, m)
    else do
      let m ← m.erase it
      let start := if from_now then now else (m.timer i).m_next - (m.timer i).m_ms
      let m := m.setTimer i { m.timer i with m_ms := ms }
      let m ← m.setNext i (start + (m.timer i).m_ms)
      .ok (true, m.addTimerLocked i)

/-- The end of the range of timers that have expired. -/
def expiredEnd (m : TimerManager) (address : Nat) (now_ms : UInt64) : Nat :=
  let now_timer := Timer.ofNext address now_ms
  let less := fun lhs rhs => Timer.Comparator (some lhs) (some rhs)
  let it := OrderedSet.lowerBound less (m.m_timers.map m.timer) now_timer
  it + ((m.m_timers.drop it).takeWhile fun i => (m.timer i).m_next == now_ms).length

/-- The timers a call of `listExpiredCb` takes out of the set. -/
def expired (m : TimerManager) (address : Nat) (now_ms : UInt64) : List Nat :=
  m.m_timers.take (m.expiredEnd address now_ms)

/-- One turn of the loop over the timers that have expired. -/
def expire (m : TimerManager) (now_ms : UInt64) (i : Nat) : Except TimerFault TimerManager :=
  if (m.timer i).m_recurring then do
    let m ← m.setNext i (now_ms + (m.timer i).m_ms)
    .ok (m.insert i).2
  else .ok (m.setTimer i { m.timer i with m_cb := none })

/-- The loop: the callbacks, and the manager after it. -/
def expireAll (m : TimerManager) (now_ms : UInt64) :
    List Nat → Except TimerFault (List (Option Callback) × TimerManager)
  | [] => .ok ([], m)
  | i :: expired => do
      let cb := (m.timer i).m_cb
      let m ← m.expire now_ms i
      let (cbs, m) ← m.expireAll now_ms expired
      .ok (cb :: cbs, m)

def listExpiredCb (m : TimerManager) (address : Nat) (now_ms : UInt64) :
    Except TimerFault (List (Option Callback) × TimerManager) :=
  if m.m_timers.isEmpty then .ok ([], m)
  else
    let expired := m.expired address now_ms
    { m with m_timers := m.m_timers.drop (m.expiredEnd address now_ms) }.expireAll now_ms expired

def getNextTimer (m : TimerManager) (now_ms : UInt64) : UInt64 × TimerManager :=
  let m := { m with m_tickled := false }
  match m.m_timers with
  | [] => (~~~0, m)
  | next :: _ =>
      if now_ms ≥ (m.timer next).m_next then (0, m) else ((m.timer next).m_next - now_ms, m)

/-- The last `Timer::ptr` outside of the manager goes away. -/
def release (m : TimerManager) (i : Nat) : TimerManager := m.setTimer i { m.timer i with held := false }

/-- A timer that is not freed. -/
def Live (m : TimerManager) (i : Nat) : Prop := i < m.created ∧ ((m.timer i).held ∨ i ∈ m.m_timers)

instance (m : TimerManager) (i : Nat) : Decidable (m.Live i) := inferInstanceAs (Decidable (_ ∧ _))

/-! ## Any sequence of calls -/

inductive Event where
  | cancelled (i : Nat)   -- cancel has returned true
  | delivered (i : Nat)   -- listExpiredCb has returned the callback
  deriving DecidableEq, Repr

/-- The manager, and what has come out of it, in order. -/
structure State where
  manager : TimerManager
  events : List Event

/-- A call is made with a `Timer::ptr`, so of a timer that is held. -/
inductive Action where
  | addTimer (address : Nat) (ms : UInt64) (cb : Callback) (recurring : Bool) (now : UInt64)
  | cancel (i : Nat)
  | refresh (i : Nat) (now : UInt64)
  | reset (i : Nat) (ms : UInt64) (from_now : Bool) (now : UInt64)
  | listExpiredCb (address : Nat) (now : UInt64)
  | getNextTimer (now : UInt64)
  | release (i : Nat)
  deriving DecidableEq, Repr

def State.init : State where
  manager := .new
  events := []

/-- A call that changes the manager and lets nothing out of it. -/
def State.after {α : Type} (s : State) : Except TimerFault (α × TimerManager) → Outcome TimerFault State
  | .error e => .abort e
  | .ok (_, manager) => .next { s with manager }

def step (s : State) : Action → Outcome TimerFault State
  | .addTimer address ms cb recurring now =>
      -- `new` returns the address of no timer that is still there
      if ∃ i < s.manager.created, s.manager.Live i ∧ (s.manager.timer i).address = address then .blocked
      else s.after (.ok (s.manager.addTimer address ms (some cb) recurring now))
  | .cancel i =>
      if (s.manager.timer i).held then
        match s.manager.cancel i with
        | .error e => .abort e
        | .ok (true, manager) => .next ⟨manager, s.events ++ [.cancelled i]⟩
        | .ok (false, manager) => .next ⟨manager, s.events⟩
      else .blocked
  | .refresh i now => if (s.manager.timer i).held then s.after (s.manager.refresh i now) else .blocked
  | .reset i ms from_now now =>
      if (s.manager.timer i).held then s.after ((s.manager.reset i ms from_now now).map Prod.snd) else .blocked
  | .listExpiredCb address now =>
      match s.manager.listExpiredCb address now with
      | .error e => .abort e
      | .ok (_, manager) =>
          .next ⟨manager, s.events ++ (s.manager.expired address now).map .delivered⟩
  | .getNextTimer now => s.after (.ok (s.manager.getNextTimer now))
  | .release i => .next { s with manager := s.manager.release i }

def system : System State Action TimerFault where
  init := .init
  step := step

end TimerManager

end Mingfwq
