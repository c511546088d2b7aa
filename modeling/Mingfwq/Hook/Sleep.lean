import Mathlib.Algebra.Group.Int.Defs
import Mathlib.Algebra.Group.Nat.Defs
import Mingfwq.Timer.Expiry

/-!
# The hooked sleep, usleep and nanosleep (hook.cpp)

Each arms a timer of one shot that puts the fiber back on the queue, drops the `Timer::ptr` it is given and yields. The
milliseconds are computed in three different widths before they reach `addTimer`.
-/

namespace Mingfwq

open Lib TimerManager

structure timespec where
  tv_sec : Int64
  tv_nsec : Int64
  deriving DecidableEq, Repr

namespace Hook

/-- The result of an operation on long, undefined if it overflows. -/
def long (x : Int) : Option Int := if -2 ^ 63 ≤ x ∧ x < 2 ^ 63 then some x else none

def sleep (seconds : UInt32) : UInt64 := (seconds * 1000).toUInt64

def usleep (usec : UInt32) : UInt64 := (usec / 1000).toUInt64

def nanosleep (req : timespec) : Option UInt64 := do
  let product ← long (req.tv_sec.toInt * 1000)
  let sum ← long (product + (req.tv_nsec.toInt.tdiv 1000).tdiv 1000)
  let timeout_ms := Int.bmod sum (2 ^ 32)
  some (UInt64.ofInt timeout_ms)

/-- One of the three calls, with its argument. -/
inductive Sleep where
  | sleep (seconds : UInt32)
  | usleep (usec : UInt32)
  | nanosleep (req : timespec)
  deriving DecidableEq, Repr

namespace Sleep

/-- The milliseconds that are given to `addTimer`. -/
def ms : Sleep → Option UInt64
  | .sleep seconds => some (Hook.sleep seconds)
  | .usleep usec => some (Hook.usleep usec)
  | .nanosleep req => Hook.nanosleep req

/-- What the caller asks for. -/
def nanoseconds : Sleep → Nat
  | .sleep seconds => seconds.toNat * 10 ^ 9
  | .usleep usec => usec.toNat * 10 ^ 3
  | .nanosleep req => req.tv_sec.toInt.toNat * 10 ^ 9 + req.tv_nsec.toInt.toNat

/-- The arguments that nanosleep is defined for. -/
def Valid : Sleep → Prop
  | .nanosleep req => 0 ≤ req.tv_sec.toInt ∧ 0 ≤ req.tv_nsec.toInt ∧ req.tv_nsec.toInt < 10 ^ 9
  | _ => True

/-- The timer is armed, for `fiber`, and its pointer dropped. -/
def arm (call : Sleep) (s : State) (address : Nat) (fiber : Callback) (now : UInt64) : Outcome TimerFault State :=
  match call.ms with
  | none => .blocked
  | some ms =>
      match TimerManager.step s (.addTimer address ms fiber false now) with
      | .next s' => TimerManager.step s' (.release s.manager.created)
      | o => o

/-- What the manager does afterwards. -/
def afterwards (s : TimerManager.State) : System TimerManager.State TimerManager.Action TimerFault where
  init := s
  step := TimerManager.step

/-- The timer lasts as long as the caller asks for, and its callback does not come out earlier. -/
structure Lasts (call : Sleep) (now : UInt64) : Prop where
  period : ∃ ms, call.ms = some ms ∧ call.nanoseconds ≤ ms.toNat * 10 ^ 6 ∧ now.toNat + ms.toNat < 2 ^ 64
  not_early : ∀ s address fiber armed, TimerManager.system.Reachable s → call.arm s address fiber now = .next armed →
    ∀ s', (afterwards armed).Reachable s' → ∀ probe now', s.manager.created ∈ s'.manager.expired probe now' →
      now.toNat * 10 ^ 6 + call.nanoseconds ≤ now'.toNat * 10 ^ 6

/-- The milliseconds of a request of nanosleep, rounded down. -/
def whole (req : timespec) : Nat := req.tv_sec.toInt.toNat * 1000 + req.tv_nsec.toInt.toNat / 10 ^ 6

/-- The arguments and the clock for which no conversion loses anything. The last case is a request that int turns into a
negative number and addTimer into a period of more than 500 million years. -/
def Fits (now : UInt64) : Sleep → Prop
  | .sleep seconds => seconds.toNat * 1000 < 2 ^ 32 ∧ now.toNat + seconds.toNat * 1000 < 2 ^ 64
  | .usleep usec => usec.toNat % 1000 = 0 ∧ now.toNat + usec.toNat / 1000 < 2 ^ 64
  | .nanosleep req =>
      req.tv_nsec.toInt.toNat % 10 ^ 6 = 0 ∧ whole req < 2 ^ 31 ∧ now.toNat + whole req < 2 ^ 64 ∨
        whole req < 2 ^ 63 ∧ 2 ^ 31 ≤ whole req % 2 ^ 32 ∧ now.toNat + whole req % 2 ^ 32 < 2 ^ 32

variable {call : Sleep} {s armed : State} {address : Nat} {fiber : Callback} {now : UInt64}

theorem arm_eq {ms : UInt64} (hms : call.ms = some ms) (harm : call.arm s address fiber now = .next armed) :
    ∃ added, TimerManager.step s (.addTimer address ms fiber false now) = .next added ∧
      TimerManager.step added (.release s.manager.created) = .next armed := by
  rw [arm, hms] at harm
  simp only at harm
  split at harm
  · next added hadd => exact ⟨added, hadd, harm⟩
  · next hnot => exact absurd harm (hnot armed)

theorem arm_armed {ms : UInt64} (hs : TimerManager.system.Reachable s) (hms : call.ms = some ms)
    (harm : call.arm s address fiber now = .next armed) : Armed s.manager.created (now + ms) armed := by
  obtain ⟨added, hadd, hrelease⟩ := arm_eq hms harm
  have hkept := ((kept_of_reachable hs).next hadd).next hrelease
  simp only [TimerManager.step, State.after] at hadd
  split at hadd
  · cases hadd
  · obtain rfl := Outcome.next.inj hadd
    obtain rfl := Outcome.next.inj hrelease
    refine ⟨hkept, ?_, ?_, ?_, ?_⟩
    all_goals simp [TimerManager.release, TimerManager.addTimer, Timer.new]

/-- A period that covers the request and does not wrap around covers it in every run. -/
theorem Lasts.of_period (h : ∃ ms, call.ms = some ms ∧ call.nanoseconds ≤ ms.toNat * 10 ^ 6 ∧
    now.toNat + ms.toNat < 2 ^ 64) : Lasts call now where
  period := h
  not_early := by
    intro s address fiber armed hs harm s' hs' probe now' hexpired
    obtain ⟨ms, hms, hperiod, hwrap⟩ := h
    have harmed : Armed s.manager.created (now + ms) s' :=
      Lib.System.Reach.invariant (arm_armed hs hms harm) (fun _ _ _ h _ hstep => h.step hstep) hs'
    have hle := UInt64.le_iff_toNat_le.mp (harmed.not_early hexpired)
    rw [UInt64.toNat_add, Nat.mod_eq_of_lt hwrap] at hle
    omega

theorem lasts_iff_period : Lasts call now ↔ ∃ ms, call.ms = some ms ∧ call.nanoseconds ≤ ms.toNat * 10 ^ 6 ∧
    now.toNat + ms.toNat < 2 ^ 64 :=
  ⟨Lasts.period, Lasts.of_period⟩

/-! ## The conversions -/

theorem sleep_toNat (seconds : UInt32) : (Hook.sleep seconds).toNat = seconds.toNat * 1000 % 2 ^ 32 := by
  simp [Hook.sleep]

theorem usleep_toNat (usec : UInt32) : (Hook.usleep usec).toNat = usec.toNat / 1000 := by
  simp [Hook.usleep]

theorem whole_eq {req : timespec} (hsec : 0 ≤ req.tv_sec.toInt) (hnsec : 0 ≤ req.tv_nsec.toInt) :
    req.tv_sec.toInt * 1000 + (req.tv_nsec.toInt.tdiv 1000).tdiv 1000 = whole req := by
  obtain ⟨sec, hsec⟩ := Int.eq_ofNat_of_zero_le hsec
  obtain ⟨nsec, hnsec⟩ := Int.eq_ofNat_of_zero_le hnsec
  have hdiv : ((nsec : Int).tdiv 1000).tdiv 1000 = (nsec / 1000 / 1000 : Nat) := by
    rw [Int.ofNat_tdiv, Int.ofNat_tdiv]
    rfl
  rw [whole, hsec, hnsec, hdiv, Nat.div_div_eq_div_mul]
  simp

theorem nanosleep_eq {req : timespec} (hvalid : (Sleep.nanosleep req).Valid) : Hook.nanosleep req =
    if whole req < 2 ^ 63 then some (UInt64.ofInt (Int.bmod (whole req) (2 ^ 32))) else none := by
  obtain ⟨hsec, hnsec, -⟩ := hvalid
  have hwhole := whole_eq hsec hnsec
  have hrest : 0 ≤ (req.tv_nsec.toInt.tdiv 1000).tdiv 1000 :=
    Int.tdiv_nonneg (Int.tdiv_nonneg hnsec (by decide)) (by decide)
  by_cases hproduct : req.tv_sec.toInt * 1000 < 2 ^ 63
  · have hsum : long (whole req) = if whole req < 2 ^ 63 then some (whole req : Int) else none := by
      rw [long]
      split <;> split <;> first | rfl | omega
    rw [Hook.nanosleep, long, if_pos ⟨by omega, hproduct⟩, Option.bind_eq_bind, Option.bind_some, hwhole, hsum]
    split <;> rfl
  · rw [Hook.nanosleep, long, if_neg fun h => hproduct h.2, if_neg (by omega)]
    rfl

theorem ofInt_toNat (x : Int) : (UInt64.ofInt x).toNat = (x % 2 ^ 64).toNat := by
  have hlt : (x % 2 ^ 64).toNat < 2 ^ 64 := by omega
  rw [UInt64.ofInt, UInt64.toNat_ofNat_of_lt' hlt]

theorem ofInt_bmod_of_lt {x : Nat} (h : x % 2 ^ 32 < 2 ^ 31) :
    (UInt64.ofInt (Int.bmod x (2 ^ 32))).toNat = x % 2 ^ 32 := by
  rw [ofInt_toNat, Int.bmod_def]
  split <;> omega

theorem ofInt_bmod_of_le {x : Nat} (h : 2 ^ 31 ≤ x % 2 ^ 32) :
    (UInt64.ofInt (Int.bmod x (2 ^ 32))).toNat = 2 ^ 64 - 2 ^ 32 + x % 2 ^ 32 := by
  rw [ofInt_toNat, Int.bmod_def]
  split <;> omega

/-! ## Each call -/

theorem sleep_lasts (seconds : UInt32) : Lasts (.sleep seconds) now ↔ Fits now (.sleep seconds) := by
  have hms := sleep_toNat seconds
  rw [lasts_iff_period]
  constructor
  · rintro ⟨ms, heq, hperiod, hwrap⟩
    cases heq
    simp only [nanoseconds] at hperiod
    constructor <;> omega
  · rintro ⟨hfits, hwrap⟩
    refine ⟨_, rfl, ?_, by omega⟩
    simp only [nanoseconds]
    omega

theorem usleep_lasts (usec : UInt32) : Lasts (.usleep usec) now ↔ Fits now (.usleep usec) := by
  have hms := usleep_toNat usec
  rw [lasts_iff_period]
  constructor
  · rintro ⟨ms, heq, hperiod, hwrap⟩
    cases heq
    simp only [nanoseconds] at hperiod
    constructor <;> omega
  · rintro ⟨hfits, hwrap⟩
    refine ⟨_, rfl, ?_, by omega⟩
    simp only [nanoseconds]
    omega

theorem nanosleep_lasts {req : timespec} (hvalid : (Sleep.nanosleep req).Valid) :
    Lasts (.nanosleep req) now ↔ Fits now (.nanosleep req) := by
  have hms := nanosleep_eq hvalid
  obtain ⟨-, -, hnsec⟩ := hvalid
  have hwhole : (Sleep.nanosleep req).nanoseconds = whole req * 10 ^ 6 + req.tv_nsec.toInt.toNat % 10 ^ 6 := by
    simp only [nanoseconds, whole]
    omega
  rw [lasts_iff_period, hwhole, Fits, ms, hms]
  by_cases hlong : whole req < 2 ^ 63
  · rw [if_pos hlong]
    simp only [Option.some.injEq, exists_eq_left']
    by_cases hsign : whole req % 2 ^ 32 < 2 ^ 31
    · rw [ofInt_bmod_of_lt hsign]
      omega
    · rw [ofInt_bmod_of_le (Nat.not_lt.mp hsign)]
      omega
  · rw [if_neg hlong]
    constructor
    · rintro ⟨ms, heq, -⟩
      cases heq
    · omega

/-- Each call lasts as long as its caller asks for exactly when its argument and the clock fit. -/
theorem lasts_iff (call : Sleep) (hvalid : call.Valid) (now : UInt64) : Lasts call now ↔ Fits now call := by
  cases call with
  | sleep seconds => exact sleep_lasts seconds
  | usleep usec => exact usleep_lasts usec
  | nanosleep req => exact nanosleep_lasts hvalid

/-- A second and a half. -/
theorem lasts_iff_nanosleep : Lasts (.nanosleep ⟨1, 500000000⟩) 1750000000000 :=
  (lasts_iff (.nanosleep ⟨1, 500000000⟩) ⟨by decide, by decide, by decide⟩ _).mpr (.inl (by decide))

/-- A request of 1 µs arms a timer that expires at once. -/
theorem not_lasts_usleep : ¬ ∀ call : Sleep, call.Valid → ∀ now, Lasts call now := by
  intro h
  obtain ⟨ms, hms, hperiod, -⟩ := (h (.usleep 1) trivial 1750000000000).period
  cases hms
  exact absurd hperiod (by decide)

end Sleep

end Hook

end Mingfwq
