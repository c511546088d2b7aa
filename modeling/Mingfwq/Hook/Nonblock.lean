import Mingfwq.FdManager.Model

/-!
# The two views of O_NONBLOCK (hook.cpp, fd_manager.h)

The kernel's status flags of a socket, what the context remembers of the user's wish, and what the hooked fcntl and
ioctl make of it. The hooks that would keep the two apart test isSocket the wrong way round, and getSysNonblock returns
the user's flag.
-/

namespace Mingfwq

open Lib

namespace Hook

/-- A word of status flags. -/
abbrev StatusFlags := BitVec 32

def O_NONBLOCK : StatusFlags := 0x800#32

/-- The flags that F_SETFL can change: O_APPEND, O_NONBLOCK, O_ASYNC, O_DIRECT and O_NOATIME. -/
def SETFL_MASK : StatusFlags := 0x46C00#32

/-- `flags & O_NONBLOCK` as a truth value. -/
def isNonblock (flags : StatusFlags) : Bool := flags &&& O_NONBLOCK != 0

/-- The bits other than O_NONBLOCK. -/
def others (flags : StatusFlags) : StatusFlags := flags &&& ~~~O_NONBLOCK

/-- `fcntl_f(fd, F_SETFL, arg)`: the flags afterwards; `rt` says whether it returns 0. -/
def setfl_f (flags arg : StatusFlags) (rt : Bool) : StatusFlags :=
  if rt then (flags &&& ~~~SETFL_MASK) ||| (arg &&& SETFL_MASK) else flags

/-- `ioctl_f(fd, FIONBIO, arg)` -/
def fionbio_f (flags : StatusFlags) (v rt : Bool) : StatusFlags :=
  if rt then (if v then flags ||| O_NONBLOCK else flags &&& ~~~O_NONBLOCK) else flags

/-- The flags of the descriptor after FdCtx::init. -/
def init_f (isSocket : Bool) (flags : StatusFlags) : StatusFlags :=
  if isSocket && !isNonblock flags then setfl_f flags (flags ||| O_NONBLOCK) true else flags

/-- F_SETFL up to the call of fcntl_f: the context afterwards, and the argument that fcntl_f gets. -/
def fcntl_setfl (ctx : Option FdCtx) (arg : StatusFlags) : Option FdCtx × StatusFlags :=
  match ctx with
  | none => (none, arg)
  | some ctx =>
      if ctx.m_isClosed || !ctx.m_isSocket then (some ctx, arg)
      else
        let ctx := ctx.setUserNonblock (isNonblock arg)
        (some ctx, if ctx.getSysNonblock then arg ||| O_NONBLOCK else arg &&& ~~~O_NONBLOCK)

/-- F_GETFL, after fcntl_f has returned `arg`. -/
def fcntl_getfl (ctx : Option FdCtx) (arg : StatusFlags) : StatusFlags :=
  match ctx with
  | none => arg
  | some ctx =>
      if ctx.m_isClosed || ctx.m_isSocket then arg
      else if ctx.getUserNonblock then arg ||| O_NONBLOCK
      else arg &&& ~~~O_NONBLOCK

/-- FIONBIO up to the call of ioctl_f. -/
def ioctl_fionbio (ctx : Option FdCtx) (user_nonblock : Bool) : Option FdCtx :=
  match ctx with
  | none => none
  | some ctx => if ctx.m_isClosed || ctx.m_isSocket then some ctx else some (ctx.setUserNonblock user_nonblock)

/-- A descriptor with its context. `asked` is not in the source: whether the last F_SETFL or FIONBIO of the user asked
for O_NONBLOCK. -/
structure Descriptor where
  ctx : Option FdCtx
  flags : StatusFlags
  asked : Bool
  deriving DecidableEq, Repr

namespace Descriptor

/-- A call, with whether the kernel lets it succeed. -/
inductive Action where
  | F_SETFL (arg : StatusFlags) (rt : Bool)
  | F_GETFL
  | fionbio (v rt : Bool)
  deriving DecidableEq, Repr

/-- The descriptor after a call. -/
def call (d : Descriptor) : Action → Descriptor
  | .F_SETFL arg rt =>
      let (ctx, arg') := fcntl_setfl d.ctx arg
      { ctx, flags := setfl_f d.flags arg' rt, asked := isNonblock arg }
  | .F_GETFL => d
  | .fionbio v rt => { ctx := ioctl_fionbio d.ctx v, flags := fionbio_f d.flags v rt, asked := v }

/-- A socket whose context is just created. -/
def new (fd : Int) (flags : StatusFlags) : Descriptor where
  ctx := some (.new fd (some true))
  flags := init_f true flags
  asked := false

def system (fd : Int) (flags : StatusFlags) : System Descriptor Action Empty where
  init := new fd flags
  step := fun d a => .next (d.call a)

/-- What a call on a socket owes: the flag of the kernel stays set, F_GETFL reports the wish of the user, and the other
bits pass through. -/
def Kept (d : Descriptor) (a : Action) : Prop :=
  isNonblock (d.call a).flags = true ∧
    match a with
    | .F_SETFL arg _ => others (fcntl_setfl d.ctx arg).2 = others arg
    | .F_GETFL => (isNonblock (fcntl_getfl d.ctx d.flags) = true ↔ d.asked = true) ∧
        others (fcntl_getfl d.ctx d.flags) = others d.flags
    | .fionbio _ _ => others (d.call a).flags = others d.flags

/-- The user asks for O_NONBLOCK in every call that succeeds, and before each F_GETFL. -/
def Asks (d : Descriptor) : Action → Prop
  | .F_SETFL arg rt => rt = true → isNonblock arg = true
  | .F_GETFL => d.asked = true
  | .fionbio v rt => rt = true → v = true

end Descriptor

/-! ## Bits -/

variable {flags arg : StatusFlags} {v rt : Bool}

theorem isNonblock_eq (flags : StatusFlags) : isNonblock flags = flags.getLsbD 11 := by
  have hbit : O_NONBLOCK = BitVec.twoPow 32 11 := by decide
  rw [isNonblock, hbit, BitVec.and_twoPow]
  cases flags.getLsbD 11 <;> decide

theorem isNonblock_setfl : isNonblock (setfl_f flags arg rt) = if rt then isNonblock arg else isNonblock flags := by
  have hmask : SETFL_MASK.getLsbD 11 = true := by decide
  cases rt with
  | false => rfl
  | true =>
      rw [setfl_f, if_pos rfl, if_pos rfl]
      simp only [isNonblock_eq, BitVec.getLsbD_or, BitVec.getLsbD_and, BitVec.getLsbD_not, hmask]
      simp

theorem isNonblock_fionbio : isNonblock (fionbio_f flags v rt) = if rt then v else isNonblock flags := by
  have hbit : O_NONBLOCK.getLsbD 11 = true := by decide
  cases rt with
  | false => rfl
  | true =>
      cases v <;> simp [fionbio_f, isNonblock_eq, hbit]

theorem getLsbD_O_NONBLOCK (i : Nat) : O_NONBLOCK.getLsbD i = decide (i = 11) := by
  have hbit : O_NONBLOCK = BitVec.twoPow 32 11 := by decide
  rw [hbit, BitVec.getLsbD_twoPow]
  by_cases h : i = 11
  · subst h
    rfl
  · simp [h, Ne.symm h]

theorem or_nonblock (h : isNonblock arg = true) : arg ||| O_NONBLOCK = arg := by
  rw [isNonblock_eq] at h
  refine BitVec.eq_of_getLsbD_eq fun i _ => ?_
  rw [BitVec.getLsbD_or, getLsbD_O_NONBLOCK]
  by_cases hi : i = 11
  · rw [hi, h]
    rfl
  · simp [hi]

theorem and_not_nonblock (h : isNonblock arg = false) : arg &&& ~~~O_NONBLOCK = arg := by
  rw [isNonblock_eq] at h
  refine BitVec.eq_of_getLsbD_eq fun i hlt => ?_
  rw [BitVec.getLsbD_and, BitVec.getLsbD_not, getLsbD_O_NONBLOCK]
  by_cases hi : i = 11
  · rw [hi, h]
    rfl
  · simp [hi, hlt]

theorem others_fionbio : others (fionbio_f flags v rt) = others flags := by
  refine BitVec.eq_of_getLsbD_eq fun i hlt => ?_
  cases rt with
  | false => rfl
  | true =>
      cases v <;> simp only [fionbio_f, others, if_true, Bool.false_eq_true, if_false, BitVec.getLsbD_and,
        BitVec.getLsbD_or, BitVec.getLsbD_not, getLsbD_O_NONBLOCK, hlt, decide_true, Bool.true_and]
      · rw [Bool.and_assoc, Bool.and_self]
      · rw [Bool.and_or_distrib_right, Bool.and_not_self, Bool.or_false]

/-! ## What the hooks come to -/

/-- The context of a socket that is not closed. -/
structure Managed (ctx : Option FdCtx) : Prop where
  socket : ∃ c, ctx = some c ∧ c.m_isSocket = true ∧ c.m_isClosed = false

/-- The flag that getSysNonblock returns has just been set to what the user asks for. -/
theorem fcntl_setfl_eq {ctx : Option FdCtx} (h : Managed ctx) :
    (fcntl_setfl ctx arg).2 = arg ∧ Managed (fcntl_setfl ctx arg).1 := by
  obtain ⟨c, rfl, hsocket, hclosed⟩ := h
  have hbranch : (c.m_isClosed || !c.m_isSocket) = false := by rw [hclosed, hsocket]; rfl
  simp only [fcntl_setfl, hbranch, Bool.false_eq_true, if_false, FdCtx.getSysNonblock, FdCtx.setUserNonblock]
  refine ⟨?_, ⟨_, rfl, hsocket, hclosed⟩⟩
  cases hasks : isNonblock arg with
  | true => exact or_nonblock hasks
  | false => exact and_not_nonblock hasks

theorem fcntl_getfl_eq {ctx : Option FdCtx} (h : Managed ctx) : fcntl_getfl ctx flags = flags := by
  obtain ⟨c, rfl, hsocket, hclosed⟩ := h
  simp only [fcntl_getfl, hclosed, hsocket, Bool.or_true, if_true]

theorem ioctl_fionbio_eq {ctx : Option FdCtx} (h : Managed ctx) : ioctl_fionbio ctx v = ctx := by
  obtain ⟨c, rfl, hsocket, hclosed⟩ := h
  simp only [ioctl_fionbio, hclosed, hsocket, Bool.or_true, if_true]

/-! ## A run -/

namespace Descriptor

variable {d d' : Descriptor} {a : Action}

/-- A socket that is nonblocking in the kernel. -/
structure Sound (d : Descriptor) : Prop where
  managed : Managed d.ctx
  nonblock : isNonblock d.flags = true

theorem Sound.new (fd : Int) (flags : StatusFlags) : Sound (new fd flags) where
  managed := ⟨_, rfl, rfl, rfl⟩
  nonblock := by
    rw [Descriptor.new, init_f]
    cases h : isNonblock flags with
    | true => simpa using h
    | false =>
        simp only [Bool.not_false, Bool.and_self, if_true, isNonblock_setfl]
        rw [isNonblock_eq, BitVec.getLsbD_or, getLsbD_O_NONBLOCK]
        simp

theorem Sound.nonblock_call (h : Sound d) (a : Action) :
    isNonblock (d.call a).flags = match a with
      | .F_SETFL arg true => isNonblock arg
      | .fionbio v true => v
      | _ => true := by
  cases a with
  | F_SETFL arg rt =>
      simp only [call, (fcntl_setfl_eq h.managed).1, isNonblock_setfl, h.nonblock]
      cases rt <;> rfl
  | F_GETFL => exact h.nonblock
  | fionbio v rt =>
      simp only [call, isNonblock_fionbio, h.nonblock]
      cases rt <;> rfl

theorem Sound.kept_iff (h : Sound d) (a : Action) : Kept d a ↔ Asks d a := by
  unfold Kept
  rw [h.nonblock_call a]
  cases a with
  | F_SETFL arg rt =>
      have harg : (fcntl_setfl d.ctx arg).2 = arg := (fcntl_setfl_eq h.managed).1
      cases rt <;> simp [Asks, harg]
  | F_GETFL => simp [Asks, fcntl_getfl_eq h.managed, h.nonblock]
  | fionbio v rt =>
      have hothers : others (d.call (.fionbio v rt)).flags = others d.flags := others_fionbio
      cases rt <;> simp [Asks, hothers]

theorem Sound.call (h : Sound d) (hok : Asks d a) : Sound (d.call a) := by
  refine ⟨?_, ((h.kept_iff a).mpr hok).1⟩
  cases a with
  | F_SETFL arg rt => exact (fcntl_setfl_eq h.managed).2
  | F_GETFL => exact h.managed
  | fionbio v rt =>
      simp only [Descriptor.call, ioctl_fionbio_eq h.managed]
      exact h.managed

/-- In a run of hooked calls on a socket the two views are kept apart exactly when the user never asks for anything
but O_NONBLOCK. -/
theorem flags_kept_iff (fd : Int) (flags : StatusFlags) (as : List Action) :
    (∀ q ∈ (system fd flags).trace (system fd flags).init as, Kept q.1 q.2) ↔
      ∀ q ∈ (system fd flags).trace (system fd flags).init as, Asks q.1 q.2 := by
  have hgood : ∀ d a, Sound d → (system fd flags).step d a ≠ .blocked → (Kept d a ↔ Asks d a) :=
    fun d a hsound _ => hsound.kept_iff a
  have hstep : ∀ d a d', Sound d → Asks d a → (system fd flags).step d a = .next d' → Sound d' := by
    intro d a d' hsound hok hs
    cases hs
    exact hsound.call hok
  exact System.trace_iff hgood hstep (.new fd flags) as

/-- The user makes the socket blocking again: the kernel's flag is gone. -/
theorem not_kept_blocking : ¬ ∀ (fd : Int) (flags : StatusFlags) (as : List Action),
    ∀ q ∈ (system fd flags).trace (system fd flags).init as, Kept q.1 q.2 := by
  intro h
  have hkept := h 5 2 [.F_SETFL 2 true] (new 5 2, .F_SETFL 2 true) (by simp [System.trace, system])
  have hflag : isNonblock ((new 5 2).call (.F_SETFL 2 true)).flags = false := by decide
  rw [hkept.1] at hflag
  cases hflag

end Descriptor

end Hook

end Mingfwq
