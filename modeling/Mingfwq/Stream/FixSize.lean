import Mathlib.Tactic.IntervalCases
import Mingfwq.Stream.Model

/-!
# Transfers of a fixed size (stream.cpp)

`readFixSize` and `writeFixSize` call read or write until all has been transferred. What these return is a script, one
`int` for each call. The addresses are relative: to the buffer, or to the cursor of the ByteArray at the beginning.
-/

namespace Mingfwq.Stream

/-- A call of the underlying read or write. -/
structure Call where
  address : UInt64
  size : UInt64
  deriving DecidableEq, Repr

/-- The conversion of an `int` to size_t. -/
def size_t (len : Int32) : UInt64 := len.toInt64.toUInt64

/-- The loop, from its `k`-th call on: the calls it makes, and what it returns if it does so within the fuel. `move`
is what becomes of the address. -/
def fixSizeLoop (move : UInt64 → Int32 → UInt64) (script : Nat → Int32) (length : UInt64) :
    Nat → Nat → UInt64 → UInt64 → List Call × Option Int
  | 0, _, _, _ => ([], none)
  | fuel + 1, k, address, left =>
      if left > 0 then
        let len := size_t (script k)
        if len ≤ 0 then ([⟨address, left⟩], some (toInt32 len.toNat))
        else
          let (calls, r) := fixSizeLoop move script length fuel (k + 1) (move address (script k)) (left - len)
          (⟨address, left⟩ :: calls, r)
      else ([], some (toInt32 length.toNat))

/-- `offset += len`. -/
def advance (offset : UInt64) (len : Int32) : UInt64 := offset + size_t len

/-- read and write themselves move the cursor, past what they have transferred. -/
def setPosition (position : UInt64) (rt : Int32) : UInt64 := if rt > 0 then position + size_t rt else position

def readFixSize (script : Nat → Int32) (length : UInt64) (fuel : Nat) : List Call × Option Int :=
  fixSizeLoop advance script length fuel 0 0 length

/-- `readFixSize(ByteArray::ptr, length)`. -/
def readFixSizeBa (script : Nat → Int32) (length : UInt64) (fuel : Nat) : List Call × Option Int :=
  fixSizeLoop setPosition script length fuel 0 0 length

def writeFixSize (script : Nat → Int32) (length : UInt64) (fuel : Nat) : List Call × Option Int :=
  fixSizeLoop advance script length fuel 0 0 length

/-- `writeFixSize(ByteArray::ptr, length)`. -/
def writeFixSizeBa (script : Nat → Int32) (length : UInt64) (fuel : Nat) : List Call × Option Int :=
  fixSizeLoop setPosition script length fuel 0 0 length

/-! ## What is promised -/

/-- The sum of the first results. -/
def total (script : Nat → Int32) : Nat → Int
  | 0 => 0
  | n + 1 => total script n + (script n).toInt

/-- The first `n` results are positive. -/
def Positive (script : Nat → Int32) (n : Nat) : Prop := ∀ i < n, 0 < (script i).toInt

/-- No positive result exceeds what is missing. -/
def Legal (script : Nat → Int32) (length : UInt64) : Prop :=
  ∀ k, Positive script k → total script k < length.toNat → (script k).toInt ≤ length.toNat - total script k

/-- All is transferred before a call fails. -/
def Completes (script : Nat → Int32) (length : UInt64) : Prop :=
  ∃ n, Positive script n ∧ total script n = length.toNat

/-- The `k`-th call is the first with a result that is not positive, and something is missing. -/
structure FailsAt (script : Nat → Int32) (length : UInt64) (k : Nat) : Prop where
  before : Positive script k
  missing : total script k < length.toNat
  result : (script k).toInt ≤ 0

/-- A transfer of `length` bytes: it returns `length` exactly when all is transferred, otherwise the first result that
is not positive, and nothing is called after it; each call starts where the one before has ended and stays in the
bounds. -/
structure Exact (run : Nat → List Call × Option Int) (script : Nat → Int32) (length : UInt64) : Prop where
  returns : (∃ fuel, (run fuel).2 = some (length.toNat : Int)) ↔ Completes script length
  fails : ¬ Completes script length → ∃ k fuel, FailsAt script length k ∧ (run fuel).2 = some (script k).toInt ∧
    (run fuel).1.length = k + 1
  calls : ∀ fuel k c, (run fuel).1[k]? = some c → (c.address.toNat : Int) = total script k ∧
    c.address.toNat + c.size.toNat = length.toNat

/-! ## The script -/

section Script

variable {script : Nat → Int32} {length : UInt64} {n k : Nat}

theorem Positive.total_nonneg (h : Positive script n) : 0 ≤ total script n := by
  induction n with
  | zero => exact Int.le_refl 0
  | succ n ih =>
      have hn := h n (Nat.lt_succ_self n)
      have := ih fun i hi => h i (Nat.lt_succ_of_lt hi)
      rw [total]
      omega

theorem Positive.total_lt (h : Positive script n) (hk : k < n) : total script k < total script n := by
  induction n with
  | zero => omega
  | succ n ih =>
      have hn := h n (Nat.lt_succ_self n)
      have ih := ih fun i hi => h i (Nat.lt_succ_of_lt hi)
      rw [total]
      rcases Nat.lt_succ_iff_lt_or_eq.mp hk with hk | rfl
      · have := ih hk
        omega
      · omega

theorem Positive.le_total (h : Positive script n) : (n : Int) ≤ total script n := by
  induction n with
  | zero => exact Int.le_refl 0
  | succ n ih =>
      have hn := h n (Nat.lt_succ_self n)
      have := ih fun i hi => h i (Nat.lt_succ_of_lt hi)
      rw [total]
      omega

theorem completes_or_fails (h : Legal script length) : Completes script length ∨ ∃ k, FailsAt script length k := by
  by_contra hnot
  have hgoes : ∀ n, Positive script n ∧ total script n < length.toNat := by
    intro n
    induction n with
    | zero =>
        refine ⟨by simp [Positive], ?_⟩
        by_contra hle
        exact hnot (.inl ⟨0, by simp [Positive], by rw [total] at *; omega⟩)
    | succ n ih =>
        obtain ⟨hpositive, hmissing⟩ := ih
        have hn : 0 < (script n).toInt := by
          by_contra hle
          exact hnot (.inr ⟨n, hpositive, hmissing, Int.not_lt.mp hle⟩)
        have hsucc : Positive script (n + 1) := by
          intro i hi
          rcases Nat.lt_succ_iff_lt_or_eq.mp hi with hi | rfl
          · exact hpositive i hi
          · exact hn
        refine ⟨hsucc, ?_⟩
        have hlegal := h n hpositive hmissing
        by_contra hle
        exact hnot (.inl ⟨n + 1, hsucc, by rw [total] at *; omega⟩)
  obtain ⟨hpositive, hmissing⟩ := hgoes length.toNat
  have := hpositive.le_total
  omega

theorem FailsAt.not_completes (h : FailsAt script length k) : ¬ Completes script length := by
  rintro ⟨n, hpositive, htotal⟩
  have hmissing := h.missing
  rcases Nat.lt_trichotomy k n with hlt | rfl | hgt
  · have := hpositive k hlt
    have := h.result
    omega
  · omega
  · have := h.before.total_lt hgt
    omega

theorem FailsAt.unique {j : Nat} (h : FailsAt script length k) (hj : FailsAt script length j) : k = j := by
  rcases Nat.lt_trichotomy k j with hlt | heq | hgt
  · have := hj.before k hlt
    have := h.result
    omega
  · exact heq
  · have := h.before j hgt
    have := hj.result
    omega

end Script

/-! ## The loop -/

section Loop

variable {move : UInt64 → Int32 → UInt64} {script : Nat → Int32} {length : UInt64} {n k : Nat}

/-- A negative result is converted to a number close to 2^64. -/
theorem size_t_toNat (len : Int32) :
    ((size_t len).toNat : Int) = if len.toInt < 0 then 2 ^ 64 + len.toInt else len.toInt := by
  have hsame : len.toInt64.toBitVec.toInt = len.toInt := Int32.toInt_toInt64 len
  have hbits : (size_t len).toNat = len.toInt64.toBitVec.toNat := rfl
  have hlt := len.toInt64.toBitVec.isLt
  rw [BitVec.toInt_eq_toNat_cond] at hsame
  rw [hbits]
  split at hsame <;> split <;> omega

theorem size_t_le_zero (len : Int32) : size_t len ≤ 0 ↔ len.toInt = 0 := by
  have hlen := size_t_toNat len
  have hlow := len.le_toInt
  rw [UInt64.le_iff_toNat_le, UInt64.toNat_zero]
  split at hlen <;> omega

/-- Where the next call starts after the first `n` results. -/
def address (script : Nat → Int32) (n : Nat) : UInt64 := UInt64.ofNat (total script n).toNat

theorem address_toNat (hpositive : Positive script n) (hle : total script n ≤ length.toNat) :
    ((address script n).toNat : Int) = total script n := by
  have hnonneg := hpositive.total_nonneg
  have hlt := length.toNat_lt
  rw [address, UInt64.toNat_ofNat_of_lt' (by rw [UInt64.size]; omega)]
  omega

theorem left_toNat (hpositive : Positive script n) (hle : total script n ≤ length.toNat) :
    ((length - address script n).toNat : Int) = length.toNat - total script n := by
  have haddress := address_toNat hpositive hle
  rw [UInt64.toNat_sub_of_le _ _ (UInt64.le_iff_toNat_le.mpr (by omega))]
  omega

/-- The first `n` calls, as long as all results are positive. -/
def firstCalls (script : Nat → Int32) (length : UInt64) (n : Nat) : List Call :=
  (List.range n).map fun i => ⟨address script i, length - address script i⟩

theorem firstCalls_succ : firstCalls script length (n + 1) =
    firstCalls script length n ++ [⟨address script n, length - address script n⟩] := by
  rw [firstCalls, List.range_succ, List.map_append]
  rfl

/-- A call after which the loop goes on. -/
theorem fixSizeLoop_succ {fuel : Nat} {a left : UInt64} (hleft : left > 0) (hlen : ¬ size_t (script k) ≤ 0) :
    fixSizeLoop move script length (fuel + 1) k a left =
      (⟨a, left⟩ :: (fixSizeLoop move script length fuel (k + 1) (move a (script k)) (left - size_t (script k))).1,
        (fixSizeLoop move script length fuel (k + 1) (move a (script k)) (left - size_t (script k))).2) := by
  rw [fixSizeLoop, if_pos hleft]
  simp only [if_neg hlen]

/-- With more fuel the loop makes the same calls first, and where it has returned it does the same. -/
theorem fixSizeLoop_mono (fuel more : Nat) (a left : UInt64) :
    (fixSizeLoop move script length fuel k a left).1 <+: (fixSizeLoop move script length (fuel + more) k a left).1 ∧
      ∀ r, (fixSizeLoop move script length fuel k a left).2 = some r →
        fixSizeLoop move script length (fuel + more) k a left = fixSizeLoop move script length fuel k a left := by
  induction fuel generalizing k a left with
  | zero => exact ⟨List.nil_prefix, by simp [fixSizeLoop]⟩
  | succ fuel ih =>
      rw [Nat.add_right_comm]
      by_cases hleft : left > 0
      · by_cases hlen : size_t (script k) ≤ 0
        · simp [fixSizeLoop, hleft, hlen]
        · obtain ⟨hpre, hsame⟩ := @ih (k + 1) (move a (script k)) (left - size_t (script k))
          rw [fixSizeLoop_succ hleft hlen, fixSizeLoop_succ hleft hlen]
          refine ⟨List.cons_prefix_cons.mpr ⟨rfl, hpre⟩, fun r hr => ?_⟩
          rw [hsame r hr]
      · simp [fixSizeLoop, hleft]

/-- After `n` positive results. -/
theorem fixSizeLoop_walk (hmove : ∀ a r, 0 < r.toInt → move a r = a + size_t r) (hpositive : Positive script n)
    (hle : total script n ≤ length.toNat) (fuel : Nat) :
    fixSizeLoop move script length (n + fuel) 0 0 length =
      (firstCalls script length n ++
          (fixSizeLoop move script length fuel n (address script n) (length - address script n)).1,
        (fixSizeLoop move script length fuel n (address script n) (length - address script n)).2) := by
  induction n generalizing fuel with
  | zero =>
      have hzero : address script 0 = 0 := rfl
      simp [firstCalls, hzero]
  | succ n ih =>
      have hbefore : Positive script n := fun i hi => hpositive i (Nat.lt_succ_of_lt hi)
      have hn := hpositive n (Nat.lt_succ_self n)
      have hmissing := hpositive.total_lt (Nat.lt_succ_self n)
      have hsize := size_t_toNat (script n)
      rw [if_neg (by omega)] at hsize
      have haddress := address_toNat hbefore (Int.le_of_lt (Int.lt_of_lt_of_le hmissing hle))
      have hleft := left_toNat hbefore (Int.le_of_lt (Int.lt_of_lt_of_le hmissing hle))
      have haddress' := address_toNat hpositive hle
      have hleft' := left_toNat hpositive hle
      have hlt := length.toNat_lt
      have hpos : length - address script n > 0 := by
        rw [gt_iff_lt, UInt64.lt_iff_toNat_lt, UInt64.toNat_zero]
        omega
      have hmoved : move (address script n) (script n) = address script (n + 1) := by
        rw [hmove _ _ hn, ← UInt64.toNat_inj, UInt64.toNat_add]
        rw [total] at *
        omega
      have hrest : length - address script n - size_t (script n) = length - address script (n + 1) := by
        rw [← UInt64.toNat_inj, UInt64.toNat_sub_of_le _ _ (by rw [UInt64.le_iff_toNat_le]; rw [total] at *; omega)]
        rw [total] at *
        omega
      rw [Nat.succ_add_eq_add_succ, ih hbefore (by omega), fixSizeLoop_succ hpos, hmoved, hrest, firstCalls_succ,
        List.append_assoc]
      · rfl
      · rw [size_t_le_zero]
        omega

/-- A run that makes the first `m` calls and returns `r` decides all of them. -/
theorem fixSizeLoop_decided {m : Nat} {r : Int}
    (hrun : fixSizeLoop move script length n 0 0 length = (firstCalls script length m, some r)) (fuel : Nat) :
    (fixSizeLoop move script length fuel 0 0 length).1 <+: firstCalls script length m ∧
      ∀ r', (fixSizeLoop move script length fuel 0 0 length).2 = some r' →
        fixSizeLoop move script length fuel 0 0 length = (firstCalls script length m, some r) := by
  rcases Nat.le_total fuel n with hle | hle
  · obtain ⟨more, rfl⟩ := Nat.exists_eq_add_of_le hle
    obtain ⟨hpre, hsame⟩ := @fixSizeLoop_mono move script length 0 fuel more 0 length
    rw [hrun] at hpre hsame
    exact ⟨hpre, fun r' hr' => (hsame r' hr').symm⟩
  · obtain ⟨more, rfl⟩ := Nat.exists_eq_add_of_le hle
    obtain ⟨-, hsame⟩ := @fixSizeLoop_mono move script length 0 n more 0 length
    rw [hsame r (by rw [hrun]), hrun]
    exact ⟨List.prefix_rfl, fun _ _ => rfl⟩

/-- The calls before a failure, and the failing one, keep to the bounds. -/
theorem firstCalls_bounds {m : Nat} (hbounds : ∀ i < m, Positive script i ∧ total script i ≤ length.toNat)
    {calls : List Call} (hpre : calls <+: firstCalls script length m) {c : Call} (hc : calls[k]? = some c) :
    (c.address.toNat : Int) = total script k ∧ c.address.toNat + c.size.toNat = length.toNat := by
  obtain ⟨rest, hrest⟩ := hpre
  have hk : k < calls.length := (List.getElem?_eq_some_iff.mp hc).1
  have hkm : k < m := by
    have := congrArg List.length hrest
    simp only [List.length_append, firstCalls, List.length_map, List.length_range] at this
    omega
  have hfirst : (firstCalls script length m)[k]? = some c := by
    rw [← hrest, List.getElem?_append_left hk, hc]
  simp only [firstCalls, List.getElem?_map, List.getElem?_range hkm, Option.map_some, Option.some.injEq] at hfirst
  subst hfirst
  obtain ⟨hpositive, hle⟩ := hbounds k hkm
  have haddress := address_toNat hpositive hle
  have hleft := left_toNat hpositive hle
  refine ⟨haddress, ?_⟩
  dsimp only
  omega

/-! ## When the promise is kept -/

/-- The call that fails returns 0, and a length that is transferred fits into an `int`. A negative result is only
returned for a length that it completes to 2^64. -/
structure Fits (script : Nat → Int32) (length : UInt64) : Prop where
  fails : ∀ k, FailsAt script length k → (script k).toInt < 0 → k = 0 ∧ (length.toNat : Int) = 2 ^ 64 + (script 0).toInt
  completes : Completes script length → length.toNat < 2 ^ 31

/-- All is transferred by `n` calls. -/
theorem run_completes (hmove : ∀ a r, 0 < r.toInt → move a r = a + size_t r) (hpositive : Positive script n)
    (htotal : total script n = length.toNat) :
    fixSizeLoop move script length (n + 1) 0 0 length = (firstCalls script length n, some (toInt32 length.toNat)) := by
  have hleft := left_toNat hpositive (Int.le_of_eq htotal)
  have hzero : ¬ length - address script n > 0 := by
    rw [gt_iff_lt, UInt64.lt_iff_toNat_lt, UInt64.toNat_zero]
    omega
  rw [fixSizeLoop_walk hmove hpositive (Int.le_of_eq htotal), fixSizeLoop, if_neg hzero, List.append_nil]

theorem FailsAt.left_pos (h : FailsAt script length k) : length - address script k > 0 := by
  have hleft := left_toNat h.before (Int.le_of_lt h.missing)
  have := h.missing
  rw [gt_iff_lt, UInt64.lt_iff_toNat_lt, UInt64.toNat_zero]
  omega

/-- A call that returns 0 ends the loop. -/
theorem run_zero (hmove : ∀ a r, 0 < r.toInt → move a r = a + size_t r) (h : FailsAt script length k)
    (hzero : (script k).toInt = 0) :
    fixSizeLoop move script length (k + 1) 0 0 length = (firstCalls script length (k + 1), some 0) := by
  have hlen : size_t (script k) = 0 := by
    have hsize := size_t_toNat (script k)
    rw [hzero] at hsize
    rw [← UInt64.toNat_inj, UInt64.toNat_zero]
    simpa using hsize
  have hreturn : toInt32 (0 : UInt64).toNat = 0 := by decide
  rw [fixSizeLoop_walk hmove h.before (Int.le_of_lt h.missing), fixSizeLoop, if_pos h.left_pos, firstCalls_succ]
  simp only [hlen, UInt64.le_refl, if_true, hreturn]

theorem wraps_iff {left len : Nat} {rt : Int} (hlen : (len : Int) = 2 ^ 64 + rt) (hlow : -2 ^ 31 ≤ rt) (hneg : rt < 0)
    (hlt : left < 2 ^ 64) : (2 ^ 64 - len + left) % 2 ^ 64 = 0 ↔ (left : Int) = 2 ^ 64 + rt := by
  omega

/-- What is missing after a negative result: more than before. -/
theorem FailsAt.left_negative (h : FailsAt script length k) (hneg : (script k).toInt < 0) :
    length - address script k - size_t (script k) = 0 ↔
      (length.toNat : Int) - total script k = 2 ^ 64 + (script k).toInt := by
  have hleft := left_toNat h.before (Int.le_of_lt h.missing)
  have hsize := size_t_toNat (script k)
  rw [if_pos hneg] at hsize
  have hlt := (length - address script k).toNat_lt
  have hlow := (script k).le_toInt
  rw [← UInt64.toNat_inj, UInt64.toNat_zero, UInt64.toNat_sub, wraps_iff hsize hlow hneg hlt, ← hleft]

/-- A negative result does not end the loop, unless it completes the length to 2^64. -/
theorem run_negative (hmove : ∀ a r, 0 < r.toInt → move a r = a + size_t r) (h : FailsAt script length k)
    (hneg : (script k).toInt < 0) :
    if (length.toNat : Int) - total script k = 2 ^ 64 + (script k).toInt then
      fixSizeLoop move script length (k + 2) 0 0 length =
        (firstCalls script length (k + 1), some (toInt32 length.toNat))
    else k + 2 ≤ (fixSizeLoop move script length (k + 2) 0 0 length).1.length := by
  have hlen : ¬ size_t (script k) ≤ 0 := by
    rw [size_t_le_zero]
    omega
  have hcalls : (firstCalls script length k).length = k := by simp [firstCalls]
  rw [fixSizeLoop_walk hmove h.before (Int.le_of_lt h.missing), fixSizeLoop_succ h.left_pos hlen]
  split
  · next hwhole =>
      rw [(h.left_negative hneg).mpr hwhole, fixSizeLoop, if_neg (by decide), firstCalls_succ]
  · next hmore =>
      have hleft := mt (h.left_negative hneg).mp hmore
      have hpos : length - address script k - size_t (script k) > 0 := UInt64.pos_iff_ne_zero.mpr hleft
      rw [List.length_append, List.length_cons, hcalls, fixSizeLoop, if_pos hpos]
      by_cases hnext : size_t (script (k + 1)) ≤ 0
      · simp [hnext]
      · simp [hnext]

/-- A run that has made as many calls as are due, with what it returns. -/
theorem Exact.of_run {m : Nat} {r : Int} (hbounds : ∀ i < m, Positive script i ∧ total script i ≤ length.toNat)
    (hrun : fixSizeLoop move script length n 0 0 length = (firstCalls script length m, some r))
    (hreturns : r = length.toNat ↔ Completes script length)
    (hfails : ¬ Completes script length → ∃ k, FailsAt script length k ∧ r = (script k).toInt ∧ m = k + 1) :
    Exact (fun fuel => fixSizeLoop move script length fuel 0 0 length) script length where
  returns := by
    rw [← hreturns]
    constructor
    · rintro ⟨fuel, hr⟩
      rw [(fixSizeLoop_decided hrun fuel).2 _ hr] at hr
      exact Option.some.inj hr
    · rintro rfl
      exact ⟨n, congrArg Prod.snd hrun⟩
  fails := by
    intro hnot
    obtain ⟨k, hk, hr, hm⟩ := hfails hnot
    refine ⟨k, n, hk, ?_, ?_⟩
    · rw [hrun, hr]
    · rw [hrun, hm]
      simp [firstCalls]
  calls := fun fuel _ _ hc => firstCalls_bounds hbounds (fixSizeLoop_decided hrun fuel).1 hc

theorem FailsAt.bounds (h : FailsAt script length k) :
    ∀ i < k + 1, Positive script i ∧ total script i ≤ length.toNat := by
  intro i hi
  refine ⟨fun j hj => h.before j (by omega), ?_⟩
  have hmissing := h.missing
  rcases Nat.lt_succ_iff_lt_or_eq.mp hi with hi | rfl
  · have := h.before.total_lt hi
    omega
  · omega

theorem toInt32_eq_self (x : Nat) : toInt32 x = x ↔ x < 2 ^ 31 := by
  rw [toInt32, Int.bmod_def]
  split <;> omega

/-- A length that a negative result completes to 2^64 is that result as an `int`, unless something was transferred. -/
theorem toInt32_wraps {x : Nat} {t rt : Int} (hx : (x : Int) - t = 2 ^ 64 + rt) (hlt : x < 2 ^ 64) (hlow : -2 ^ 31 ≤ rt)
    (hneg : rt < 0) (ht : 0 ≤ t) : toInt32 x = rt ↔ t = 0 := by
  rw [toInt32, Int.bmod_def]
  split <;> omega

theorem exact_iff_fits (hmove : ∀ a r, 0 < r.toInt → move a r = a + size_t r) (hlegal : Legal script length) :
    Exact (fun fuel => fixSizeLoop move script length fuel 0 0 length) script length ↔ Fits script length := by
  constructor
  · intro hexact
    constructor
    · intro k hk hneg
      obtain ⟨j, fuel, hj, hr, hcalls⟩ := hexact.fails hk.not_completes
      obtain rfl := hk.unique hj
      have hrun := run_negative hmove hk hneg
      split at hrun
      · next hwhole =>
          rw [(fixSizeLoop_decided hrun fuel).2 _ hr] at hr
          have hnothing := (toInt32_wraps hwhole length.toNat_lt (script k).le_toInt hneg hk.before.total_nonneg).mp
            (Option.some.inj hr)
          have hk0 : k = 0 := by
            have := hk.before.le_total
            omega
          subst hk0
          exact ⟨rfl, by omega⟩
      · -- the run has gone on
        exfalso
        rcases Nat.le_total fuel (k + 2) with hle | hle
        all_goals obtain ⟨more, hmore⟩ := Nat.exists_eq_add_of_le hle
        · rw [hmore, (fixSizeLoop_mono fuel more 0 length).2 _ hr, hcalls] at hrun
          omega
        · have hpre := (@fixSizeLoop_mono move script length 0 (k + 2) more 0 length).1.length_le
          rw [← hmore, hcalls] at hpre
          omega
    · rintro ⟨n, hpositive, htotal⟩
      obtain ⟨fuel, hr⟩ := hexact.returns.mpr ⟨n, hpositive, htotal⟩
      rw [(fixSizeLoop_decided (run_completes hmove hpositive htotal) fuel).2 _ hr] at hr
      exact (toInt32_eq_self _).mp (Option.some.inj hr)
  · intro hfits
    rcases completes_or_fails hlegal with ⟨n, hpositive, htotal⟩ | ⟨k, hk⟩
    · have hlt := hfits.completes ⟨n, hpositive, htotal⟩
      have hr : toInt32 length.toNat = length.toNat := (toInt32_eq_self _).mpr hlt
      apply Exact.of_run _ (run_completes hmove hpositive htotal)
      · exact iff_of_true hr ⟨n, hpositive, htotal⟩
      · exact fun hnot => absurd ⟨n, hpositive, htotal⟩ hnot
      · intro i hi
        have := hpositive.total_lt hi
        exact ⟨fun j hj => hpositive j (by omega), by omega⟩
    · have hnot := hk.not_completes
      have hnonneg := hk.before.total_nonneg
      have hmissing := hk.missing
      rcases Int.lt_or_eq_of_le hk.result with hneg | hzero
      · obtain ⟨rfl, hwhole⟩ := hfits.fails k hk hneg
        have hrun := run_negative hmove hk hneg
        rw [if_pos (by rw [total]; omega)] at hrun
        have hr : toInt32 length.toNat = (script 0).toInt :=
          (toInt32_wraps (t := 0) (by omega) length.toNat_lt (script 0).le_toInt hneg (Int.le_refl 0)).mpr rfl
        apply Exact.of_run hk.bounds hrun
        · exact iff_of_false (by omega) hnot
        · exact fun _ => ⟨0, hk, hr, rfl⟩
      · apply Exact.of_run hk.bounds (run_zero hmove hk hzero)
        · exact iff_of_false (by omega) hnot
        · exact fun _ => ⟨k, hk, hzero.symm, rfl⟩

end Loop

theorem move_advance (a : UInt64) (r : Int32) (_ : 0 < r.toInt) : advance a r = a + size_t r := rfl

theorem move_setPosition (a : UInt64) (r : Int32) (hr : 0 < r.toInt) : setPosition a r = a + size_t r :=
  if_pos (Int32.lt_iff_toInt_lt.mpr (by simpa using hr))

/-- Both overloads of both functions keep their promise exactly for the same scripts. -/
theorem fixSize_iff (script : Nat → Int32) (length : UInt64) (hlegal : Legal script length) :
    ∀ f ∈ [readFixSize, readFixSizeBa, writeFixSize, writeFixSizeBa],
      Exact (f script length) script length ↔ Fits script length := by
  simp only [List.forall_mem_cons, List.not_mem_nil, false_imp_iff, implies_true, and_true]
  exact ⟨exact_iff_fits move_advance hlegal, exact_iff_fits move_setPosition hlegal,
    exact_iff_fits move_advance hlegal, exact_iff_fits move_setPosition hlegal⟩

/-- Ten bytes in two halves. -/
def halves (k : Nat) : Int32 := if k < 2 then 5 else 0

theorem fixSize_iff_halves : Exact (readFixSize halves 10) halves 10 := by
  have hend : ∀ k, Positive halves k → k ≤ 2 := by
    intro k hk
    by_contra hlt
    exact absurd (hk 2 (by omega)) (by decide)
  have hlegal : Legal halves 10 := by
    intro k hk
    have hle := hend k hk
    interval_cases k <;> decide
  refine (fixSize_iff halves 10 hlegal readFixSize (by simp)).mpr ⟨?_, fun _ => by decide⟩
  intro k hk
  have hle := hend k hk.before
  have hmissing := hk.missing
  have hresult := hk.result
  interval_cases k
  · exact absurd hresult (by decide)
  · exact absurd hresult (by decide)
  · exact absurd hmissing (by decide)

/-- Five bytes, then the connection breaks. -/
def breaks (k : Nat) : Int32 := if k = 0 then 5 else -1

theorem not_exact_breaks : ¬ ∀ script length, Legal script length →
    Exact (readFixSize script length) script length := by
  intro h
  have hlegal : Legal breaks 10 := by
    intro k hk
    have hle : k ≤ 1 := by
      by_contra hlt
      exact absurd (hk 1 (by omega)) (by decide)
    interval_cases k <;> decide
  have hfails : FailsAt breaks 10 1 := ⟨fun i hi => by interval_cases i; decide, by decide, by decide⟩
  have hfits := (exact_iff_fits move_advance hlegal).mp (h breaks 10 hlegal)
  exact absurd (hfits.fails 1 hfails (by decide)).1 (by decide)

end Mingfwq.Stream
