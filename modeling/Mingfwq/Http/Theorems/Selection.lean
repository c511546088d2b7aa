import Mingfwq.Http.ConnectionPool

/-!
# The loop of getConnection

A round that rejects a connection leaves it at the front of the list, so the next round examines it again.
-/

namespace Mingfwq.Http.HttpConnectionPool

open Lib

variable {s s' : State} {t k ptr : Nat} {now_ms : UInt64} {conn : PooledConnection}

/-- `k` rounds of the loop that client `t` runs. -/
def rounds (s : State) (t k : Nat) : Outcome Fault State :=
  (system s.pool s.clients.length).exec s (List.replicate k (.loop t))

/-- The connections that these rounds examine, one after the other. -/
def examined (s : State) (t k : Nat) : List Nat :=
  ((system s.pool s.clients.length).trace s (List.replicate k (.loop t))).flatMap fun q =>
    q.1.pool.m_conns.head?.toList

/-- The loop ends after `k` rounds in `s'`; no connection was examined twice; and the rejected ones are neither in the
list nor alive once they are deleted. A second `delete` of a connection is a fault. -/
structure Selects (s s' : State) (t : Nat) (now_ms : UInt64) (k : Nat) : Prop where
  ends : rounds s t k = .next s' ∧ ∃ ptr invalid_conns, s'.clients[t]? = some (.selected ptr invalid_conns)
  once : (examined s t k).Nodup
  deleted : ∃ s'', step s' (.deleteInvalid t) = .next s'' ∧ ∀ ptr ∈ examined s t k, ∀ conn,
    s.heap.lookup ptr = some conn → s.pool.rejects conn now_ms = true → ptr ∉ s''.pool.m_conns ∧ ptr ∉ s''.heap

/-- The connection that has been in the list for longest, if there is one, is not rejected. -/
def FirstKept (s : State) (now_ms : UInt64) : Prop :=
  ∀ ptr ∈ s.pool.m_conns.head?, ∀ conn, s.heap.lookup ptr = some conn → s.pool.rejects conn now_ms = false

theorem getElem?_setPc {pc pc' : Pc} (h : s.clients[t]? = some pc) : (s.setPc t pc').clients[t]? = some pc' := by
  obtain ⟨hlt, -⟩ := List.getElem?_eq_some_iff.mp h
  simp [State.setPc, hlt]

theorem setPc_setPc {pc pc' : Pc} : (s.setPc t pc).setPc t pc' = s.setPc t pc' := by
  simp [State.setPc]

section Rounds

variable {pool : HttpConnectionPool} {n : Nat} {conns invalid_conns : List Nat}

theorem loop_empty (h : s.clients[t]? = some (.select now_ms invalid_conns)) (hconns : s.pool.m_conns = []) :
    step s (.loop t) = .next { s.setPc t (.selected none invalid_conns) with m_mutex := none } := by
  simp only [step, h, hconns]

theorem loop_kept (h : s.clients[t]? = some (.select now_ms invalid_conns)) (hconns : s.pool.m_conns = ptr :: conns)
    (hlookup : s.heap.lookup ptr = some conn) (hkept : s.pool.rejects conn now_ms = false) :
    step s (.loop t) = .next { s.setPc t (.selected (some ptr) invalid_conns) with
      pool := { s.pool with m_conns := conns }
      m_mutex := none } := by
  simp only [step, h, hconns, hlookup, hkept, Bool.false_eq_true, ↓reduceIte]

/-- A rejected connection is still the first of the list. -/
theorem loop_rejected (h : s.clients[t]? = some (.select now_ms invalid_conns)) (hconns : s.pool.m_conns = ptr :: conns)
    (hlookup : s.heap.lookup ptr = some conn) (hrejected : s.pool.rejects conn now_ms = true) :
    step s (.loop t) = .next (s.setPc t (.select now_ms (invalid_conns ++ [ptr]))) := by
  simp only [step, h, hconns, hlookup, hrejected, ↓reduceIte]

/-- However many rounds, the loop has not ended. -/
theorem exec_rejected (h : s.clients[t]? = some (.select now_ms invalid_conns)) (hconns : s.pool.m_conns = ptr :: conns)
    (hlookup : s.heap.lookup ptr = some conn) (hrejected : s.pool.rejects conn now_ms = true) (k : Nat) :
    ∃ l, (system pool n).exec s (List.replicate k (.loop t)) = .next (s.setPc t (.select now_ms l)) := by
  induction k generalizing s invalid_conns with
  | zero =>
      refine ⟨invalid_conns, ?_⟩
      obtain ⟨hlt, hget⟩ := List.getElem?_eq_some_iff.mp h
      have hset : s.clients.set t (.select now_ms invalid_conns) = s.clients := hget ▸ List.set_getElem_self hlt
      simp only [List.replicate_zero, System.exec, State.setPc, hset]
  | succ k ih =>
      rw [List.replicate_succ, System.exec_cons (loop_rejected h hconns hlookup hrejected)]
      obtain ⟨l, hexec⟩ := ih (getElem?_setPc h) hconns hlookup hrejected
      exact ⟨l, hexec.trans (by rw [setPc_setPc])⟩

end Rounds

theorem Selects.firstKept (h : s.clients[t]? = some (.select now_ms [])) (hsel : Selects s s' t now_ms k) :
    FirstKept s now_ms := by
  intro ptr hptr conn hlookup
  by_contra hrejected
  rw [Bool.not_eq_false] at hrejected
  cases hconns : s.pool.m_conns with
  | nil =>
      rw [hconns] at hptr
      cases hptr
  | cons first conns =>
      rw [hconns] at hptr
      obtain rfl : first = ptr := by simpa using hptr
      obtain ⟨l, hexec⟩ := exec_rejected h hconns hlookup hrejected k
      obtain ⟨hends, ptr', l', hselected⟩ := hsel.ends
      cases hends.symm.trans hexec
      rw [getElem?_setPc h] at hselected
      cases hselected

/-- A first round that ends the loop. -/
theorem FirstKept.selects_one {p : Option Nat} (hkept : FirstKept s now_ms) (hstep : step s (.loop t) = .next s')
    (hselected : s'.clients[t]? = some (.selected p [])) : Selects s s' t now_ms 1 where
  ends := ⟨System.exec_cons hstep [], p, [], hselected⟩
  once := by
    have hexamined : examined s t 1 = s.pool.m_conns.head?.toList := by
      simp [examined, System.trace, system, hstep]
    rw [hexamined]
    cases s.pool.m_conns.head? <;> simp
  deleted := by
    obtain ⟨s'', hdelete⟩ : ∃ s'', step s' (.deleteInvalid t) = .next s'' := by
      simp [step, hselected, State.deleteAll]
    refine ⟨s'', hdelete, fun ptr hptr conn hlookup hrejected => ?_⟩
    have hfirst : ptr ∈ s.pool.m_conns.head? := by
      simpa [examined, System.trace, system, hstep] using hptr
    rw [hkept ptr hfirst conn hlookup] at hrejected
    cases hrejected

theorem FirstKept.selects (h : s.clients[t]? = some (.select now_ms []))
    (halive : ∀ ptr ∈ s.pool.m_conns, ptr ∈ s.heap) (hkept : FirstKept s now_ms) : ∃ s', Selects s s' t now_ms 1 := by
  cases hconns : s.pool.m_conns with
  | nil => exact ⟨_, hkept.selects_one (loop_empty h hconns) (getElem?_setPc h)⟩
  | cons ptr conns =>
      obtain ⟨conn, hlookup⟩ := Option.isSome_iff_exists.mp (AList.lookup_isSome.mpr (halive ptr (by simp [hconns])))
      have hfirst : s.pool.rejects conn now_ms = false := hkept ptr (by simp [hconns]) conn hlookup
      exact ⟨_, hkept.selects_one (loop_kept h hconns hlookup hfirst) (getElem?_setPc h)⟩

/-- The loop does what it should exactly where its first round has nothing to reject. -/
theorem selects_iff (h : s.clients[t]? = some (.select now_ms [])) (halive : ∀ ptr ∈ s.pool.m_conns, ptr ∈ s.heap) :
    (∃ k s', Selects s s' t now_ms k) ↔ FirstKept s now_ms := by
  constructor
  · rintro ⟨k, s', hsel⟩
    exact hsel.firstKept h
  · intro hkept
    obtain ⟨s', hsel⟩ := hkept.selects h halive
    exact ⟨1, s', hsel⟩

/-- A client in the loop, with one connection in the list. -/
def State.selecting (sock : Socket) : State where
  pool := { new 10 0 10 with m_conns := [7] }
  heap := (∅ : AList fun _ : Nat => PooledConnection).insert 7 (.new sock)
  m_mutex := some 0
  clients := [.select 5000 []]
  born := fun _ => 0

theorem selecting_alive (sock : Socket) : ∀ ptr ∈ (State.selecting sock).pool.m_conns,
    ptr ∈ (State.selecting sock).heap := by
  intro ptr hptr
  obtain rfl : ptr = 7 := by simpa [State.selecting] using hptr
  exact AList.mem_insert _ |>.mpr (.inl rfl)

theorem selects_connected : ∃ k s', Selects (State.selecting ⟨3, 2, true⟩) s' 0 5000 k :=
  (selects_iff rfl (selecting_alive _)).mpr fun ptr hptr conn hlookup => by
    obtain rfl : 7 = ptr := Option.some.inj hptr
    cases hlookup
    rfl

/-- With a connection that is closed there is no end to the loop. -/
theorem not_selects_closed : ¬ ∀ (s : State) (t : Nat) (now_ms : UInt64), s.clients[t]? = some (.select now_ms []) →
    (∀ ptr ∈ s.pool.m_conns, ptr ∈ s.heap) → ∃ k s', Selects s s' t now_ms k := by
  intro h
  obtain ⟨k, s', hsel⟩ := h (.selecting ⟨3, 2, false⟩) 0 5000 rfl (selecting_alive _)
  have hkept := hsel.firstKept rfl 7 rfl (.new ⟨3, 2, false⟩) rfl
  cases hkept

end Mingfwq.Http.HttpConnectionPool
