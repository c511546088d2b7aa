import Mathlib.Data.Int.Basic
import Mingfwq.Http.ConnectionPool
import Mingfwq.Lib.Table

/-!
# Who has a connection

A live connection stands once in the list or is with one client. getConnection never gets past the loop with a
connection to delete: it does not take such a connection from the list, so the next round finds it again.
-/

namespace Mingfwq.Http.HttpConnectionPool

open Lib

/-- The connection is created and not yet counted. -/
def Pc.isCreated : Pc → Bool
  | .created _ => true
  | _ => false

/-- The connection is deleted and still counted. -/
def Pc.isDeleted : Pc → Bool
  | .deleted => true
  | _ => false

/-- The first connection in the list is one that getConnection passes over. -/
def Stuck (pool : HttpConnectionPool) (heap : AList fun _ : Nat => PooledConnection) (now_ms : UInt64) : Prop :=
  ∃ ptr conns conn, pool.m_conns = ptr :: conns ∧ heap.lookup ptr = some conn ∧ pool.rejects conn now_ms = true

structure Owned (s : State) : Prop where
  count : ∀ ptr, s.pool.m_conns.count ptr + s.clients.countP (Pc.holds ptr) = (decide (ptr ∈ s.heap)).toNat
  total : s.pool.m_total =
    .ofInt (s.heap.keys.length - s.clients.countP Pc.isCreated + s.clients.countP Pc.isDeleted)
  select : ∀ (t : Nat) now_ms invalid_conns, s.clients[t]? = some (.select now_ms invalid_conns) →
    s.m_mutex = some t ∧ (invalid_conns ≠ [] → Stuck s.pool s.heap now_ms)
  selected : ∀ (t : Nat) ptr invalid_conns, s.clients[t]? = some (.selected ptr invalid_conns) → invalid_conns = []

variable {s s' : State} {t : Nat} {pc pc' : Pc} {pool' : HttpConnectionPool}
  {heap' : AList fun _ : Nat => PooledConnection} {mutex' : Option Nat} {now_ms : UInt64} {ptr : Nat}
  {conn : PooledConnection}

theorem Stuck.of (hconns : pool'.m_conns = s.pool.m_conns) (hage : pool'.m_maxAliveTime = s.pool.m_maxAliveTime)
    (hheap : ∀ ptr ∈ s.pool.m_conns, heap'.lookup ptr = s.heap.lookup ptr) (h : Stuck s.pool s.heap now_ms) :
    Stuck pool' heap' now_ms := by
  obtain ⟨ptr, conns, conn, hlist, hlookup, hrejects⟩ := h
  refine ⟨ptr, conns, conn, hconns.trans hlist, ?_, ?_⟩
  · rw [hheap ptr (by simp [hlist]), hlookup]
  · simpa only [rejects, hage] using hrejects

theorem Owned.init (max_size max_alive_time max_request : UInt32) (n : Nat) :
    Owned (.init (.new max_size max_alive_time max_request) n) where
  count := fun ptr => by simp [State.init, HttpConnectionPool.new, List.countP_replicate, Pc.holds]
  total := by simp [State.init, HttpConnectionPool.new, List.countP_replicate, Pc.isCreated, Pc.isDeleted]
  select := fun t now_ms invalid_conns h => by simp [State.init, List.getElem?_replicate] at h
  selected := fun t ptr invalid_conns h => by simp [State.init, List.getElem?_replicate] at h

/-- A client moves on. What it counts for is moved between the list, itself and the heap, and those that wait in the
loop do not see a difference. -/
theorem Owned.move (h : Owned s) (ht : s.clients[t]? = some pc)
    (hcount : ∀ ptr, pool'.m_conns.count ptr + (pc'.holds ptr).toNat + (decide (ptr ∈ s.heap)).toNat =
      s.pool.m_conns.count ptr + (pc.holds ptr).toNat + (decide (ptr ∈ heap')).toNat)
    (htotal : ∃ d : Int, pool'.m_total = s.pool.m_total + .ofInt d ∧
      d = heap'.keys.length - pc'.isCreated.toNat + pc'.isDeleted.toNat -
        (s.heap.keys.length - pc.isCreated.toNat + pc.isDeleted.toNat))
    (hlocked : ∀ t', t' ≠ t → s.m_mutex = some t' →
      mutex' = some t' ∧ ∀ now_ms, Stuck s.pool s.heap now_ms → Stuck pool' heap' now_ms)
    (hselect : ∀ now_ms invalid_conns, pc' = .select now_ms invalid_conns →
      mutex' = some t ∧ (invalid_conns ≠ [] → Stuck pool' heap' now_ms))
    (hselected : ∀ ptr invalid_conns, pc' = .selected ptr invalid_conns → invalid_conns = [])
    (born' : Nat → UInt64) : Owned ⟨pool', heap', mutex', s.clients.set t pc', born'⟩ where
  count := fun ptr => by
    have hholds := countP_set ht pc' (Pc.holds ptr)
    have hold := h.count ptr
    have hnew := hcount ptr
    simp only
    omega
  total := by
    obtain ⟨d, hpool, hd⟩ := htotal
    have hcreated := countP_set ht pc' Pc.isCreated
    have hdeleted := countP_set ht pc' Pc.isDeleted
    rw [hpool, h.total, ← Int32.ofInt_add]
    congr 1
    simp only
    omega
  select := fun t' now_ms invalid_conns h' => by
    simp only [getElem?_set_of_some ht] at h'
    split at h'
    · next heq =>
        subst heq
        exact hselect now_ms invalid_conns (Option.some.inj h')
    · next hne =>
        obtain ⟨hmutex, hstuck⟩ := h.select t' now_ms invalid_conns h'
        obtain ⟨hmutex', hkept⟩ := hlocked t' hne hmutex
        exact ⟨hmutex', fun hinvalid => hkept now_ms (hstuck hinvalid)⟩
  selected := fun t' ptr invalid_conns h' => by
    simp only [getElem?_set_of_some ht] at h'
    split at h'
    · exact hselected ptr invalid_conns (Option.some.inj h')
    · exact h.selected t' ptr invalid_conns h'

theorem Owned.held (h : Owned s) (ht : s.clients[t]? = some pc) (hholds : pc.holds ptr = true) :
    ptr ∈ s.heap ∧ ptr ∉ s.pool.m_conns := by
  have hcount := h.count ptr
  have hpos : 0 < s.clients.countP (Pc.holds ptr) :=
    List.countP_pos_iff.mpr ⟨pc, List.mem_of_getElem? ht, hholds⟩
  have hle := Bool.toNat_le (decide (ptr ∈ s.heap))
  refine ⟨?_, ?_⟩
  · by_contra hnot
    simp only [hnot, decide_false, Bool.toNat_false] at hcount
    omega
  · intro hmem
    have := List.count_pos_iff.mpr hmem
    omega

theorem Owned.listed (h : Owned s) (hmem : ptr ∈ s.pool.m_conns) : ptr ∈ s.heap := by
  have hcount := h.count ptr
  have hpos := List.count_pos_iff.mpr hmem
  by_contra hnot
  simp only [hnot, decide_false, Bool.toNat_false] at hcount
  omega

theorem length_keys_insert {heap : AList fun _ : Nat => PooledConnection} (h : ptr ∉ heap) :
    (heap.insert ptr conn).keys.length = heap.keys.length + 1 := by
  rw [AList.keys_insert, List.erase_of_not_mem (by rwa [← AList.mem_keys]), List.length_cons]

theorem length_keys_erase {heap : AList fun _ : Nat => PooledConnection} (h : ptr ∈ heap) :
    (heap.erase ptr).keys.length + 1 = heap.keys.length := by
  rw [AList.keys_erase, List.length_erase_of_mem (AList.mem_keys.mp h)]
  have := List.length_pos_of_mem (AList.mem_keys.mp h)
  omega

theorem length_keys_update {heap : AList fun _ : Nat => PooledConnection} (h : ptr ∈ heap) :
    (heap.insert ptr conn).keys.length = heap.keys.length := by
  rw [AList.keys_insert, List.length_cons, List.length_erase_of_mem (AList.mem_keys.mp h)]
  have := List.length_pos_of_mem (AList.mem_keys.mp h)
  omega

theorem mem_update {heap : AList fun _ : Nat => PooledConnection} (h : ptr ∈ heap) (ptr' : Nat) :
    ptr' ∈ heap.insert ptr conn ↔ ptr' ∈ heap := by
  rw [AList.mem_insert]
  constructor
  · rintro (rfl | hmem)
    · exact h
    · exact hmem
  · exact .inr

/-! ## The steps of a client -/

/-- The steps that lead to a next state, each with what it has found and what it leaves. -/
inductive Moves (s : State) : Action → State → Prop
  | getConnection {t : Nat} {now_ms : UInt64} : s.clients[t]? = some .out → s.m_mutex = none →
      Moves s (.getConnection t now_ms) { s.setPc t (.select now_ms []) with m_mutex := some t }
  | none {t : Nat} {now_ms : UInt64} {l : List Nat} : s.clients[t]? = some (.select now_ms l) → s.pool.m_conns = [] →
      Moves s (.loop t) { s.setPc t (.selected none l) with m_mutex := none }
  | reject {t ptr : Nat} {now_ms : UInt64} {l conns : List Nat} {conn : PooledConnection} :
      s.clients[t]? = some (.select now_ms l) → s.pool.m_conns = ptr :: conns → s.heap.lookup ptr = some conn →
      s.pool.rejects conn now_ms = true → Moves s (.loop t) (s.setPc t (.select now_ms (l ++ [ptr])))
  | pick {t ptr : Nat} {now_ms : UInt64} {l conns : List Nat} {conn : PooledConnection} :
      s.clients[t]? = some (.select now_ms l) → s.pool.m_conns = ptr :: conns → s.heap.lookup ptr = some conn →
      s.pool.rejects conn now_ms = false →
      Moves s (.loop t) { s.setPc t (.selected (some ptr) l) with
        pool := { s.pool with m_conns := conns }
        m_mutex := none }
  | deleteInvalid {t : Nat} {ptr : Option Nat} {l : List Nat} {heap : AList fun _ : Nat => PooledConnection} :
      s.clients[t]? = some (.selected ptr l) → State.deleteAll s.heap l = some heap →
      Moves s (.deleteInvalid t) { s.setPc t (match ptr with | none => .create | some ptr => .borrowed ptr) with
        pool := { s.pool with m_total := s.pool.m_total - Int32.ofInt l.length }
        heap }
  | fail {t address : Nat} {now_ms : UInt64} : s.clients[t]? = some .create →
      Moves s (.establish t none address now_ms) (s.setPc t .out)
  | establish {t address : Nat} {sock : Socket} {now_ms : UInt64} : s.clients[t]? = some .create → address ∉ s.heap →
      Moves s (.establish t (some sock) address now_ms) { s.setPc t (.created address) with
        heap := s.heap.insert address (.new sock)
        born := Function.update s.born address now_ms }
  | countIn {t ptr : Nat} : s.clients[t]? = some (.created ptr) →
      Moves s (.countIn t) { s.setPc t (.borrowed ptr) with pool := { s.pool with m_total := s.pool.m_total + 1 } }
  | use {t ptr : Nat} {op : Socket.Op} {conn : PooledConnection} : s.clients[t]? = some (.borrowed ptr) →
      s.heap.lookup ptr = some conn →
      Moves s (.use t op) { s with heap := s.heap.insert ptr { conn with m_socket := (conn.m_socket.run op).2 } }
  | drop {t ptr : Nat} {now_ms : UInt64} {conn : PooledConnection} : s.clients[t]? = some (.borrowed ptr) →
      s.heap.lookup ptr = some conn → s.pool.drops { conn with m_request := conn.m_request + 1 } now_ms = true →
      Moves s (.releasePtr t now_ms) { s.setPc t .deleted with heap := s.heap.erase ptr }
  | keep {t ptr : Nat} {now_ms : UInt64} {conn : PooledConnection} : s.clients[t]? = some (.borrowed ptr) →
      s.heap.lookup ptr = some conn → s.pool.drops { conn with m_request := conn.m_request + 1 } now_ms = false →
      Moves s (.releasePtr t now_ms) { s.setPc t (.release ptr) with
        heap := s.heap.insert ptr { conn with m_request := conn.m_request + 1 } }
  | countOut {t : Nat} : s.clients[t]? = some .deleted →
      Moves s (.countOut t) { s.setPc t .out with pool := { s.pool with m_total := s.pool.m_total - 1 } }
  | pushBack {t ptr : Nat} : s.clients[t]? = some (.release ptr) → s.m_mutex = none →
      Moves s (.pushBack t) { s.setPc t .out with pool := { s.pool with m_conns := s.pool.m_conns ++ [ptr] } }

theorem Moves.of_step {a : Action} (hs : step s a = .next s') : Moves s a s' := by
  cases a with
  | getConnection t now_ms =>
      simp only [step] at hs
      split at hs
      · next ht =>
          split at hs
          · next hmutex =>
              cases hs
              exact .getConnection ht hmutex
          · cases hs
      · cases hs
  | loop t =>
      simp only [step] at hs
      split at hs
      · next ht =>
          split at hs
          · next hempty =>
              cases hs
              exact .none ht hempty
          · next hlist =>
              split at hs
              · cases hs
              · next hlookup =>
                  split at hs
                  · next hrejects =>
                      cases hs
                      exact .reject ht hlist hlookup hrejects
                  · next hrejects =>
                      cases hs
                      exact .pick ht hlist hlookup (by simpa using hrejects)
      · cases hs
  | deleteInvalid t =>
      simp only [step] at hs
      split at hs
      · next ht =>
          split at hs
          · cases hs
          · next hheap =>
              cases hs
              exact .deleteInvalid ht hheap
      · cases hs
  | establish t sock address now_ms =>
      simp only [step] at hs
      split at hs
      · next ht =>
          split at hs
          · cases hs
            exact .fail ht
          · split at hs
            · cases hs
            · next hfresh =>
                cases hs
                exact .establish ht hfresh
      · cases hs
  | countIn t =>
      simp only [step] at hs
      split at hs
      · next ht =>
          cases hs
          exact .countIn ht
      · cases hs
  | use t op =>
      simp only [step] at hs
      split at hs
      · next ht =>
          split at hs
          · cases hs
          · next hlookup =>
              cases hs
              exact .use ht hlookup
      · cases hs
  | releasePtr t now_ms =>
      simp only [step] at hs
      split at hs
      · next ht =>
          split at hs
          · cases hs
          · next hlookup =>
              split at hs
              · next hdrops =>
                  cases hs
                  exact .drop ht hlookup hdrops
              · next hdrops =>
                  cases hs
                  exact .keep ht hlookup (by simpa using hdrops)
      · cases hs
  | countOut t =>
      simp only [step] at hs
      split at hs
      · next ht =>
          cases hs
          exact .countOut ht
      · cases hs
  | pushBack t =>
      simp only [step] at hs
      split at hs
      · next ht =>
          split at hs
          · next hmutex =>
              cases hs
              exact .pushBack ht hmutex
          · cases hs
      · cases hs

/-- Nobody else waits in the loop. -/
theorem Owned.alone (h : Owned s) {t : Nat} {l : List Nat} (ht : s.clients[t]? = some (.select now_ms l))
    (mutex' : Option Nat) (pool' : HttpConnectionPool) (t' : Nat) (hne : t' ≠ t) (hlock : s.m_mutex = some t') :
    mutex' = some t' ∧ ∀ now_ms, Stuck s.pool s.heap now_ms → Stuck pool' s.heap now_ms :=
  have hmutex := (h.select t now_ms l ht).1
  absurd (Option.some.inj (hlock.symm.trans hmutex)) hne

theorem Owned.step {a : Action} (h : Owned s) (hs : step s a = .next s') : Owned s' := by
  cases Moves.of_step hs with
  | getConnection ht hmutex =>
      refine h.move ht ?_ ⟨0, ?_, ?_⟩ ?_ ?_ ?_ s.born
      · exact fun _ => rfl
      · simp [State.setPc]
      · simp [State.setPc, Pc.isCreated, Pc.isDeleted]
      · intro t' _ hlock
        cases hmutex.symm.trans hlock
      · rintro _ _ ⟨⟩
        exact ⟨rfl, fun hne => absurd rfl hne⟩
      · rintro _ _ ⟨⟩
  | none ht hempty =>
      refine h.move ht ?_ ⟨0, ?_, ?_⟩ (h.alone ht none _) ?_ ?_ s.born
      · simp [State.setPc, Pc.holds]
      · simp [State.setPc]
      · simp [Pc.isCreated, Pc.isDeleted]
      · rintro _ _ ⟨⟩
      · rintro _ _ ⟨⟩
        by_contra hne
        obtain ⟨ptr, conns, conn, hlist, -⟩ := (h.select _ _ _ ht).2 hne
        cases hempty.symm.trans hlist
  | reject ht hlist hlookup hrejects =>
      refine h.move ht ?_ ⟨0, ?_, ?_⟩ (h.alone ht s.m_mutex s.pool) ?_ ?_ s.born
      · simp [Pc.holds]
      · simp
      · simp [Pc.isCreated, Pc.isDeleted]
      · rintro _ _ ⟨⟩
        exact ⟨(h.select _ _ _ ht).1, fun _ => ⟨_, _, _, hlist, hlookup, hrejects⟩⟩
      · rintro _ _ ⟨⟩
  | @pick t ptr now_ms l conns conn ht hlist hlookup hrejects =>
      refine h.move ht ?_ ⟨0, ?_, ?_⟩ (h.alone ht none _) ?_ ?_ s.born
      · intro ptr'
        by_cases hptr : ptr = ptr' <;> simp [Pc.holds, hlist, hptr]
      · simp
      · simp [Pc.isCreated, Pc.isDeleted]
      · rintro _ _ ⟨⟩
      · rintro _ _ ⟨⟩
        -- the same connection would still be first in the list
        by_contra hne
        obtain ⟨ptr', conns', conn', hlist', hlookup', hrejects'⟩ := (h.select _ _ _ ht).2 hne
        cases hlist.symm.trans hlist'
        cases hlookup.symm.trans hlookup'
        cases hrejects.symm.trans hrejects'
  | @deleteInvalid t ptr l heap ht hheap =>
      obtain rfl := h.selected t ptr l ht
      simp only [State.deleteAll] at hheap
      cases hheap
      refine h.move ht ?_ ⟨0, ?_, ?_⟩ ?_ ?_ ?_ s.born
      · cases ptr <;> simp [Pc.holds]
      · simp
      · cases ptr <;> simp [Pc.isCreated, Pc.isDeleted]
      · exact fun t' _ hlock => ⟨hlock, fun _ => Stuck.of rfl rfl fun _ _ => rfl⟩
      · cases ptr <;> rintro _ _ ⟨⟩
      · cases ptr <;> rintro _ _ ⟨⟩
  | fail ht =>
      refine h.move ht ?_ ⟨0, ?_, ?_⟩ ?_ ?_ ?_ s.born
      · simp [Pc.holds]
      · simp
      · simp [Pc.isCreated, Pc.isDeleted]
      · exact fun t' _ hlock => ⟨hlock, fun _ => id⟩
      · rintro _ _ ⟨⟩
      · rintro _ _ ⟨⟩
  | @establish t address sock now_ms ht hfresh =>
      refine h.move ht ?_ ⟨0, ?_, ?_⟩ ?_ ?_ ?_ _
      · intro ptr
        by_cases hptr : ptr = address
        · simp [State.setPc, Pc.holds, hptr, hfresh]
        · simp [State.setPc, Pc.holds, hptr, Ne.symm hptr]
      · simp [State.setPc]
      · simp only [length_keys_insert hfresh, Pc.isCreated, Pc.isDeleted, Bool.toNat_false, Bool.toNat_true]
        omega
      · refine fun t' _ hlock => ⟨hlock, fun _ => Stuck.of rfl rfl fun ptr hmem => ?_⟩
        have hne : ptr ≠ address := fun heq => hfresh (heq ▸ h.listed hmem)
        exact AList.lookup_insert_ne hne
      · rintro _ _ ⟨⟩
      · rintro _ _ ⟨⟩
  | countIn ht =>
      refine h.move ht ?_ ⟨1, rfl, ?_⟩ ?_ ?_ ?_ s.born
      · exact fun _ => rfl
      · simp only [State.setPc, Pc.isCreated, Pc.isDeleted, Bool.toNat_false, Bool.toNat_true]
        omega
      · exact fun t' _ hlock => ⟨hlock, fun _ => Stuck.of rfl rfl fun _ _ => rfl⟩
      · rintro _ _ ⟨⟩
      · rintro _ _ ⟨⟩
  | @use t ptr op conn ht hlookup =>
      obtain ⟨hlive, hunlisted⟩ := h.held ht (show (Pc.borrowed ptr).holds ptr = true by simp [Pc.holds])
      rw [← set_of_getElem? ht]
      refine h.move ht ?_ ⟨0, ?_, ?_⟩ ?_ ?_ ?_ s.born
      · simp [mem_update hlive]
      · simp
      · simp only [length_keys_update hlive]
        omega
      · refine fun t' _ hlock => ⟨hlock, fun _ => Stuck.of rfl rfl fun ptr' hmem => ?_⟩
        exact AList.lookup_insert_ne fun heq => hunlisted (heq ▸ hmem)
      · rintro _ _ ⟨⟩
      · rintro _ _ ⟨⟩
  | @drop t ptr now_ms conn ht hlookup hdrops =>
      obtain ⟨hlive, hunlisted⟩ := h.held ht (show (Pc.borrowed ptr).holds ptr = true by simp [Pc.holds])
      refine h.move ht ?_ ⟨0, ?_, ?_⟩ ?_ ?_ ?_ s.born
      · intro ptr'
        by_cases hptr : ptr' = ptr
        · simp [State.setPc, Pc.holds, hptr, hlive]
        · simp [State.setPc, Pc.holds, hptr, Ne.symm hptr]
      · simp [State.setPc]
      · have := length_keys_erase hlive
        simp only [Pc.isCreated, Pc.isDeleted, Bool.toNat_false, Bool.toNat_true]
        omega
      · refine fun t' _ hlock => ⟨hlock, fun _ => Stuck.of rfl rfl fun ptr' hmem => ?_⟩
        exact AList.lookup_erase_ne fun heq => hunlisted (heq ▸ hmem)
      · rintro _ _ ⟨⟩
      · rintro _ _ ⟨⟩
  | @keep t ptr now_ms conn ht hlookup hdrops =>
      obtain ⟨hlive, hunlisted⟩ := h.held ht (show (Pc.borrowed ptr).holds ptr = true by simp [Pc.holds])
      refine h.move ht ?_ ⟨0, ?_, ?_⟩ ?_ ?_ ?_ s.born
      · simp [State.setPc, Pc.holds, mem_update hlive]
      · simp [State.setPc]
      · simp only [length_keys_update hlive, Pc.isCreated, Pc.isDeleted]
        omega
      · refine fun t' _ hlock => ⟨hlock, fun _ => Stuck.of rfl rfl fun ptr' hmem => ?_⟩
        exact AList.lookup_insert_ne fun heq => hunlisted (heq ▸ hmem)
      · rintro _ _ ⟨⟩
      · rintro _ _ ⟨⟩
  | countOut ht =>
      refine h.move ht ?_ ⟨-1, ?_, ?_⟩ ?_ ?_ ?_ s.born
      · exact fun _ => rfl
      · exact Int32.sub_eq_add_neg ..
      · simp only [State.setPc, Pc.isCreated, Pc.isDeleted, Bool.toNat_false, Bool.toNat_true]
        omega
      · exact fun t' _ hlock => ⟨hlock, fun _ => Stuck.of rfl rfl fun _ _ => rfl⟩
      · rintro _ _ ⟨⟩
      · rintro _ _ ⟨⟩
  | @pushBack t ptr ht hmutex =>
      refine h.move ht ?_ ⟨0, ?_, ?_⟩ ?_ ?_ ?_ s.born
      · intro ptr'
        change (s.pool.m_conns ++ [ptr]).count ptr' + 0 + (decide (ptr' ∈ s.heap)).toNat =
          s.pool.m_conns.count ptr' + (decide (ptr = ptr')).toNat + (decide (ptr' ∈ s.heap)).toNat
        by_cases hptr : ptr = ptr' <;> simp [List.count_append, hptr]
      · simp
      · simp [State.setPc, Pc.isCreated, Pc.isDeleted]
      · intro t' _ hlock
        cases hmutex.symm.trans hlock
      · rintro _ _ ⟨⟩
      · rintro _ _ ⟨⟩

end Mingfwq.Http.HttpConnectionPool
