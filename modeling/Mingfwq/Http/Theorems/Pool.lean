import Mingfwq.Http.Lemmas.Owned

/-!
# The connections of a pool

Whatever the clients do, a connection has one owner. The limits on what is handed out again are those of the clients:
m_createTime is never set and compared the wrong way round, and m_maxSize is not read.
-/

namespace Mingfwq.Http.HttpConnectionPool

open Lib

variable {s s' : State}

/-! ## One owner -/

/-- A live connection is in the list once or with one client, never both; what is in the list or with a client is alive;
and between the calls m_total is the number of live connections. -/
structure Exclusive (s : State) : Prop where
  once : ∀ ptr ∈ s.heap, s.pool.m_conns.count ptr = 1 ∧ s.clients.countP (Pc.holds ptr) = 0 ∨
    s.pool.m_conns.count ptr = 0 ∧ s.clients.countP (Pc.holds ptr) = 1
  alive : ∀ ptr, ptr ∈ s.pool.m_conns ∨ (∃ pc ∈ s.clients, pc.holds ptr = true) → ptr ∈ s.heap
  total : (∀ pc ∈ s.clients, pc.isQuiet = true) → s.pool.m_total = .ofInt s.heap.keys.length ∧
    (s.heap.keys.length < 2147483648 → s.pool.m_total.toInt = s.heap.keys.length)

theorem Owned.exclusive (h : Owned s) : Exclusive s where
  once := fun ptr hmem => by
    have hcount := h.count ptr
    simp only [hmem, decide_true, Bool.toNat_true] at hcount
    omega
  alive := by
    rintro ptr (hmem | ⟨pc, hpc, hholds⟩)
    · exact h.listed hmem
    · obtain ⟨t, ht⟩ := List.getElem?_of_mem hpc
      exact (h.held ht hholds).1
  total := fun hquiet => by
    have hcreated : s.clients.countP Pc.isCreated = 0 := by
      rw [List.countP_eq_zero]
      intro pc hpc hcreated
      have := hquiet pc hpc
      cases pc <;> simp_all [Pc.isQuiet, Pc.isCreated]
    have hdeleted : s.clients.countP Pc.isDeleted = 0 := by
      rw [List.countP_eq_zero]
      intro pc hpc hdeleted
      have := hquiet pc hpc
      cases pc <;> simp_all [Pc.isQuiet, Pc.isDeleted]
    have htotal : s.pool.m_total = .ofInt s.heap.keys.length := by
      rw [h.total, hcreated, hdeleted]
      simp
    refine ⟨htotal, fun hlt => ?_⟩
    rw [htotal, Int32.toInt_ofInt_of_le (by omega) (by omega)]

theorem Owned.no_abort (h : Owned s) (a : Action) (e : Fault) : HttpConnectionPool.step s a ≠ .abort e := by
  intro hs
  have hlookup {ptr : Nat} (hmem : ptr ∈ s.heap) (hnone : s.heap.lookup ptr = none) : False :=
    AList.lookup_eq_none.mp hnone hmem
  cases a with
  | loop t =>
      simp only [HttpConnectionPool.step] at hs
      split at hs
      · split at hs
        · cases hs
        · next ptr conns hlist =>
            split at hs
            · next hnone => exact hlookup (h.listed (by simp [hlist])) hnone
            · split at hs <;> cases hs
      · cases hs
  | deleteInvalid t =>
      simp only [HttpConnectionPool.step] at hs
      split at hs
      · next ptr invalid_conns ht =>
          obtain rfl := h.selected t ptr invalid_conns ht
          cases hs
      · cases hs
  | use t op =>
      simp only [HttpConnectionPool.step] at hs
      split at hs
      · next ptr ht =>
          split at hs
          · next hnone => exact hlookup (h.held ht (by simp [Pc.holds])).1 hnone
          · cases hs
      · cases hs
  | releasePtr t now_ms =>
      simp only [HttpConnectionPool.step] at hs
      split at hs
      · next ptr ht =>
          split at hs
          · next hnone => exact hlookup (h.held ht (by simp [Pc.holds])).1 hnone
          · split at hs <;> cases hs
      · cases hs
  | _ => simp only [HttpConnectionPool.step] at hs; split at hs <;> (try split at hs) <;> (try split at hs) <;> cases hs

theorem owned_of_reachable {max_size max_alive_time max_request : UInt32} {n : Nat}
    (h : (system (.new max_size max_alive_time max_request) n).Reachable s) : Owned s :=
  h.invariant (.init max_size max_alive_time max_request n) fun _ _ _ howned _ hs => howned.step hs

/-- Over every interleaving of the clients' calls, a live connection has one owner, nothing is deleted while it is
listed or borrowed, and m_total is right whenever no call is in progress. -/
theorem reachable_exclusive {max_size max_alive_time max_request : UInt32} {n : Nat}
    (h : (system (.new max_size max_alive_time max_request) n).Reachable s) :
    Exclusive s ∧ ∀ a e, step s a ≠ .abort e :=
  have howned := owned_of_reachable h
  ⟨howned.exclusive, howned.no_abort⟩

/-- A client with a connection, which another one might have taken. -/
theorem borrowed_exclusive : ∃ s, s.clients = [.borrowed 7, .out] ∧ Exclusive s ∧ ∀ a e, step s a ≠ .abort e := by
  have hexec : ((system (.new 1 1000 10) 2).exec (system (.new 1 1000 10) 2).init
      [.getConnection 0 5000, .loop 0, .deleteInvalid 0, .establish 0 (some ⟨3, 2, true⟩) 7 5001, .countIn 0]).view
        State.clients = some [.borrowed 7, .out] := rfl
  obtain ⟨s, hs, hclients⟩ := System.reachable_of_view hexec
  exact ⟨s, hclients, reachable_exclusive hs⟩

/-! ## The limits -/

/-- What getConnection promises of a connection from the list: `born` is when it was created. -/
structure Within (pool : HttpConnectionPool) (conn : PooledConnection) (born now_ms : UInt64) : Prop where
  connected : conn.isConnected = true ∧ conn.m_socket.isValid = true
  age : (now_ms.toNat : Int) - born.toNat ≤ pool.m_maxAliveTime.toInt
  requests : (conn.m_request.toNat : Int) ≤ pool.m_maxRequest.toInt

/-- getConnection picks a connection within the limits, and a release leaves at most m_maxSize connections. -/
def Kept (s : State) : Action → Prop
  | .loop t => ∀ s' ptr l, step s (.loop t) = .next s' → s'.clients[t]? = some (.selected (some ptr) l) →
      ∃ now_ms l conn, s.clients[t]? = some (.select now_ms l) ∧ s'.heap.lookup ptr = some conn ∧
        Within s'.pool conn (s'.born ptr) now_ms
  | .pushBack t => ∀ s', step s (.pushBack t) = .next s' → (s'.pool.m_conns.length : Int) ≤ s'.pool.m_maxSize.toInt
  | .countOut t => ∀ s', step s (.countOut t) = .next s' → (s'.pool.m_conns.length : Int) ≤ s'.pool.m_maxSize.toInt
  | _ => True

/-- The clients keep the limits: they come back for a connection before it is too old and have not closed it, and they
release one only where there is room for it. -/
def Obeys (s : State) : Action → Prop
  | .loop t => ∀ now_ms l ptr conns conn, s.clients[t]? = some (.select now_ms l) → s.pool.m_conns = ptr :: conns →
      s.heap.lookup ptr = some conn → s.pool.rejects conn now_ms = false →
        conn.m_socket.isValid = true ∧ (now_ms.toNat : Int) - (s.born ptr).toNat ≤ s.pool.m_maxAliveTime.toInt ∧
          0 ≤ s.pool.m_maxRequest.toInt
  | .pushBack _ => (s.pool.m_conns.length : Int) < s.pool.m_maxSize.toInt
  | .countOut _ => 0 ≤ s.pool.m_maxSize.toInt
  | _ => True

/-- A connection that is in the list, or on its way into it, has not served more than m_maxRequest requests, as
ReleasePtr compares them. -/
structure Limited (s : State) : Prop where
  owned : Owned s
  requests : ∀ ptr conn, ptr ∈ s.pool.m_conns ∨ .release ptr ∈ s.clients → s.heap.lookup ptr = some conn →
    conn.m_request ≤ toUInt64 s.pool.m_maxRequest
  size : s.pool.m_conns = [] ∨ (s.pool.m_conns.length : Int) ≤ s.pool.m_maxSize.toInt

theorem Limited.init (max_size max_alive_time max_request : UInt32) (n : Nat) :
    Limited (.init (.new max_size max_alive_time max_request) n) where
  owned := .init max_size max_alive_time max_request n
  requests := fun ptr conn h hlookup => by cases hlookup
  size := .inl rfl

/-- A step that takes nothing new to the list and counts no request. -/
theorem Limited.requests_of (h : Limited s) (hlimit : s'.pool.m_maxRequest = s.pool.m_maxRequest)
    (hfrom : ∀ ptr, ptr ∈ s'.pool.m_conns ∨ .release ptr ∈ s'.clients → ptr ∈ s.pool.m_conns ∨ .release ptr ∈ s.clients)
    (hheap : ∀ ptr ∈ s.heap, ∀ conn', s'.heap.lookup ptr = some conn' →
      ∃ conn, s.heap.lookup ptr = some conn ∧ conn'.m_request = conn.m_request)
    (ptr : Nat) (conn' : PooledConnection) (hptr : ptr ∈ s'.pool.m_conns ∨ .release ptr ∈ s'.clients)
    (hlookup : s'.heap.lookup ptr = some conn') : conn'.m_request ≤ toUInt64 s'.pool.m_maxRequest := by
  have hold := hfrom ptr hptr
  have hlive : ptr ∈ s.heap := by
    refine h.owned.exclusive.alive ptr (hold.imp_right fun hmem => ?_)
    exact ⟨_, hmem, by simp [Pc.holds]⟩
  obtain ⟨conn, hconn, heq⟩ := hheap ptr hlive conn' hlookup
  rw [heq, hlimit]
  exact h.requests ptr conn hold hconn

theorem release_mem_of_set {t ptr : Nat} {pc' : Pc} (hpc : pc' ≠ .release ptr)
    (h : .release ptr ∈ s.clients.set t pc') : .release ptr ∈ s.clients :=
  (List.mem_or_eq_of_mem_set h).resolve_right (Ne.symm hpc)

theorem same_request (ptr : Nat) (_ : ptr ∈ s.heap) (conn : PooledConnection) (h : s.heap.lookup ptr = some conn) :
    ∃ conn', s.heap.lookup ptr = some conn' ∧ conn.m_request = conn'.m_request :=
  ⟨conn, h, rfl⟩

theorem Limited.step {a : Action} (h : Limited s) (hok : Obeys s a) (hs : HttpConnectionPool.step s a = .next s') :
    Limited s' := by
  have howned := h.owned.step hs
  cases Moves.of_step hs with
  | getConnection ht hmutex =>
      exact ⟨howned, h.requests_of rfl (fun _ => .imp_right (release_mem_of_set (by simp))) same_request, h.size⟩
  | none ht hempty =>
      exact ⟨howned, h.requests_of rfl (fun _ => .imp_right (release_mem_of_set (by simp))) same_request, h.size⟩
  | reject ht hlist hlookup hrejects =>
      exact ⟨howned, h.requests_of rfl (fun _ => .imp_right (release_mem_of_set (by simp))) same_request, h.size⟩
  | @pick t ptr now_ms l conns conn ht hlist hlookup hrejects =>
      refine ⟨howned,
        h.requests_of rfl (fun _ => .imp (fun hmem => ?_) (release_mem_of_set (by simp))) same_request, ?_⟩
      · rw [hlist]
        exact List.mem_cons_of_mem _ hmem
      · have hsize := h.size
        simp only [hlist, reduceCtorEq, List.length_cons, false_or] at hsize
        refine .inr ?_
        simp only
        omega
  | @deleteInvalid t ptr l heap ht hheap =>
      obtain rfl := h.owned.selected t ptr l ht
      cases hheap
      refine ⟨howned, h.requests_of rfl (fun ptr' => .imp_right (release_mem_of_set ?_)) same_request, h.size⟩
      cases ptr <;> simp
  | fail ht =>
      exact ⟨howned, h.requests_of rfl (fun _ => .imp_right (release_mem_of_set (by simp))) same_request, h.size⟩
  | @establish t address sock now_ms ht hfresh =>
      refine ⟨howned, h.requests_of rfl (fun _ => .imp_right (release_mem_of_set (by simp))) ?_, h.size⟩
      intro ptr hmem conn hlookup
      have hne : ptr ≠ address := fun heq => hfresh (heq ▸ hmem)
      exact ⟨conn, (AList.lookup_insert_ne hne).symm.trans hlookup, rfl⟩
  | countIn ht =>
      exact ⟨howned, h.requests_of rfl (fun _ => .imp_right (release_mem_of_set (by simp))) same_request, h.size⟩
  | @use t ptr op conn ht hconn =>
      refine ⟨howned, h.requests_of rfl (fun _ => id) ?_, h.size⟩
      intro ptr' hmem conn' hlookup
      by_cases hptr : ptr' = ptr
      · subst hptr
        cases (AList.lookup_insert _).symm.trans hlookup
        exact ⟨conn, hconn, rfl⟩
      · exact ⟨conn', (AList.lookup_insert_ne hptr).symm.trans hlookup, rfl⟩
  | @drop t ptr now_ms conn ht hconn hdrops =>
      refine ⟨howned, h.requests_of rfl (fun _ => .imp_right (release_mem_of_set (by simp))) ?_, h.size⟩
      intro ptr' hmem conn' hlookup
      by_cases hptr : ptr' = ptr
      · subst hptr
        cases (AList.lookup_erase ..).symm.trans hlookup
      · exact ⟨conn', (AList.lookup_erase_ne hptr).symm.trans hlookup, rfl⟩
  | @keep t ptr now_ms conn ht hconn hdrops =>
      refine ⟨howned, fun ptr' conn' hptr' hlookup => ?_, h.size⟩
      by_cases hptr : ptr' = ptr
      · subst hptr
        cases (AList.lookup_insert _).symm.trans hlookup
        simp only [drops, Bool.or_eq_false_iff, decide_eq_false_iff_not] at hdrops
        exact UInt64.not_lt.mp hdrops.2
      · refine h.requests ptr' conn' (hptr'.imp_right fun hmem => ?_) ((AList.lookup_insert_ne hptr).symm.trans hlookup)
        exact release_mem_of_set (by simpa using Ne.symm hptr) hmem
  | countOut ht =>
      exact ⟨howned, h.requests_of rfl (fun _ => .imp_right (release_mem_of_set (by simp))) same_request, h.size⟩
  | @pushBack t ptr ht hmutex =>
      refine ⟨howned, h.requests_of rfl ?_ same_request, ?_⟩
      · rintro ptr' (hmem | hmem)
        · rcases List.mem_append.mp hmem with hmem | hmem
          · exact .inl hmem
          · rw [List.mem_singleton.mp hmem]
            exact .inr (List.mem_of_getElem? ht)
        · exact .inr (release_mem_of_set (by simp) hmem)
      · simp only [Obeys] at hok
        refine .inr ?_
        simp only [List.length_append, List.length_singleton]
        omega

theorem toUInt64_toNat {x : Int32} (h : 0 ≤ x.toInt) : ((toUInt64 x).toNat : Int) = x.toInt := by
  have hlt := x.toInt_lt
  rw [toUInt64, UInt64.ofInt, UInt64.toNat_ofNat']
  omega

theorem Limited.loop_iff (h : Limited s) (t : Nat) : Kept s (.loop t) ↔ Obeys s (.loop t) := by
  constructor
  · intro hkept now_ms l ptr conns conn ht hlist hlookup hrejects
    have hstep : HttpConnectionPool.step s (.loop t) = .next { s.setPc t (.selected (some ptr) l) with
        pool := { s.pool with m_conns := conns }, m_mutex := none } := by
      simp [HttpConnectionPool.step, ht, hlist, hlookup, hrejects]
    obtain ⟨now_ms', l', conn', ht', hlookup', hwithin⟩ :=
      hkept _ ptr l hstep (by simp [State.setPc, getElem?_set_of_some ht])
    cases ht.symm.trans ht'
    cases hlookup.symm.trans hlookup'
    have hrequests := hwithin.requests
    simp only at hrequests
    exact ⟨hwithin.connected.2, hwithin.age, by omega⟩
  · intro hobeys s' ptr l hs hpicked
    cases Moves.of_step hs with
    | none ht => simp [State.setPc, getElem?_set_of_some ht] at hpicked
    | reject ht => simp [State.setPc, getElem?_set_of_some ht] at hpicked
    | @pick _ ptr' now_ms l' conns conn ht hlist hlookup hrejects =>
        simp only [State.setPc, getElem?_set_of_some ht, if_true, Option.some.injEq, Pc.selected.injEq] at hpicked
        obtain ⟨rfl, rfl⟩ := hpicked
        obtain ⟨hvalid, hage, hmax⟩ := hobeys now_ms l' ptr' conns conn ht hlist hlookup hrejects
        have hrequests := h.requests ptr' conn (.inl (by simp [hlist])) hlookup
        rw [UInt64.le_iff_toNat_le] at hrequests
        have htoNat := toUInt64_toNat hmax
        simp only [rejects, Bool.or_eq_false_iff, Bool.not_eq_false'] at hrejects
        refine ⟨now_ms, l', conn, ht, hlookup, ⟨hrejects.1, hvalid⟩, hage, ?_⟩
        simp only
        omega

theorem Limited.kept_iff (h : Limited s) {a : Action} (hs : HttpConnectionPool.step s a = .next s') :
    Kept s a ↔ Obeys s a := by
  cases a with
  | loop t => exact h.loop_iff t
  | pushBack t =>
      have hlen : s'.pool.m_conns.length = s.pool.m_conns.length + 1 ∧ s'.pool.m_maxSize = s.pool.m_maxSize := by
        cases Moves.of_step hs
        exact ⟨by simp, rfl⟩
      simp only [Kept, Obeys, hs, Outcome.next.injEq, forall_eq', hlen]
      omega
  | countOut t =>
      have hsame : s'.pool.m_conns = s.pool.m_conns ∧ s'.pool.m_maxSize = s.pool.m_maxSize := by
        cases Moves.of_step hs
        exact ⟨rfl, rfl⟩
      simp only [Kept, Obeys, hs, Outcome.next.injEq, forall_eq', hsame]
      rcases h.size with hempty | hsize
      · simp [hempty]
      · exact iff_of_true hsize (by omega)
  | _ => exact Iff.rfl

/-- One client: it gets a connection, gives it back and calls again a long time later. -/
def late : List Action :=
  [.getConnection 0 5000, .loop 0, .deleteInvalid 0, .establish 0 (some ⟨3, 2, true⟩) 7 5001, .countIn 0,
    .releasePtr 0 6000, .pushBack 0, .getConnection 0 100000]

/-- A client that comes back late: the connection is 95 seconds old, and the pool hands it out though it keeps
connections for one second. -/
theorem late_handed_out : ¬ ∀ (max_size max_alive_time max_request : UInt32) (n : Nat) (s : State) (a : Action),
    (system (.new max_size max_alive_time max_request) n).Reachable s → Kept s a := by
  intro h
  obtain ⟨s, hexec, hclients, hborn, hage, s', hs, hpicked⟩ : ∃ s, (system (.new 1 1000 10) 1).exec
      (system (.new 1 1000 10) 1).init late = .next s ∧ s.clients = [.select 100000 []] ∧ s.born 7 = 5001 ∧
        s.pool.m_maxAliveTime = 1000 ∧ ∃ s', step s (.loop 0) = .next s' ∧ s'.clients = [.selected (some 7) []] :=
    ⟨_, rfl, rfl, rfl, rfl, _, rfl, rfl⟩
  obtain ⟨now_ms, l, conn, ht, -, hwithin⟩ := h 1 1000 10 1 s (.loop 0) (.exec (fun _ _ => trivial) late .init hexec)
    s' 7 [] hs (by rw [hpicked]; rfl)
  have hsame : s'.pool.m_maxAliveTime = 1000 ∧ s'.born 7 = 5001 := by
    cases Moves.of_step hs <;> exact ⟨hage, hborn⟩
  rw [hclients] at ht
  cases ht
  have htoo_old := hwithin.age
  rw [hsame.1, hsame.2] at htoo_old
  exact absurd htoo_old (by decide)

/-- In a run of the clients every connection that getConnection picks is within the limits and every release leaves at
most m_maxSize connections, exactly when the clients see to it. -/
theorem run_kept_iff (max_size max_alive_time max_request : UInt32) (n : Nat) (as : List Action) :
    (∀ q ∈ (system (.new max_size max_alive_time max_request) n).trace
        (system (.new max_size max_alive_time max_request) n).init as, Kept q.1 q.2) ↔
      ∀ q ∈ (system (.new max_size max_alive_time max_request) n).trace
        (system (.new max_size max_alive_time max_request) n).init as, Obeys q.1 q.2 := by
  have hgood : ∀ s a, Limited s → (system (.new max_size max_alive_time max_request) n).step s a ≠ .blocked →
      (Kept s a ↔ Obeys s a) := by
    intro s a h hnext
    cases hs : HttpConnectionPool.step s a with
    | blocked => exact absurd hs hnext
    | abort e => exact absurd hs (h.owned.no_abort a e)
    | next s' => exact h.kept_iff hs
  have hstep : ∀ s a s', Limited s → Obeys s a →
      (system (.new max_size max_alive_time max_request) n).step s a = .next s' → Limited s' :=
    fun _ _ _ h hok hs => h.step hok hs
  exact System.trace_iff hgood hstep (.init max_size max_alive_time max_request n) as

end Mingfwq.Http.HttpConnectionPool
