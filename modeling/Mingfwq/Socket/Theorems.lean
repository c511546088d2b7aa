import Mingfwq.Http.ConnectionPool

/-!
# The flag and the descriptor of a socket

`close()` sets m_isConnected where it should reset it.
-/

namespace Mingfwq.Socket

open Lib

variable {s s' : State} {op : Op}

/-- The flag and the descriptor agree, and neither is left of a socket that is closed. -/
structure State.Coherent (s : State) : Prop where
  valid : s.sock.isConnected = true → s.sock.isValid = true
  closed : s.closed = true → s.sock.isConnected = false ∧ s.sock.isValid = false

/-- ReleasePtr deletes every connection with this socket. -/
def Dropped (sock : Socket) : Prop :=
  ∀ (pool : Http.HttpConnectionPool) (conn : Http.PooledConnection) (now_ms : UInt64),
    conn.m_socket = sock → pool.drops conn now_ms = true

/-- The flag and the descriptor agree after `op`; a second `close()` has no effect and returns true; what is closed
does not come back to the pool. -/
structure Sound (s : State) (op : Op) : Prop where
  coherent : ∀ s', step s op = .next s' → s'.Coherent
  twice : op = .close → s.closed = true → s.sock.close = (true, s.sock)
  dropped : ∀ s', step s op = .next s' → s'.closed = true → Dropped s'.sock

/-- `op` does not close a descriptor, and makes none on a socket that is closed unless it connects it. -/
def Harmless (s : State) : Op → Prop
  | .init _ _ => True
  | .bind _ fd _ _ => s.closed = true → fd = -1
  | .connect family fd rt =>
      s.sock.isValid = true ∨ fd ≠ -1 → if family = s.sock.m_family then rt = 0 else s.closed = false
  | .listen rt => s.sock.isValid = true → rt = 0
  | .close => s.sock.isValid = false
  | .transfer _ => True

theorem isValid_eq_false {sock : Socket} : sock.isValid = false ↔ sock.m_sock = -1 := by
  simp [isValid]

/-- The slip: what `close()` leaves where there is something to close. -/
theorem close_eq {sock : Socket} (h : sock.isValid = true) :
    sock.close = (false, { sock with m_isConnected := true, m_sock := -1 }) := by
  have hsock : sock.m_sock ≠ -1 := by simpa [isValid] using h
  simp [close, hsock, toBool]

theorem close_of_out {sock : Socket} (hc : sock.isConnected = false) (hv : sock.isValid = false) :
    sock.close = (true, sock) := by
  have hsock := isValid_eq_false.mp hv
  simp only [isConnected] at hc
  simp [close, hc, hsock]

/-- A socket that close() has closed is not coherent. -/
theorem not_coherent_close {sock : Socket} (closed : Bool) (h : sock.isValid = true) :
    ¬ State.Coherent ⟨sock.close.2, closed⟩ := by
  intro hc
  have hvalid := hc.valid (by rw [close_eq h]; rfl)
  rw [close_eq h] at hvalid
  simp [isValid] at hvalid

theorem State.Coherent.init (family : Int) : State.Coherent ⟨.new family, false⟩ where
  valid := fun h => by cases h
  closed := fun h => by cases h

/-! ## The descriptor made where there is none -/

theorem ensureValid_isConnected (sock : Socket) (fd : Int) : (sock.ensureValid fd).isConnected = sock.isConnected := by
  simp only [ensureValid, newSock]
  split <;> rfl

theorem ensureValid_m_family (sock : Socket) (fd : Int) : (sock.ensureValid fd).m_family = sock.m_family := by
  simp only [ensureValid, newSock]
  split <;> rfl

theorem ensureValid_isValid (sock : Socket) (fd : Int) :
    (sock.ensureValid fd).isValid = true ↔ sock.isValid = true ∨ fd ≠ -1 := by
  cases h : sock.isValid with
  | true => simp [ensureValid, h]
  | false =>
      have hsock := isValid_eq_false.mp h
      simp [ensureValid, newSock, isValid, hsock]

theorem State.Coherent.ensureValid_iff (h : s.Coherent) (fd : Int) :
    State.Coherent ⟨s.sock.ensureValid fd, s.closed⟩ ↔ (s.closed = true → fd = -1) := by
  constructor
  · intro hc hclosed
    have hvalid := (hc.closed hclosed).2
    by_contra hfd
    exact absurd ((ensureValid_isValid s.sock fd).mpr (.inr hfd)) (by simp [hvalid])
  · intro hok
    refine ⟨fun hc => ?_, fun hclosed => ?_⟩
    · rw [ensureValid_isConnected] at hc
      exact (ensureValid_isValid s.sock fd).mpr (.inl (h.valid hc))
    · obtain ⟨hc, hv⟩ := h.closed hclosed
      refine ⟨(ensureValid_isConnected s.sock fd).trans hc, ?_⟩
      rw [Bool.eq_false_iff]
      intro hvalid
      rcases (ensureValid_isValid s.sock fd).mp hvalid with hvalid | hfd
      · exact absurd hvalid (by simp [hv])
      · exact hfd (hok hclosed)

/-! ## One operation -/

/-- The state after `op`. -/
def State.after (s : State) (op : Op) : State :=
  ⟨(s.sock.run op).2, State.closedAfter s.closed op (s.sock.run op).1⟩

theorem step_eq (s : State) (op : Op) : step s op = .next (s.after op) := rfl

theorem after_init (s : State) (newsock : Int) (ctx : Bool) :
    s.after (.init newsock ctx) =
      if newsock ≠ -1 ∧ ctx = true then ⟨{ s.sock with m_sock := newsock, m_isConnected := true }, false⟩ else s := by
  by_cases h : newsock ≠ -1 ∧ ctx = true <;> simp [State.after, run, init, State.closedAfter, h]

theorem after_bind (s : State) (family fd : Int) (taken : Bool) (rt : Int) :
    s.after (.bind family fd taken rt) = ⟨s.sock.ensureValid fd, s.closed⟩ := by
  simp only [State.after, run, bind, Prod.map, id, State.closedAfter]
  split_ifs <;> rfl

theorem after_connect (s : State) (family fd rt : Int) :
    s.after (.connect family fd rt) =
      if (s.sock.ensureValid fd).isValid = true ∧ family = s.sock.m_family then
        if rt = 0 then ⟨{ s.sock.ensureValid fd with m_isConnected := true }, false⟩
        else ⟨(s.sock.ensureValid fd).close.2, s.closed⟩
      else ⟨s.sock.ensureValid fd, s.closed⟩ := by
  simp only [State.after, run, connect, ensureValid_m_family]
  by_cases hv : (s.sock.ensureValid fd).isValid = true
  · by_cases hf : family = s.sock.m_family
    · by_cases hrt : rt = 0 <;> simp [hv, hf, hrt, State.closedAfter]
    · simp [hv, hf, State.closedAfter]
  · simp [hv, State.closedAfter]

theorem after_listen (s : State) (rt : Int) :
    s.after (.listen rt) = if s.sock.isValid = true ∧ rt ≠ 0 then ⟨s.sock.close.2, s.closed⟩ else s := by
  by_cases hv : s.sock.isValid = true
  · by_cases hrt : rt = 0 <;> simp [State.after, run, listen, State.closedAfter, hv, hrt]
  · simp [State.after, run, listen, State.closedAfter, hv]

theorem after_close (s : State) : s.after .close = ⟨s.sock.close.2, true⟩ := rfl

theorem State.Coherent.after_iff (h : s.Coherent) (op : Op) : (s.after op).Coherent ↔ Harmless s op := by
  have hout (hv : s.sock.isValid = false) : s.sock.isConnected = false := by
    by_contra hc
    exact absurd (h.valid (by simpa using hc)) (by simp [hv])
  have hopen (hv : s.sock.isValid = true) : s.closed = false := by
    by_contra hc
    exact absurd (h.closed (by simpa using hc)).2 (by simp [hv])
  cases op with
  | init newsock ctx =>
      refine iff_of_true ?_ trivial
      rw [after_init]
      split_ifs with hnew
      · exact ⟨fun _ => by simpa [isValid] using hnew.1, fun hc => by cases hc⟩
      · exact h
  | bind family fd taken rt =>
      rw [after_bind]
      exact h.ensureValid_iff fd
  | connect family fd rt =>
      rw [after_connect, Harmless, ← ensureValid_isValid]
      by_cases hv : (s.sock.ensureValid fd).isValid = true
      · by_cases hf : family = s.sock.m_family
        · by_cases hrt : rt = 0
          · simp only [hv, hf, hrt, and_self, if_true, forall_const, iff_true]
            exact ⟨fun _ => hv, fun hc => by cases hc⟩
          · simp only [hv, hf, hrt, and_self, if_true, if_false, forall_const, iff_false]
            exact not_coherent_close s.closed hv
        · simp only [hv, hf, and_false, if_false, forall_const]
          rw [h.ensureValid_iff]
          rcases (ensureValid_isValid s.sock fd).mp hv with hvalid | hfd
          · simp [hopen hvalid]
          · simp [hfd]
      · simp only [hv, false_and, if_false, false_implies, iff_true, Bool.false_eq_true]
        refine (h.ensureValid_iff fd).mpr fun _ => ?_
        by_contra hfd
        exact hv ((ensureValid_isValid s.sock fd).mpr (.inr hfd))
  | listen rt =>
      rw [after_listen, Harmless]
      by_cases hv : s.sock.isValid = true
      · by_cases hrt : rt = 0
        · simpa [hrt] using h
        · simp only [hv, hrt, ne_eq, not_false_eq_true, and_self, if_true, forall_const, iff_false]
          exact not_coherent_close s.closed hv
      · simpa [hv] using h
  | close =>
      rw [after_close, Harmless]
      cases hv : s.sock.isValid with
      | true => simpa using not_coherent_close true hv
      | false =>
          simp only [iff_true]
          rw [close_of_out (hout hv) hv]
          exact ⟨fun hc => absurd hc (by simp [hout hv]), fun _ => ⟨hout hv, hv⟩⟩
  | transfer rt => exact iff_of_true h trivial

end Mingfwq.Socket
