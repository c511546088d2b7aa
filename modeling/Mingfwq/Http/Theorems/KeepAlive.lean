import Mingfwq.Http.Lemmas.Segments
import Mingfwq.Http.Lemmas.Body
import Mingfwq.Http.Theorems.ContentLength

/-!
# Requests in a row

What HttpServer::handleClient gets from a connection that it keeps alive.
-/

namespace Mingfwq.Http

open Lib HttpRequestParser

/-- The parser accepts `head` with its last byte and fills `request` from it. -/
def Parses (mParser : HttpParser) (head : Bytes) (request : HttpRequest) : Prop :=
  ∃ cs m, (HttpRequestParser.new mParser).exec head head.length = .stop head.length cs (m, ⟨request, 0⟩)

/-- A request on the wire: its head, what the head says, and its body. -/
structure WireRequest where
  head : Bytes
  request : HttpRequest
  body : Bytes

namespace WireRequest

def bytes (r : WireRequest) : Bytes := r.head ++ r.body

/-- The request with its body. -/
def full (r : WireRequest) : HttpRequest := { r.request with m_body := r.body }

/-- The head is well formed, whatever the parser finds in its memory, and declares the length of the body. -/
structure WellFormed (memory : Nat → Memory HttpParser) (lexical_cast : LexicalCast) (r : WireRequest) : Prop where
  parses : ∀ i, Parses (memory i).mParser r.head r.request
  length_eq : (getAs lexical_cast r.request.m_headers (ascii "content-length") 0).toNat = r.body.length

theorem WellFormed.bytes_pos {memory : Nat → Memory HttpParser} {lexical_cast : LexicalCast} {r : WireRequest}
    (h : r.WellFormed memory lexical_cast) (i : Nat) : 0 < r.bytes.length := by
  obtain ⟨cs, m, hexec⟩ := h.parses i
  have hpos := (stop_final hexec).1
  rw [bytes, List.length_append]
  omega

end WireRequest

/-- The bytes of all requests, in a row. -/
def wire (rs : List WireRequest) : Bytes := (rs.map WireRequest.bytes).flatten

/-- Every head is inside one read, when the read before it has ended with the request before. -/
def HeadsInOneRead (buff_size : BufferSize) : List WireRequest → Peer → Prop
  | [], _ => True
  | r :: rs, peer =>
      r.head.length ≤ peer.nextRead buff_size ∧ HeadsInOneRead buff_size rs (peer.dropBytes r.bytes.length)

/-- What handleClient should get: every request, and after it all that follows it still to arrive. -/
def expected : List WireRequest → List (HttpRequest × Bytes)
  | [] => []
  | r :: rs => (r.full, wire rs) :: expected rs

/-- The read with the head ends with the head, when there is no body, and otherwise inside the body before its end.
The lengths are those that `int64_t length` and the `int` of readFixSize can hold. -/
def ReadEndsInside (r : WireRequest) (read : Nat) : Prop :=
  if r.body = [] then read = r.head.length
  else read < r.bytes.length ∧ r.body.length < 2 ^ 63 ∧ 0 < toInt32 (r.bytes.length - read : Nat)

def ReadsEndInside (buff_size : BufferSize) : List WireRequest → Peer → Prop
  | [], _ => True
  | r :: rs, peer =>
      ReadEndsInside r (peer.nextRead buff_size) ∧
        ReadsEndInside buff_size rs (peer.dropBytes r.bytes.length)

namespace HttpSession

variable {buff_size : BufferSize} {memory : Memory HttpParser} {lexical_cast : LexicalCast} {peer left : Peer}

/-- A read that begins with a well-formed head: the loop ends with what follows the head in the buffer. -/
theorem recvHead_parses {head tail data : Bytes} {request : HttpRequest} {mParser : HttpParser} {fuel : Nat}
    (hparses : Parses mParser head request) (hrec : peer.receive buff_size = .ok (head ++ tail, left))
    (hdata : data.length = buff_size) :
    ∃ parser data', recvHead buff_size (fuel + 1) (.new mParser) data 0 peer =
        .ok (parser, data', tail.length, left) ∧
      parser.m_data = request ∧ data'.take tail.length = tail ∧ tail.length ≤ data'.length := by
  obtain ⟨cs, m, hexec⟩ := hparses
  have hr := Peer.receive_spec hrec
  have hle := hr.length_le
  have hfit : (head ++ tail).length ≤ data.length := by omega
  have hpos := (stop_final hexec).1
  have hlen : (overwrite data 0 (head ++ tail)).length = data.length := length_overwrite (by omega)
  have htake : (overwrite data 0 (head ++ tail)).take (head ++ tail).length = head ++ tail := take_overwrite_zero hfit
  have hself : overwrite head 0 head = head := by
    rw [overwrite_eq (by omega), List.take_zero, List.nil_append, Nat.zero_add, List.drop_length, List.append_nil]
  have hw : Whole ([] ++ head ++ tail) (overwrite data 0 (head ++ tail)) :=
    ⟨by rw [List.nil_append, htake], by rw [List.nil_append]; omega⟩
  have hrel : Run.Rel 0 (fun k k' => k.2 = k'.2)
      ((HttpRequestParser.new mParser).exec (overwrite head 0 head) head.length)
      (scan (http_parser_next (HttpRequestParser.new mParser).mParser.uri_relaxed) HttpParser.Action.breaks
        (HttpParser.run callbacks (overwrite data 0 (head ++ tail)) (head ++ tail).length) 0 head
        (HttpRequestParser.new mParser).mParser.cs
        ({ (HttpRequestParser.new mParser).mParser with nread := 0, mark := 0, field_len := 0, field_start := 0 },
          (HttpRequestParser.new mParser).toParsed)) :=
    exec_rel hw (Nat.le_refl head.length) rfl http_parser_watch_start
  rw [hself, hexec] at hrel
  obtain ⟨⟨m', d'⟩, hrun, hd⟩ := hrel.of_stop
  rw [Nat.zero_add] at hrun
  have hstop : (HttpRequestParser.new mParser).exec (overwrite data 0 (head ++ tail)) (head ++ tail).length =
      .stop head.length cs (m', d') := by
    rw [HttpRequestParser.exec, http_parser_exec, htake, List.drop_zero, scan_append, hrun]
  have hres : ((HttpRequestParser.new mParser).exec (overwrite data 0 (head ++ tail)) (head ++ tail).length).result
      (head ++ tail).length http_parser_error = some (head.length, cs, m', d') := by rw [hstop]; rfl
  have hcs := (stop_final hstop).2
  have hoffset : (head ++ tail).length - head.length = tail.length := by simp
  have hmoved : (overwrite (overwrite data 0 (head ++ tail)) 0
      (((overwrite data 0 (head ++ tail)).drop head.length).take ((head ++ tail).length - head.length))).take
        ((head ++ tail).length - head.length) = (head ++ tail).drop head.length := take_moved (by simp) rfl hfit
  rw [hoffset, List.drop_left] at hmoved
  have hd' : d' = ⟨request, 0⟩ := hd.symm
  have hok : (leave m' d' cs head.length).hasError = false := by
    rw [leave_hasError, hd']
    exact ⟨rfl, Nat.ne_of_gt (Nat.lt_of_lt_of_le (by decide) hcs)⟩
  refine ⟨leave m' d' cs head.length, _, ?_, by rw [hd']; rfl, hmoved, ?_⟩
  · rw [recvHead_result hrec (ready_new mParser) hdata hres, hok, if_neg Bool.false_ne_true]
    simp only [hoffset]
    rw [if_neg (by simp only [List.length_append] at hle; omega), leave_isFinished hcs, if_pos Int.one_ne_zero]
  · rw [length_overwrite]
    · simp only [List.length_append] at hfit
      omega
    · simp only [List.length_take, List.length_drop, hlen, Nat.zero_add]
      omega

theorem Parses.body_nil {head : Bytes} {request : HttpRequest} {mParser : HttpParser}
    (h : Parses mParser head request) : request.m_body = [] := by
  obtain ⟨cs, m, hexec⟩ := h
  have hres : ((HttpRequestParser.new mParser).exec head head.length).result head.length http_parser_error =
      some (head.length, cs, m, ⟨request, 0⟩) := by rw [hexec]; rfl
  exact http_parser_exec_body (Nat.zero_le _) (Nat.le_refl _) hres

/-- A call of recvRequest with a well-formed request next on the wire: after the head loop, `tail` is in the buffer. -/
theorem recvRequest_wire {r : WireRequest} {rest : Bytes} {memory : Nat → Memory HttpParser} (i : Nat)
    (hwf : r.WellFormed memory lexical_cast) (hbytes : peer.bytes = r.bytes ++ rest)
    (hhead : r.head.length ≤ peer.nextRead buff_size) :
    ∃ tail left data, peer.receive buff_size = .ok (r.head ++ tail, left) ∧ r.body ++ rest = tail ++ left.bytes ∧
      data.take tail.length = tail ∧ tail.length ≤ data.length ∧
      recvRequest buff_size (memory i) lexical_cast peer =
        (recvBody (toInt64 r.body.length) data tail.length left).bind fun (body, left) =>
          .ok ({ r.request with m_body := body.getD [] }, left) := by
  obtain ⟨cs, m, hexec⟩ := hwf.parses i
  have hpos := (stop_final hexec).1
  cases hrec : peer.receive buff_size with
  | error s =>
      simp only [Peer.nextRead, hrec] at hhead
      omega
  | ok res =>
      obtain ⟨bytes, left⟩ := res
      rw [Peer.nextRead_eq hrec] at hhead
      have hsplit := (Peer.receive_spec hrec).bytes_eq
      rw [hbytes, WireRequest.bytes, List.append_assoc] at hsplit
      have htake : bytes.take r.head.length = r.head := by
        have h := congrArg (List.take r.head.length) hsplit
        rw [List.take_left, List.take_append_of_le_length hhead] at h
        exact h.symm
      obtain ⟨tail, rfl⟩ : ∃ tail, bytes = r.head ++ tail :=
        ⟨bytes.drop r.head.length, by
          have h := List.take_append_drop r.head.length bytes
          rw [htake] at h
          exact h.symm⟩
      rw [List.append_assoc, List.append_cancel_left_eq] at hsplit
      obtain ⟨parser, data, hloop, hmdata, hdata, hlen⟩ : ∃ parser data,
          recvHead buff_size (peer.size + 1) (.new (memory i).mParser) ((memory i).newChars buff_size) 0 peer =
            .ok (parser, data, tail.length, left) ∧
          parser.m_data = r.request ∧ data.take tail.length = tail ∧ tail.length ≤ data.length :=
        recvHead_parses (hwf.parses i) hrec (by simp [Memory.newChars])
      refine ⟨tail, left, data, rfl, hsplit, hdata, hlen, ?_⟩
      have hnil := Parses.body_nil (hwf.parses i)
      rw [recvRequest, hloop, ok_bind]
      simp only [HttpRequestParser.getContentLength, hmdata, hwf.length_eq]
      cases recvBody (toInt64 r.body.length) data tail.length left with
      | error s => rfl
      | ok res =>
          obtain ⟨body, left⟩ := res
          cases body with
          | none =>
              simp only [ok_bind, Except.bind, Option.getD_none, ← hnil]
          | some body => rfl

section Request

variable {r : WireRequest} {rest : Bytes} {memory : Nat → Memory HttpParser} {i : Nat}

/-- The read with the head ends inside the request: the call returns the request, and nothing else is read. -/
theorem recvRequest_inside (hwf : r.WellFormed memory lexical_cast) (hs : peer.Successful)
    (hbytes : peer.bytes = r.bytes ++ rest) (hhead : r.head.length ≤ peer.nextRead buff_size)
    (hinside : ReadEndsInside r (peer.nextRead buff_size)) :
    recvRequest buff_size (memory i) lexical_cast peer = .ok (r.full, peer.dropBytes r.bytes.length) := by
  obtain ⟨tail, left, data, hrec, hsplit, hdata, hlen, hcall⟩ := recvRequest_wire i hwf hbytes hhead
  have hleft := Peer.receive_dropBytes hs hrec
  have hread : peer.nextRead buff_size = r.head.length + tail.length := by
    rw [Peer.nextRead_eq hrec, List.length_append]
  rw [hread, ReadEndsInside] at hinside
  rw [hcall]
  by_cases hbody : r.body = []
  · rw [if_pos hbody] at hinside
    have htail : tail = [] := List.length_eq_zero_iff.mp (by omega)
    have hnil := Parses.body_nil (hwf.parses i)
    rw [recvBody_none (by rw [hbody]; exact Or.inl (by decide))]
    simp only [Except.bind, Option.getD_none, WireRequest.full, WireRequest.bytes, hbody, List.append_nil, hleft, htail]
  · rw [if_neg hbody, WireRequest.bytes, List.length_append] at hinside
    obtain ⟨hlt, h63, hint⟩ := hinside
    have hsum := congrArg List.length hsplit
    simp only [List.length_append] at hsum
    obtain ⟨left', hrecv, -, hleft', -⟩ := recvBody_some (show tail.length < r.body.length by omega) hlen
      ((Peer.receive_spec hrec).successful hs) (by omega)
    rw [if_neg (by rw [show r.body.length - tail.length = r.head.length + r.body.length -
      (r.head.length + tail.length) by omega]; omega)] at hrecv
    have hwhole : tail ++ left.bytes.take (r.body.length - tail.length) = r.body := by
      have htake := congrArg (List.take r.body.length) hsplit
      rw [List.take_left, List.take_append, List.take_of_length_le (by omega)] at htake
      exact htake.symm
    rw [toInt64_of_lt h63, hrecv, hdata, hwhole]
    simp only [Except.bind, Option.getD_some, WireRequest.full, WireRequest.bytes, hleft', hleft,
      Peer.dropBytes_dropBytes, List.length_append]
    rw [show r.head.length + tail.length + (r.body.length - tail.length) = r.head.length + r.body.length by omega]

/-- Otherwise the call does not return the request, or bytes behind the request are lost. -/
theorem recvRequest_outside {request : HttpRequest} {left : Peer} (hwf : r.WellFormed memory lexical_cast)
    (hs : peer.Successful) (hbytes : peer.bytes = r.bytes ++ rest) (hhead : r.head.length ≤ peer.nextRead buff_size)
    (hinside : ¬ ReadEndsInside r (peer.nextRead buff_size))
    (hret : recvRequest buff_size (memory i) lexical_cast peer = .ok (request, left)) :
    ¬ (request = r.full ∧ left.bytes = rest) := by
  obtain ⟨tail, left₁, data, hrec, hsplit, hdata, hlen, hcall⟩ := recvRequest_wire i hwf hbytes hhead
  have hread : peer.nextRead buff_size = r.head.length + tail.length := by
    rw [Peer.nextRead_eq hrec, List.length_append]
  have hsum := congrArg List.length hsplit
  simp only [List.length_append] at hsum
  rw [hread, ReadEndsInside] at hinside
  rw [hcall] at hret
  rintro ⟨rfl, hrest⟩
  by_cases hbody : r.body = []
  · rw [if_pos hbody] at hinside
    rw [recvBody_none (by rw [hbody]; exact Or.inl (by decide))] at hret
    simp only [Except.bind, Except.ok.injEq, Prod.mk.injEq] at hret
    rw [hbody, List.length_nil, hret.2, hrest] at hsum
    omega
  · have hpos : 0 < r.body.length := List.length_pos_of_ne_nil hbody
    rw [if_neg hbody, WireRequest.bytes, List.length_append] at hinside
    have hnone : recvBody (toInt64 r.body.length) data tail.length left₁ ≠ .ok (none, left₁) := by
      intro hnone
      rw [hnone] at hret
      simp only [Except.bind, Option.getD_none, WireRequest.full, Except.ok.injEq, Prod.mk.injEq,
        HttpRequest.mk.injEq] at hret
      exact hbody hret.1.2.2.2.2.2.2.1.symm
    by_cases h63 : r.body.length < 2 ^ 63
    · rw [toInt64_of_lt h63] at hnone hret
      by_cases hlt : tail.length < r.body.length
      · obtain ⟨left', hrecv, -⟩ := recvBody_some hlt hlen ((Peer.receive_spec hrec).successful hs) (by omega)
        rw [if_pos (by
          rw [show r.body.length - tail.length = r.head.length + r.body.length - (r.head.length + tail.length) by omega]
          by_contra hint
          exact hinside ⟨by omega, h63, by omega⟩)] at hrecv
        rw [hrecv] at hret
        cases hret
      · exact hnone (recvBody_none (Or.inr (by omega)))
    · have h64 : r.body.length < 2 ^ 64 := by
        rw [← hwf.length_eq]
        exact UInt64.toNat_lt _
      exact hnone (recvBody_none (Or.inl (toInt64_nonpos (by omega) h64)))

end Request

/-- The successive calls return exactly the requests, each leaving all that follows it, if and only if the read with
each head ends inside its request. -/
theorem handleClient_iff {rs : List WireRequest} {memory : Nat → Memory HttpParser} {fuel : Nat}
    (hwf : ∀ r ∈ rs, r.WellFormed memory lexical_cast) (hs : peer.Successful) (hbytes : peer.bytes = wire rs)
    (hheads : HeadsInOneRead buff_size rs peer) (hfuel : peer.size < fuel) :
    (handleClient buff_size memory lexical_cast true fuel peer).map (fun r => (r.1, r.2.bytes)) = expected rs ↔
      ReadsEndInside buff_size rs peer := by
  induction rs generalizing peer fuel with
  | nil =>
      obtain ⟨fuel, rfl⟩ : ∃ f, fuel = f + 1 := ⟨fuel - 1, by omega⟩
      have hnil := Peer.eq_nil_of_bytes hs hbytes
      subst hnil
      have hclosed : recvRequest buff_size (memory fuel) lexical_cast [] = .error .closed := rfl
      rw [handleClient, hclosed]
      exact iff_of_true rfl trivial
  | cons r rs ih =>
      obtain ⟨fuel, rfl⟩ : ∃ f, fuel = f + 1 := ⟨fuel - 1, by omega⟩
      obtain ⟨hhead, hheads⟩ := hheads
      have hr := hwf r List.mem_cons_self
      have hsplit : peer.bytes = r.bytes ++ wire rs := hbytes
      rw [handleClient]
      by_cases hinside : ReadEndsInside r (peer.nextRead buff_size)
      · have hcall : recvRequest buff_size (memory fuel) lexical_cast peer =
            .ok (r.full, peer.dropBytes r.bytes.length) := recvRequest_inside hr hs hsplit hhead hinside
        have hne : peer.bytes ≠ [] := by
          intro hnil
          have hpos := hr.bytes_pos fuel
          have hlen := congrArg List.length hsplit
          rw [List.length_append, hnil, List.length_nil] at hlen
          omega
        have hs' := Peer.dropBytes_successful r.bytes.length hs
        have hrest : (peer.dropBytes r.bytes.length).bytes = wire rs := by
          rw [Peer.bytes_dropBytes hs, hsplit, List.drop_left]
        have hsize : (peer.dropBytes r.bytes.length).size < peer.size :=
          Peer.size_dropBytes_lt (hr.bytes_pos fuel) hne
        have hiff := ih (fun r hr => hwf r (List.mem_cons_of_mem _ hr)) hs' hrest hheads
          (show (peer.dropBytes r.bytes.length).size < fuel by omega)
        rw [hcall]
        simp only [if_true, List.map_cons, expected, List.cons.injEq, hrest, true_and, ReadsEndInside, hinside]
        exact hiff
      · refine iff_of_false ?_ fun h => hinside h.1
        intro hall
        cases hcall : recvRequest buff_size (memory fuel) lexical_cast peer with
        | error s =>
            rw [hcall] at hall
            cases hall
        | ok res =>
            obtain ⟨request, left⟩ := res
            rw [hcall] at hall
            simp only [if_true, List.map_cons, expected, List.cons.injEq, Prod.mk.injEq] at hall
            exact recvRequest_outside hr hs hsplit hhead hinside hcall hall.1

end HttpSession

/-! ## Requests in reads of their own, and two in one read -/

/-- A request with a body, and one without. -/
def postRequest : WireRequest where
  head := postHead
  request := { HttpRequest.new with m_method := .POST, m_headers := [(ascii "Content-Length", ascii "3")] }
  body := ascii "abc"

def getRequest : WireRequest where
  head := ascii "GET /a HTTP/1.1\r\n\r\n"
  request := { HttpRequest.new with m_path := ascii "/a" }
  body := []

theorem parses_of_exec {mParser : HttpParser} {head : Bytes} {request : HttpRequest}
    (h : (match (HttpRequestParser.new mParser).exec head head.length with
      | .stop p _ (_, parsed) => some (p, parsed)
      | _ => none) = some (head.length, ⟨request, 0⟩)) : Parses mParser head request := by
  split at h
  · next p cs m parsed hexec =>
      simp only [Option.some.injEq, Prod.mk.injEq] at h
      obtain ⟨rfl, rfl⟩ := h
      exact ⟨cs, m, hexec⟩
  · cases h

theorem postRequest_wellFormed : postRequest.WellFormed (fun _ => zeroMemory) decimal where
  parses := fun _ => parses_of_exec (by rfl)
  length_eq := by rfl

theorem getRequest_wellFormed : getRequest.WellFormed (fun _ => zeroMemory) decimal where
  parses := fun _ => parses_of_exec (by rfl)
  length_eq := by rfl

theorem handleClient_ownReads :
    (HttpSession.handleClient defaultBufferSize (fun _ => zeroMemory) decimal true 100
      [.data (postHead ++ ascii "a"), .data (ascii "bc"), .data getRequest.head]).map (fun r => (r.1, r.2.bytes)) =
        expected [postRequest, getRequest] := by
  refine (HttpSession.handleClient_iff ?_ ?_ (by decide) ?_ (by decide)).mpr ?_
  · intro r hr
    rcases List.mem_cons.mp hr with rfl | hr
    · exact postRequest_wellFormed
    · rw [List.mem_singleton.mp hr]
      exact getRequest_wellFormed
  · simp [Peer.Successful, Packet.Successful, getRequest, ascii]
  · exact ⟨by decide, by decide, trivial⟩
  · refine ⟨?_, ?_, trivial⟩
    · rw [ReadEndsInside, if_neg (by decide)]
      decide +kernel
    · rw [ReadEndsInside, if_pos (by decide)]
      decide

/-- Two requests in one read: the second is never returned. -/
theorem handleClient_dropped :
    getRequest.WellFormed (fun _ => zeroMemory) decimal ∧
    HeadsInOneRead defaultBufferSize [getRequest, getRequest] [.data (wire [getRequest, getRequest])] ∧
    (HttpSession.handleClient defaultBufferSize (fun _ => zeroMemory) decimal true 100
      [.data (wire [getRequest, getRequest])]).map Prod.fst = [getRequest.full] ∧
    (HttpSession.handleClient defaultBufferSize (fun _ => zeroMemory) decimal true 100
      [.data (wire [getRequest, getRequest])]).map (fun r => (r.1, r.2.bytes)) ≠
        expected [getRequest, getRequest] :=
  ⟨getRequest_wellFormed, ⟨by decide, by decide, trivial⟩, by decide +kernel, by decide +kernel⟩

end Mingfwq.Http
