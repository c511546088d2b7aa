import Mingfwq.Http.Lemmas.ResponseFields
import Mingfwq.Http.Theorems.ContentLength
import Mingfwq.Http.Theorems.Dump

/-!
# A response that is printed and read back

What dump() prints at one end of a connection, recvResponse() reads at the other, if the head arrives in one read. The
body is lost if all of it arrives in that read.
-/

namespace Mingfwq.Http

open Lib

namespace HttpResponse

/-! ## What is printed -/

def reason_text (response : HttpResponse) : Bytes :=
  if response.m_reason.isEmpty then HttpStatusToString response.m_status else response.m_reason

def status_text (response : HttpResponse) : Bytes := ascii (toString (response.m_status % 2 ^ 32).toNat)

/-- The headers but for the one that m_close stands for. -/
def plain_headers (response : HttpResponse) : MapType :=
  response.m_headers.filter fun e => strcasecmp e.1 (ascii "connection") ≠ .eq

def length_line (response : HttpResponse) : Bytes :=
  if response.m_body.isEmpty then []
  else blank_line (ascii "content-length", ascii (toString response.m_body.length))

/-- The bytes in front of the body. -/
def head (response : HttpResponse) : Bytes :=
  version_text response.m_version ++ 32 :: (response.status_text ++ 32 :: (response.reason_text ++ 13 :: 10 ::
    (response.plain_headers.flatMap blank_line ++
      (blank_line (ascii "connection", connection_value response.m_close) ++ (response.length_line ++ [13, 10])))))

theorem dump_eq (response : HttpResponse) : response.dump = response.head ++ response.m_body := by
  have hblank : ascii " " = [32] := rfl
  have hcrlf : ascii "\r\n" = [13, 10] := rfl
  have hcrlf₂ : ascii "\r\n\r\n" = [13, 10, 13, 10] := rfl
  have hcolon : ascii ": " = [58, 32] := rfl
  have hconnection : ascii "connection: " = ascii "connection" ++ [58, 32] := rfl
  have hlength : ascii "content-length: " = ascii "content-length" ++ [58, 32] := rfl
  have hheaders : (response.m_headers.flatMap fun e => if strcasecmp e.1 (ascii "connection") = .eq then []
      else e.1 ++ ascii ": " ++ e.2 ++ ascii "\r\n") = response.plain_headers.flatMap blank_line := by
    have hline : (fun e : Bytes × Bytes => e.1 ++ ascii ": " ++ e.2 ++ ascii "\r\n") = blank_line := by
      funext e
      simp [blank_line, field_line, hcolon, hcrlf]
    rw [HttpRequest.flatMap_filter, hline]
    rfl
  unfold dump head length_line
  rw [hheaders]
  cases hbody : response.m_body <;> simp [version_text, status_text, reason_text, connection_value, blank_line,
    field_line, hblank, hcrlf, hcrlf₂, hconnection, hlength]

/-- Every member can be printed where it stands, and the headers are none that are read as something else. -/
structure Printable (response : HttpResponse) : Prop where
  version : response.m_version = 0x10 ∨ response.m_version = 0x11
  status : -2 ^ 31 ≤ response.m_status ∧ response.m_status < 2 ^ 31
  reason : ∀ c ∈ response.m_reason, text_char.has c = true
  ordered : response.m_headers.Ordered
  headers : ∀ e ∈ response.plain_headers, LineOk e

/-- The headers with those that are printed besides. -/
def emitted (response : HttpResponse) : MapType :=
  let headers := response.plain_headers.set (ascii "connection") (connection_value response.m_close)
  if response.m_body.isEmpty then headers
  else headers.set (ascii "content-length") (ascii (toString response.m_body.length))

/-! ## The run over the head -/

/-- A text that can stand for the reason. -/
def is_reason (s : Bytes) : Bool := !s.isEmpty && s.all text_char.has

theorem reason_map : (HTTP_STATUS_MAP.all fun e => is_reason (ascii e.2)) = true := by decide +kernel

theorem of_is_reason {s : Bytes} (h : is_reason s = true) : s ≠ [] ∧ ∀ c ∈ s, text_char.has c = true := by
  simpa [is_reason] using h

theorem HttpStatusToString_ok (s : HttpStatus) :
    HttpStatusToString s ≠ [] ∧ ∀ c ∈ HttpStatusToString s, text_char.has c = true := by
  unfold HttpStatusToString
  cases hs : HTTP_STATUS_MAP.lookup s with
  | none => exact of_is_reason (by decide)
  | some desc =>
      obtain ⟨l₁, l₂, hmap, -⟩ := List.lookup_eq_some_iff.mp hs
      exact of_is_reason (List.all_eq_true.mp reason_map (s, desc) (by rw [hmap]; simp))

theorem Printable.reason_ok {response : HttpResponse} (h : response.Printable) :
    response.reason_text ≠ [] ∧ ∀ c ∈ response.reason_text, text_char.has c = true := by
  unfold reason_text
  split
  · exact HttpStatusToString_ok response.m_status
  · next hne => exact ⟨fun hnil => hne (by simp [hnil]), h.reason⟩

theorem toInt32_emod {x : Int} (hlo : -2 ^ 31 ≤ x) (hhi : x < 2 ^ 31) :
    toInt32 (min (2 ^ 63 - 1) ((x % 2 ^ 32).toNat : Int)) = x := by
  have hmod : (x % 2 ^ 32).bmod (2 ^ 32) = x.bmod (2 ^ 32) := Int.emod_bmod x (2 ^ 32)
  rw [toInt32, Int.min_eq_right (by omega), Int.toNat_of_nonneg (by omega), hmod, Int.bmod_eq_of_le] <;> omega

theorem Printable.atoi_status {response : HttpResponse} (h : response.Printable) (rest : Bytes) :
    atoi (response.status_text ++ 32 :: rest) = response.m_status := by
  have hend : ∀ d ∈ (32 :: rest).head?, CharClass.digit.has d = false := fun d hd => Option.some.inj hd ▸ rfl
  unfold status_text
  rw [atoi_digits toString_ne_nil (fun d hd => digits_char hd) hend, digitsValue_toString]
  exact toInt32_emod h.status.1 h.status.2

theorem foldl_set_ordered {l m : MapType} (h : (l ++ m).Ordered) :
    m.foldl (fun m e => m.set e.1 e.2) l = l ++ m := by
  induction m generalizing l with
  | nil => simp
  | cons e m ih =>
      have hbefore : ∀ f ∈ l, strcasecmp f.1 e.1 = .lt := fun f hf =>
        (List.pairwise_append.mp h).2.2 f hf e List.mem_cons_self
      have happend : l ++ e :: m = l ++ [e] ++ m := by simp
      rw [happend] at h ⊢
      rw [List.foldl_cons, MapType.set_last hbefore]
      exact ih h

/-- What the parser has filled behind the head. -/
def readBack (response : HttpResponse) : Parsed HttpResponse where
  m_data := { HttpResponse.new with
    m_status := response.m_status
    m_version := response.m_version
    m_reason := response.reason_text
    m_headers := response.emitted }
  m_error := 0

theorem Printable.emitted_eq {response : HttpResponse} (h : response.Printable) :
    with_fields [] response.plain_headers = response.plain_headers := by
  have hordered : MapType.Ordered ([] ++ response.plain_headers) := h.ordered.filter _
  exact foldl_set_ordered hordered

section Run

variable {response : HttpResponse} {buffer more rest xs : Bytes} {len n p : Nat} {m : HttpClientParser}
  {k : Parsed HttpResponse}

theorem head?_length_line (response : HttpResponse) (xs : Bytes) :
    (response.length_line ++ 13 :: xs).head? = some 13 ∨ (response.length_line ++ 13 :: xs).head? = some 99 := by
  unfold length_line
  split
  · exact .inl rfl
  · refine .inr ?_
    rw [blank_line_append]
    rfl

/-- The line of the length, where there is one. -/
theorem scan_length_line (xs : Bytes) (hlen : response.m_body.length < 2 ^ 31)
    (hbuffer : buffer.drop p = response.length_line ++ rest) :
    ∃ m', m'.chunked = m.chunked ∧ m'.close = m.close ∧
      m'.content_len = (if response.m_body.isEmpty then m.content_len else response.m_body.length) ∧
      response_scan buffer n p (response.length_line ++ xs) 20 (m, k) =
        response_scan buffer n (p + response.length_line.length) xs 20
          (m', if response.m_body.isEmpty then k
            else k.withField (ascii "content-length") (ascii (toString response.m_body.length))) := by
  unfold length_line at *
  cases hempty : response.m_body.isEmpty with
  | true => exact ⟨m, rfl, rfl, rfl, rfl⟩
  | false =>
      rw [hempty] at hbuffer
      obtain ⟨m', hchunked, hcontent, hclose, hscan⟩ := scan_content_length (n := n) (m := m) (k := k) xs hlen hbuffer
      exact ⟨m', hchunked, hclose, hcontent, hscan⟩

/-- From the connection header to the end of the head. -/
theorem scan_tail (xs : Bytes) (hlen : response.m_body.length < 2 ^ 31)
    (hbuffer : buffer.drop p = blank_line (ascii "connection", connection_value response.m_close) ++
      (response.length_line ++ rest)) (hk : k.m_data.m_headers = response.plain_headers) :
    ∃ m', m'.chunked = m.chunked ∧ m'.close = (response.m_close || m.close) ∧
      m'.content_len = (if response.m_body.isEmpty then m.content_len else response.m_body.length) ∧
      response_scan buffer n p (blank_line (ascii "connection", connection_value response.m_close) ++
        (response.length_line ++ 13 :: 10 :: xs)) 20 (m, k) =
          .stop (p + (blank_line (ascii "connection", connection_value response.m_close)).length +
            response.length_line.length + 2) 120
            (m', { k with m_data := { k.m_data with m_headers := response.emitted } }) := by
  obtain ⟨m₁, hchunked₁, hcontent₁, hclose₁, hscan₁⟩ := scan_connection (n := n) (m := m) (k := k)
    (response.head?_length_line (10 :: xs)) hbuffer
  obtain ⟨m₂, hchunked₂, hclose₂, hcontent₂, hscan₂⟩ := scan_length_line (n := n) (m := m₁)
    (k := k.withField (ascii "connection") (connection_value response.m_close)) (13 :: 10 :: xs) hlen
    (drop_append hbuffer)
  have hfilled : (if response.m_body.isEmpty then k.withField (ascii "connection") (connection_value response.m_close)
      else (k.withField (ascii "connection") (connection_value response.m_close)).withField (ascii "content-length")
        (ascii (toString response.m_body.length))) =
      { k with m_data := { k.m_data with m_headers := response.emitted } } := by
    unfold emitted Parsed.withField
    rw [hk]
    cases response.m_body.isEmpty <;> rfl
  rw [hcontent₁] at hcontent₂
  rw [hscan₁, hscan₂, scan_response_end, hfilled]
  refine ⟨_, ?_, ?_, ?_, rfl⟩
  · exact hchunked₂.trans hchunked₁
  · exact hclose₂.trans hclose₁
  · exact hcontent₂

/-- The response after its first line. -/
def status_line (response : HttpResponse) : Parsed HttpResponse where
  m_data := { HttpResponse.new with
    m_status := response.m_status
    m_version := response.m_version
    m_reason := response.reason_text }
  m_error := 0

theorem Printable.scan_status_line (h : response.Printable) (xs : Bytes)
    (hbuffer : buffer = version_text response.m_version ++
      32 :: (response.status_text ++ 32 :: (response.reason_text ++ 13 :: 10 :: rest))) :
    ∃ p m', buffer.drop p = rest ∧ p + rest.length = buffer.length ∧ m.SameMessage m' ∧
      response_scan buffer n 0 (version_text response.m_version ++
        32 :: (response.status_text ++ 32 :: (response.reason_text ++ 13 :: 10 :: xs))) 1 (m, ⟨.new, 0⟩) =
        response_scan buffer n p xs 20 (m', response.status_line) := by
  have hversion : (version_text response.m_version).length = 8 := by
    rcases h.version with hv | hv <;> rw [hv] <;> rfl
  have hzero : buffer.drop 0 = version_text response.m_version ++
      32 :: (response.status_text ++ 32 :: (response.reason_text ++ 13 :: 10 :: rest)) := by
    rw [List.drop_zero, hbuffer]
  have hstatus : buffer.drop 9 = response.status_text ++ 32 :: (response.reason_text ++ 13 :: 10 :: rest) := by
    have hdrop := drop_append hzero
    rw [Nat.zero_add, hversion] at hdrop
    rw [show 9 = 8 + 1 from rfl, ← List.drop_drop, hdrop]
    rfl
  have hreason : buffer.drop (9 + response.status_text.length + 1) = response.reason_text ++ 13 :: 10 :: rest := by
    rw [← List.drop_drop, drop_append hstatus]
    rfl
  have hdigits : ∀ c ∈ response.status_text, CharClass.digit.has c = true := fun c hc => digits_char hc
  have hne : response.status_text ≠ [] := toString_ne_nil
  refine ⟨9 + response.status_text.length + 1 + response.reason_text.length + 2, ?_, ?_, ?_, ?_, ?_⟩
  case refine_5 =>
    rw [scan_response_version h.version hzero, Nat.zero_add, scan_status hne hdigits hstatus, h.atoi_status,
      scan_reason h.reason_ok.1 h.reason_ok.2 hreason]
    rfl
  · rw [← List.drop_drop, drop_append hreason]
    rfl
  · rw [hbuffer]
    simp only [List.length_append, List.length_cons, hversion]
    omega
  · exact ⟨rfl, rfl, rfl⟩

/-- The run over a buffer that begins with the head is broken off behind it. -/
theorem Printable.exec (h : response.Printable) (hlen : response.m_body.length < 2 ^ 31) (mParser : HttpClientParser)
    (hbuffer : buffer.take len = response.head ++ more) :
    ∃ m, m.chunked = false ∧ m.close = response.m_close ∧
      m.content_len = (if response.m_body.isEmpty then -1 else (response.m_body.length : Int)) ∧
      (HttpResponseParser.new mParser).exec buffer len = .stop response.head.length 120 (m, response.readBack) := by
  obtain ⟨tail, htail⟩ : ∃ tail : Bytes → Bytes, ∀ xs, tail xs = response.plain_headers.flatMap blank_line ++
    (blank_line (ascii "connection", connection_value response.m_close) ++ (response.length_line ++ 13 :: 10 :: xs)) :=
    ⟨_, fun _ => rfl⟩
  have hhead : ∀ xs, response.head ++ xs = version_text response.m_version ++
      32 :: (response.status_text ++ 32 :: (response.reason_text ++ 13 :: 10 :: tail xs)) := by
    intro xs
    simp [head, htail]
  have hrun : (HttpResponseParser.new mParser).exec buffer len = response_scan buffer len 0 (response.head ++ more) 1
      (httpclient_parser_init (httpclient_parser_init mParser), ⟨.new, 0⟩) := by
    unfold HttpResponseParser.exec httpclient_parser_exec
    rw [hbuffer, List.drop_zero]
    rfl
  have hwhole : buffer = response.head ++ (more ++ buffer.drop len) := by
    rw [← List.append_assoc, ← hbuffer, List.take_append_drop]
  generalize more ++ buffer.drop len = zs at hwhole
  have hlength := congrArg List.length hwhole
  rw [List.length_append] at hlength
  rw [hhead] at hwhole
  obtain ⟨p, m₁, hdrop, hp, hsame₁, hscan₁⟩ := h.scan_status_line (n := len)
    (m := httpclient_parser_init (httpclient_parser_init mParser)) (tail more) hwhole
  rw [htail] at hdrop hp
  obtain ⟨m₂, hsame₂, hscan₂⟩ := scan_plain_lines (n := len) (m := m₁) (k := response.status_line)
    (blank_line (ascii "connection", connection_value response.m_close) ++
      (response.length_line ++ 13 :: 10 :: more)) h.headers hdrop
  obtain ⟨m₃, hchunked, hclose, hcontent, hscan₃⟩ := scan_tail (n := len) (m := m₂)
    (k := { response.status_line with m_data := { response.status_line.m_data with
      m_headers := with_fields response.status_line.m_data.m_headers response.plain_headers } })
    more hlen (drop_append hdrop) h.emitted_eq
  have hsame := hsame₁.trans hsame₂
  refine ⟨m₃, ?_, ?_, ?_, ?_⟩
  · rw [hchunked, hsame.chunked]
    rfl
  · rw [hclose, hsame.close]
    exact Bool.or_false _
  · rw [hcontent, hsame.content_len]
    rfl
  · rw [hrun, hhead, hscan₁, htail, hscan₂, hscan₃]
    have hend : p + (response.plain_headers.flatMap blank_line).length +
        (blank_line (ascii "connection", connection_value response.m_close)).length + response.length_line.length + 2 =
          response.head.length := by
      simp only [List.length_append, List.length_cons] at hp
      omega
    rw [hend]
    rfl

end Run

/-! ## The other end of the connection -/

section Receive

variable {response : HttpResponse} {lexical_cast : LexicalCast} {buff_size : BufferSize} {offset : Nat}
  {data bytes body more next : Bytes} {peer left : Peer} {memory : Memory HttpClientParser}

theorem follow_split (hdata : offset ≤ data.length) (h : follow data offset left = body ++ next) :
    (offset ≤ body.length → data.take offset ++ left.bytes.take (body.length - offset) = body ∧
      left.bytes.drop (body.length - offset) = next) := by
  intro hle
  have hlen : (data.take offset).length = offset := by rw [List.length_take, Nat.min_eq_left hdata]
  have htake := congrArg (List.take body.length) h
  have hdrop := congrArg (List.drop body.length) h
  unfold follow at htake hdrop
  rw [List.take_append, hlen, List.take_of_length_le (by omega), List.take_left] at htake
  rw [List.drop_append, hlen, List.drop_eq_nil_of_le (by omega), List.nil_append, List.drop_left] at hdrop
  exact ⟨htake, hdrop⟩

/-- A body that follows, with the next message behind it. -/
theorem recvBody_next (hlen : body.length < 2 ^ 31) (hdata : offset ≤ data.length) (hs : left.Successful)
    (h : follow data offset left = body ++ next) :
    ∃ rest, recvBody body.length data offset left = .ok (if offset < body.length then some body else none, rest) ∧
      (offset ≤ body.length → rest.bytes = next) := by
  by_cases hoffset : offset < body.length
  · obtain ⟨hbody, hnext⟩ := follow_split hdata h (Nat.le_of_lt hoffset)
    have henough : body.length - offset ≤ left.bytes.length := by
      have hlength := congrArg List.length hbody
      rw [List.length_append, List.length_take, List.length_take, Nat.min_eq_left hdata] at hlength
      omega
    obtain ⟨rest, hrecv, hrest, -, -⟩ := recvBody_some hoffset hdata hs henough
    have hint : ¬toInt32 (body.length - offset : Nat) ≤ 0 := by
      rw [toInt32_of_lt (by omega)]
      omega
    rw [if_neg hint, hbody] at hrecv
    rw [if_pos hoffset]
    exact ⟨rest, hrecv, fun _ => hrest.trans hnext⟩
  · rw [if_neg hoffset, recvBody_none (by omega)]
    refine ⟨left, rfl, fun hle => ?_⟩
    obtain ⟨-, hnext⟩ := follow_split hdata h hle
    rwa [Nat.sub_eq_zero_of_le (Nat.not_lt.mp hoffset), List.drop_zero] at hnext

/-- The length of the body is that of its header, and zero without one. -/
theorem Printable.getAs_length (h : response.Printable) (hlen : response.m_body.length < 2 ^ 31)
    (hcast : ∀ n < 2 ^ 31, lexical_cast (ascii (toString n)) = some n.toUInt64) :
    (getAs lexical_cast response.emitted (ascii "content-length") 0).toNat = response.m_body.length := by
  have hother : ¬strcasecmp (ascii "content-length") (ascii "connection") = .eq := by decide
  have hself : strcasecmp (ascii "content-length") (ascii "content-length") = .eq := strcasecmp_eq_iff.mpr rfl
  have hnone : response.plain_headers.find (ascii "content-length") = none := by
    unfold MapType.find
    rw [Option.map_eq_none_iff, List.find?_eq_none]
    intro e he heq
    exact (h.headers e he).plain.content_length (strcasecmp_comm.mp (of_decide_eq_true heq))
  unfold getAs emitted
  cases hbody : response.m_body with
  | nil =>
      simp only [List.isEmpty_nil, if_true]
      rw [MapType.find_set, if_neg hother, hnone]
      rfl
  | cons b body =>
      rw [hbody] at hlen
      simp only [List.isEmpty_cons, Bool.false_eq_true, if_false]
      rw [MapType.find_set, if_pos hself, Option.bind_some, hcast _ hlen, Option.getD_some]
      exact Nat.mod_eq_of_lt (by omega)

/-- The head loop ends with the first read. -/
theorem Printable.recvHead (h : response.Printable) (memory : Memory HttpClientParser)
    (hlen : response.m_body.length < 2 ^ 31)
    (hrec : peer.receive buff_size = .ok (response.head ++ more, left)) :
    ∃ parser data, HttpConnection.recvHead buff_size (peer.size + 1) (.new memory.mParser)
        (memory.newChars (buff_size + 1)) 0 peer = .ok (parser, data, more.length, left) ∧
      parser.toParsed = response.readBack ∧ parser.mParser.chunked = false ∧ parser.mParser.close = response.m_close ∧
      more.length ≤ data.length ∧ data.take more.length = more := by
  have hdata : (memory.newChars (buff_size + 1)).length = buff_size + 1 := by simp [Memory.newChars]
  have hle : (response.head ++ more).length ≤ buff_size := (Peer.receive_spec hrec).length_le
  have hfits : 0 + (response.head ++ more).length < (memory.newChars (buff_size + 1)).length := by omega
  have htake := HttpConnection.take_received hfits
  have hreceived := HttpConnection.length_received hfits
  rw [List.take_zero, List.nil_append] at htake
  obtain ⟨m, hchunked, hclose, -, hexec⟩ := h.exec hlen memory.mParser htake
  have hresult : ((HttpResponseParser.new memory.mParser).exec
      (HttpConnection.received (memory.newChars (buff_size + 1)) 0 (response.head ++ more))
      (0 + (response.head ++ more).length)).result (0 + (response.head ++ more).length) httpclient_parser_error =
        some (response.head.length, 120, m, response.readBack) := by
    rw [hexec]
    rfl
  have hround : HttpConnection.recvHead buff_size (peer.size + 1) (.new memory.mParser)
      (memory.newChars (buff_size + 1)) 0 peer = _ := HttpConnection.recvHead_result hrec (Nat.zero_le _) hdata hresult
  have hpos : 0 < response.head.length := by
    rw [head, List.length_append, List.length_cons]
    omega
  have hmore : 0 + (response.head ++ more).length - response.head.length = more.length := by
    rw [List.length_append]
    omega
  have hread : 0 + (response.head ++ more).length ≤
      (HttpConnection.received (memory.newChars (buff_size + 1)) 0 (response.head ++ more)).length := by omega
  have hmoved := HttpConnection.take_moved (p := response.head.length) hread (by rw [List.length_append]; omega)
  rw [htake, List.drop_left, hmore] at hmoved
  have herror : (HttpResponseParser.leave m response.readBack 120 response.head.length).hasError = false :=
    HttpResponseParser.leave_hasError.mpr ⟨rfl, by decide⟩
  have hfinished : (HttpResponseParser.leave m response.readBack 120 response.head.length).isFinished ≠ 0 :=
    (HttpResponseParser.leave_isFinished (by decide)).mpr rfl
  rw [List.length_append] at hle
  simp only [herror, hmore, if_pos hfinished] at hround
  rw [if_neg Bool.false_ne_true, if_neg (by omega)] at hround
  refine ⟨_, _, hround, rfl, hchunked, hclose, ?_, hmoved⟩
  have hlength := congrArg List.length hmoved
  rw [List.length_take] at hlength
  omega

/-- What the client makes of a response that has arrived with its head in one read: the members are those that were
printed, the body is set unless it has arrived with the head. -/
theorem recvResponse_dump (h : response.Printable) (hlen : response.m_body.length < 2 ^ 31)
    (hcast : ∀ n < 2 ^ 31, lexical_cast (ascii (toString n)) = some n.toUInt64) (hs : peer.Successful)
    (hpeer : peer.bytes = response.dump ++ next) (hrec : peer.receive buff_size = .ok (bytes, left))
    (hhead : response.head.length ≤ bytes.length) :
    ∃ rest, HttpConnection.recvResponse buff_size memory lexical_cast peer =
      .ok ({ m_status := response.m_status
             m_version := response.m_version
             m_close := true
             m_body := if bytes.length < response.dump.length then response.m_body else []
             m_reason := response.reason_text
             m_headers := response.emitted }, rest) ∧
      (bytes.length ≤ response.dump.length → rest.bytes = next) := by
  have hr := Peer.receive_spec hrec
  have hstream : bytes ++ left.bytes = response.head ++ (response.m_body ++ next) := by
    rw [← hr.bytes_eq, hpeer, dump_eq, List.append_assoc]
  have hprefix : response.head <+: bytes := List.prefix_of_prefix_length_le ⟨_, hstream.symm⟩ ⟨_, rfl⟩ hhead
  obtain ⟨more, rfl⟩ := hprefix
  rw [List.append_assoc] at hstream
  have hmore := List.append_cancel_left hstream
  obtain ⟨parser, data, hround, hparsed, hchunked, -, hdata, htake⟩ := h.recvHead memory hlen hrec
  have hfollow : follow data more.length left = response.m_body ++ next := by rw [follow, htake, hmore]
  obtain ⟨rest, hbody, hrest⟩ := recvBody_next hlen hdata (hr.successful hs) hfollow
  have hm_data : parser.m_data = response.readBack.m_data := congrArg Parsed.m_data hparsed
  have hlength : (parser.getContentLength lexical_cast).toNat = response.m_body.length := by
    unfold HttpResponseParser.getContentLength
    rw [hm_data]
    exact h.getAs_length hlen hcast
  have hdump : response.dump.length = response.head.length + response.m_body.length := by
    rw [dump_eq, List.length_append]
  rw [List.length_append, hdump]
  refine ⟨rest, ?_, fun hle => hrest (by omega)⟩
  unfold HttpConnection.recvResponse
  rw [hround, ok_bind]
  simp only [hchunked, Bool.false_eq_true, if_false, hlength, toInt64_of_lt (show response.m_body.length < 2 ^ 63 by
    omega), hbody, ok_bind]
  by_cases hlt : more.length < response.m_body.length
  · rw [if_pos hlt, if_pos (by omega), hm_data]
    rfl
  · rw [if_neg hlt, if_neg (by omega), hm_data]
    rfl

theorem decimal_toString (n : Nat) : decimal (ascii (toString n)) = some n.toUInt64 := by
  have hdigits : (ascii (toString n)).all (fun c => 48 ≤ c ∧ c ≤ 57) = true := by
    rw [List.all_eq_true]
    intro c hc
    obtain ⟨hlo, hhi⟩ := digit_iff.mp (digits_char hc)
    exact decide_eq_true ⟨UInt8.le_iff_toNat_le.mpr hlo, UInt8.le_iff_toNat_le.mpr hhi⟩
  unfold decimal
  rw [if_pos ⟨toString_ne_nil, hdigits⟩, digitsValue_toString]

/-- A response with a header and a body of two bytes. -/
def greeting : HttpResponse where
  m_status := 200
  m_version := 0x11
  m_close := false
  m_body := ascii "hi"
  m_reason := []
  m_headers := [(ascii "Server", ascii "mingfwq")]

theorem printable_greeting : greeting.Printable where
  version := .inr rfl
  status := by decide
  reason := nofun
  ordered := List.pairwise_singleton _ _
  headers := by
    intro e he
    obtain rfl : e = (ascii "Server", ascii "mingfwq") := List.mem_singleton.mp (List.mem_of_mem_filter he)
    exact ⟨by decide, forall_mem_of_all (by decide), ⟨by decide, by decide, by decide⟩, forall_mem_of_all (by decide),
      fun c hc => Option.some.inj hc ▸ rfl⟩

/-- The head arrives with the first byte of the body, and the second byte after it. -/
theorem recvResponse_greeting : ∃ rest, HttpConnection.recvResponse defaultBufferSize zeroClientMemory decimal
    [.data (greeting.head ++ ascii "h"), .data (ascii "i")] =
      .ok ({ greeting with m_close := true, m_reason := ascii "OK", m_headers := greeting.emitted }, rest) := by
  have hs : Peer.Successful [.data (greeting.head ++ ascii "h"), .data (ascii "i")] := by
    simp [Peer.Successful, Packet.Successful, ascii]
  have hpeer : Peer.bytes [.data (greeting.head ++ ascii "h"), .data (ascii "i")] = greeting.dump ++ [] := by
    decide +kernel
  have hrec : Peer.receive [.data (greeting.head ++ ascii "h"), .data (ascii "i")] defaultBufferSize =
      .ok (greeting.head ++ ascii "h", [.data (ascii "i")]) := by rfl
  apply Exists.imp fun _ => And.left
  exact recvResponse_dump printable_greeting (by decide) (fun n _ => decimal_toString n) hs hpeer hrec
    (by decide +kernel)

end Receive

end HttpResponse

end Mingfwq.Http
