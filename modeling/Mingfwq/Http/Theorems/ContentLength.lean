import Mingfwq.Http.Lemmas.RequestHead
import Mingfwq.Http.Lemmas.ResponseHead
import Mingfwq.Http.Lemmas.Body

/-!
# Messages with a Content-Length
-/

namespace Mingfwq.Http

open Lib

/-- `boost::lexical_cast<uint64_t>`, on decimal digits. -/
def decimal : LexicalCast := fun s =>
  if s ≠ [] ∧ s.all (fun c => 48 ≤ c ∧ c ≤ 57) then some (digitsValue 10 s 0).toUInt64 else none

/-- Memory that is all zero. -/
def zeroMemory : Memory HttpParser where
  mParser := clearMemory false
  chars := fun _ => 0

def zeroClientMemory : Memory HttpClientParser where
  mParser := clearClientMemory
  chars := fun _ => 0

/-- The stream from the first byte behind a head on, when the head loop leaves `offset` bytes in the buffer. -/
def follow (data : Bytes) (offset : Nat) (left : Peer) : Bytes := data.take offset ++ left.bytes

variable {buff_size : BufferSize} {lexical_cast : LexicalCast} {n offset : Nat} {data : Bytes} {peer left : Peer}

/-- The body loop gets the bytes that follow the head exactly when some of them are still to arrive. -/
theorem recvBody_follow (hn : 0 < n) (hlt : n < 2 ^ 31) (hdata : offset ≤ data.length) (hs : left.Successful)
    (henough : n ≤ (follow data offset left).length) :
    ∃ rest, recvBody n data offset left =
      .ok (if offset < n then some ((follow data offset left).take n) else none, rest) := by
  have hlen : (data.take offset).length = offset := by rw [List.length_take, Nat.min_eq_left hdata]
  rw [follow, List.length_append, hlen] at henough
  by_cases hoffset : offset < n
  · obtain ⟨rest, hbody, -⟩ := recvBody_some hoffset hdata hs (by omega)
    have hint : ¬ toInt32 (n - offset : Nat) ≤ 0 := by
      rw [toInt32_of_lt (by omega)]
      omega
    have htake : (data.take offset ++ left.bytes).take n = data.take offset ++ left.bytes.take (n - offset) := by
      rw [List.take_append, hlen, List.take_of_length_le (by omega)]
    rw [if_neg hint] at hbody
    exact ⟨rest, by rw [if_pos hoffset, follow, htake, hbody]⟩
  · exact ⟨left, by rw [if_neg hoffset, recvBody_none (by omega)]⟩

/-- Of a body that is set only then, and empty otherwise. -/
theorem body_eq_iff (hn : 0 < n) (henough : n ≤ (follow data offset left).length) :
    (if offset < n then (follow data offset left).take n else []) = (follow data offset left).take n ↔
      offset < n := by
  split
  · next h => exact iff_of_true rfl h
  · next h =>
      refine iff_of_false ?_ h
      intro hnil
      have hlen := congrArg List.length hnil
      rw [List.length_nil, List.length_take] at hlen
      omega

/-- The message recvRequest returns after the head loop. -/
theorem HttpSession.recvRequest_eq {memory : Memory HttpParser} {parser : HttpRequestParser} (hn : 0 < n)
    (hlt : n < 2 ^ 31) (hs : peer.Successful)
    (hhead : recvHead buff_size (peer.size + 1) (.new memory.mParser) (memory.newChars buff_size) 0 peer =
      .ok (parser, data, offset, left))
    (hlength : (parser.getContentLength lexical_cast).toNat = n) (henough : n ≤ (follow data offset left).length) :
    ∃ rest, recvRequest buff_size memory lexical_cast peer =
      .ok ({ parser.m_data with m_body := if offset < n then (follow data offset left).take n else [] }, rest) := by
  have hread := recvHead_headRead (HttpRequestParser.ready_new _) (by simp [Memory.newChars]) hhead
  have hoffset : offset ≤ data.length := by rw [hread.length_eq]; exact hread.offset_le
  obtain ⟨rest, hbody⟩ := recvBody_follow hn hlt hoffset (hread.successful hs) henough
  have hnone : parser.m_data.m_body = [] := hread.body_eq
  refine ⟨rest, ?_⟩
  rw [recvRequest, hhead, ok_bind]
  simp only [hlength, toInt64_of_lt (show n < 2 ^ 63 by omega), hbody, ok_bind]
  split
  · next h =>
      split at h
      · cases h
        next hlt => rw [if_pos hlt]
      · cases h
  · next h =>
      split at h
      · cases h
      · next hge => rw [if_neg hge, ← hnone]

/-- The message recvResponse returns after the head loop, when the body is not in chunks. -/
theorem HttpConnection.recvResponse_eq {memory : Memory HttpClientParser} {parser : HttpResponseParser}
    (hn : 0 < n) (hlt : n < 2 ^ 31) (hs : peer.Successful)
    (hhead : recvHead buff_size (peer.size + 1) (.new memory.mParser) (memory.newChars (buff_size + 1)) 0 peer =
      .ok (parser, data, offset, left))
    (hchunked : parser.mParser.chunked = false)
    (hlength : (parser.getContentLength lexical_cast).toNat = n) (henough : n ≤ (follow data offset left).length) :
    ∃ rest, recvResponse buff_size memory lexical_cast peer =
      .ok ({ parser.m_data with m_body := if offset < n then (follow data offset left).take n else [] }, rest) := by
  have hread := recvHead_headRead (Nat.zero_le _) (by simp [Memory.newChars]) hhead
  have hoffset : offset ≤ data.length := by
    rw [hread.length_eq]
    exact Nat.le_succ_of_le hread.offset_le
  obtain ⟨rest, hbody⟩ := recvBody_follow hn hlt hoffset (hread.successful hs) henough
  have hnone : parser.m_data.m_body = [] := hread.body_eq
  refine ⟨rest, ?_⟩
  rw [recvResponse, hhead, ok_bind]
  simp only [hchunked, Bool.false_eq_true, if_false, hlength, toInt64_of_lt (show n < 2 ^ 63 by omega), hbody, ok_bind]
  split
  · next h =>
      split at h
      · cases h
        next hlt => rw [if_pos hlt]
      · cases h
  · next h =>
      split at h
      · cases h
      · next hge => rw [if_neg hge, ← hnone]

/-- With a Content-Length of `n`, when all reads succeed and the peer sends enough, the message returned has the `n`
bytes that follow the head as its body exactly if fewer than `n` of them are in the buffer with the head: of a
request, and of a response that is not in chunks. -/
theorem contentLength_body_iff (hn : 0 < n) (hlt : n < 2 ^ 31) (hs : peer.Successful)
    (henough : n ≤ (follow data offset left).length) :
    (∀ (memory : Memory HttpParser) (parser : HttpRequestParser),
      HttpSession.recvHead buff_size (peer.size + 1) (.new memory.mParser) (memory.newChars buff_size) 0 peer =
        .ok (parser, data, offset, left) →
      (parser.getContentLength lexical_cast).toNat = n →
      (∃ head, peer.bytes = head ++ follow data offset left) ∧
      ((∃ request rest, HttpSession.recvRequest buff_size memory lexical_cast peer = .ok (request, rest) ∧
        request.m_body = (follow data offset left).take n) ↔ offset < n)) ∧
    (∀ (memory : Memory HttpClientParser) (parser : HttpResponseParser),
      HttpConnection.recvHead buff_size (peer.size + 1) (.new memory.mParser) (memory.newChars (buff_size + 1)) 0
        peer = .ok (parser, data, offset, left) →
      parser.mParser.chunked = false →
      (parser.getContentLength lexical_cast).toNat = n →
      (∃ head, peer.bytes = head ++ follow data offset left) ∧
      ((∃ response rest, HttpConnection.recvResponse buff_size memory lexical_cast peer = .ok (response, rest) ∧
        response.m_body = (follow data offset left).take n) ↔ offset < n)) := by
  constructor
  · intro memory parser hhead hlength
    refine ⟨(HttpSession.recvHead_headRead (HttpRequestParser.ready_new _) (by simp [Memory.newChars])
      hhead).bytes_eq, ?_⟩
    obtain ⟨rest, hrecv⟩ := HttpSession.recvRequest_eq hn hlt hs hhead hlength henough
    rw [← body_eq_iff hn henough, hrecv]
    constructor
    · rintro ⟨request, _, hret, hbody⟩
      cases hret
      exact hbody
    · intro hbody
      exact ⟨_, rest, rfl, hbody⟩
  · intro memory parser hhead hchunked hlength
    refine ⟨(HttpConnection.recvHead_headRead (Nat.zero_le _) (by simp [Memory.newChars]) hhead).bytes_eq, ?_⟩
    obtain ⟨rest, hrecv⟩ := HttpConnection.recvResponse_eq hn hlt hs hhead hchunked hlength henough
    rw [← body_eq_iff hn henough, hrecv]
    constructor
    · rintro ⟨response, _, hret, hbody⟩
      cases hret
      exact hbody
    · intro hbody
      exact ⟨_, rest, rfl, hbody⟩

/-! ## A body in two reads, and one in the read of its head -/

def postHead : Bytes := ascii "POST / HTTP/1.1\r\nContent-Length: 3\r\n\r\n"

def okHead : Bytes := ascii "HTTP/1.1 200 OK\r\nContent-Length: 3\r\n\r\n"

theorem contentLength_body_twoReads :
    (∃ request rest, HttpSession.recvRequest defaultBufferSize zeroMemory decimal
        [.data (postHead ++ ascii "a"), .data (ascii "bc")] = .ok (request, rest) ∧ request.m_body = ascii "abc") ∧
    (∃ response rest, HttpConnection.recvResponse defaultBufferSize zeroClientMemory decimal
        [.data (okHead ++ ascii "a"), .data (ascii "bc")] = .ok (response, rest) ∧
      response.m_body = ascii "abc") := by
  have hs : ∀ head : Bytes, Peer.Successful [.data (head ++ ascii "a"), .data (ascii "bc")] := by
    intro head
    simp [Peer.Successful, Packet.Successful, ascii]
  constructor
  · have heval : (HttpSession.recvHead defaultBufferSize
        (Peer.size [.data (postHead ++ ascii "a"), .data (ascii "bc")] + 1) (.new zeroMemory.mParser)
        (zeroMemory.newChars defaultBufferSize) 0 [.data (postHead ++ ascii "a"), .data (ascii "bc")]).map
          (fun r => ((r.1.getContentLength decimal).toNat, r.2.2.1, follow r.2.1 r.2.2.1 r.2.2.2)) =
        .ok (3, 1, ascii "abc") := by decide +kernel
    obtain ⟨⟨parser, data, offset, left⟩, hhead⟩ := exists_of_map_eq_ok heval
    have hvalues := map_eq_ok hhead heval
    simp only [Prod.mk.injEq] at hvalues
    obtain ⟨hlength, hoffset, hfollow⟩ := hvalues
    have hbody := ((contentLength_body_iff (by decide) (by decide) (hs _) (by rw [hfollow]; decide)).1 zeroMemory
      parser hhead hlength).2.mpr (by omega)
    rw [hfollow] at hbody
    exact hbody
  · have heval : (HttpConnection.recvHead defaultBufferSize
        (Peer.size [.data (okHead ++ ascii "a"), .data (ascii "bc")] + 1) (.new zeroClientMemory.mParser)
        (zeroClientMemory.newChars (defaultBufferSize + 1)) 0
        [.data (okHead ++ ascii "a"), .data (ascii "bc")]).map
          (fun r => (r.1.mParser.chunked, (r.1.getContentLength decimal).toNat, r.2.2.1,
            follow r.2.1 r.2.2.1 r.2.2.2)) =
        .ok (false, 3, 1, ascii "abc") := by decide +kernel
    obtain ⟨⟨parser, data, offset, left⟩, hhead⟩ := exists_of_map_eq_ok heval
    have hvalues := map_eq_ok hhead heval
    simp only [Prod.mk.injEq] at hvalues
    obtain ⟨hchunked, hlength, hoffset, hfollow⟩ := hvalues
    have hbody := ((contentLength_body_iff (by decide) (by decide) (hs _) (by rw [hfollow]; decide)).2
      zeroClientMemory parser hhead hchunked hlength).2.mpr (by omega)
    rw [hfollow] at hbody
    exact hbody

/-- The whole body arrives with the head: the message is returned without it. -/
theorem contentLength_body_lost :
    ¬ (∃ request rest, HttpSession.recvRequest defaultBufferSize zeroMemory decimal
        [.data (postHead ++ ascii "abc")] = .ok (request, rest) ∧ request.m_body = ascii "abc") ∧
    ¬ (∃ response rest, HttpConnection.recvResponse defaultBufferSize zeroClientMemory decimal
        [.data (okHead ++ ascii "abc")] = .ok (response, rest) ∧ response.m_body = ascii "abc") := by
  have hrequest : (HttpSession.recvRequest defaultBufferSize zeroMemory decimal
      [.data (postHead ++ ascii "abc")]).map (fun r => r.1.m_body) = .ok [] := by decide +kernel
  have hresponse : (HttpConnection.recvResponse defaultBufferSize zeroClientMemory decimal
      [.data (okHead ++ ascii "abc")]).map (fun r => r.1.m_body) = .ok [] := by decide +kernel
  constructor
  · rintro ⟨request, rest, hret, hbody⟩
    have hnil := map_eq_ok hret hrequest
    rw [hbody] at hnil
    cases hnil
  · rintro ⟨response, rest, hret, hbody⟩
    have hnil := map_eq_ok hret hresponse
    rw [hbody] at hnil
    cases hnil

end Mingfwq.Http
