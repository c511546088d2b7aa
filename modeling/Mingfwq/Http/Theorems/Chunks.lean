import Mingfwq.Http.Lemmas.Chunks
import Mingfwq.Http.Theorems.ContentLength

/-!
# A response in chunks
-/

namespace Mingfwq.Http

open Lib

/-- A chunk that is not the last, with the digits of its size. -/
structure Chunk where
  size : Bytes
  data : Bytes
  isChunkSize : IsChunkSize size
  value : digitsValue 16 size 0 = data.length
  ne_nil : data ≠ []

/-- The chunks, and the last chunk with its size in `zeros + 1` digits. -/
def chunkedBody : List Chunk → Nat → Bytes
  | [], zeros => List.replicate (zeros + 1) 48 ++ crlf ++ crlf
  | c :: chunks, zeros => c.size ++ crlf ++ (c.data ++ crlf ++ chunkedBody chunks zeros)

/-- There is one chunk; the digits that arrive together with the end of its size line are its size, of less than 2^31;
and two bytes at least arrive with them, so that it does no harm to leave out the last two of these. -/
def OneChunk (chunks : List Chunk) (held : Bytes) (reads : List Bytes) : Prop :=
  ∃ c digits after rest, chunks = [c] ∧ IsChunkSize digits ∧
    sizeRead held reads = some (digits ++ crlf ++ after, rest) ∧ digitsValue 16 digits 0 = c.data.length ∧
      c.data.length < 2 ^ 31 ∧ 2 ≤ after.length ∧
      ∀ i, after.length - 2 ≤ i → i < c.data.length →
        (after ++ rest.flatten)[i]? = (after ++ rest.flatten)[i + 2]?

/-- The digits that arrive together with the end of the first size line are those of a last chunk, for an `int`. -/
def SizeVanishes (held : Bytes) (reads : List Bytes) : Prop :=
  ∃ digits after rest, IsChunkSize digits ∧ sizeRead held reads = some (digits ++ crlf ++ after, rest) ∧
    2 ^ 32 ∣ digitsValue 16 digits 0

/-- The bytes without the two before position `m`. -/
theorem skip_two_eq_iff {after rest : Bytes} {n : Nat} (hm : 2 ≤ after.length) :
    (after.take (after.length - 2) ++ rest).take n = (after ++ rest).take n ↔
      ∀ i, after.length - 2 ≤ i → i < n → (after ++ rest)[i]? = (after ++ rest)[i + 2]? := by
  have htaken : (after.take (after.length - 2)).length = after.length - 2 := by
    rw [List.length_take]
    omega
  have hskip {i : Nat} (hi : after.length - 2 ≤ i) :
      (after.take (after.length - 2) ++ rest)[i]? = (after ++ rest)[i + 2]? := by
    rw [List.getElem?_append_right (by omega), List.getElem?_append_right (by omega), htaken]
    congr 1
    omega
  constructor
  · intro heq i hi hn
    have hget := congrArg (·[i]?) heq
    simp only [List.getElem?_take_of_lt hn] at hget
    rw [← hget, hskip hi]
  · intro hall
    apply List.ext_getElem?
    intro i
    by_cases hn : i < n
    · rw [List.getElem?_take_of_lt hn, List.getElem?_take_of_lt hn]
      by_cases hi : after.length - 2 ≤ i
      · rw [hskip hi, hall i hi hn]
      · rw [List.getElem?_append_left (by omega), List.getElem?_append_left (by omega),
          List.getElem?_take_of_lt (by omega)]
    · rw [List.getElem?_eq_none (by rw [List.length_take]; omega),
        List.getElem?_eq_none (by rw [List.length_take]; omega)]

namespace HttpConnection

variable {buff_size : BufferSize} {memory : Memory HttpClientParser} {lexical_cast : LexicalCast}
  {peer : Peer} {parser : HttpResponseParser} {data : Bytes} {offset zeros : Nat} {reads : List Bytes}
  {chunks : List Chunk}

/-- The response is returned with this body, every length on the way being in range. -/
def GetsBody (buff_size : BufferSize) (memory : Memory HttpClientParser) (lexical_cast : LexicalCast) (peer : Peer)
    (body : Bytes) : Prop :=
  ∃ response left, recvResponse buff_size memory lexical_cast peer = .ok (response, left) ∧ response.m_body = body

theorem getsBody_chunked {left : Peer} {body : Bytes}
    (hhead : recvHead buff_size (peer.size + 1) (.new memory.mParser) (memory.newChars (buff_size + 1)) 0 peer =
      .ok (parser, data, offset, left))
    (hchunked : parser.mParser.chunked = true) :
    GetsBody buff_size memory lexical_cast peer body ↔
      ∃ r, recvChunks buff_size (left.size + 1) parser [] data offset left = .ok r ∧ r.2.1 = body := by
  rw [GetsBody, recvResponse, hhead]
  simp only [ok_bind, hchunked, if_true]
  constructor
  · rintro ⟨response, rest, h, rfl⟩
    obtain ⟨r, hr, h⟩ := bind_eq_ok.mp h
    cases h
    exact ⟨r, hr, rfl⟩
  · rintro ⟨r, hr, rfl⟩
    exact ⟨_, _, by rw [hr]; rfl, rfl⟩

section Round

variable {size after body : Bytes} {rest : List Bytes} {fuel : Nat} {q : HttpResponseParser × Bytes × Nat × Peer}

/-- A round that finds the size line. -/
theorem recvChunks_eq (fuel : Nat) (body : Bytes) (hq : SizeRead buff_size size after (rest.map .data) q)
    (hhead : recvHead buff_size (peer.size + 1) parser data offset peer = .ok q) :
    recvChunks buff_size (fuel + 1) parser body data offset peer = (do
      let (body, data, len, peer) ←
        recvChunk buff_size (sizeValue size) (after.length - 2) body q.2.1 (rest.map .data)
      if sizeValue size ≤ 0 then recvChunks buff_size fuel q.1 body data len peer else .ok (q.1, body, peer)) := by
  obtain ⟨parser', data', len', peer'⟩ := q
  obtain ⟨hlength, hdone, hdata, hafter, hoffset, hleft⟩ := hq
  simp only at hlength hdone hoffset hleft
  rw [recvChunks, hhead, ok_bind]
  simp only [hlength, hdone, hoffset, hleft, decide_eq_true_eq]

theorem recvChunks_negative (hhead : recvHead buff_size (peer.size + 1) parser data offset peer = .ok q)
    (hq : SizeRead buff_size size after (rest.map .data) q) (h : after.length < 2 ∨ sizeValue size < 0)
    {r : HttpResponseParser × Bytes × Peer} :
    recvChunks buff_size (fuel + 1) parser body data offset peer ≠ .ok r := by
  rw [recvChunks_eq _ _ hq hhead]
  intro hok
  obtain ⟨r', hchunk, -⟩ := bind_eq_ok.mp hok
  exact recvChunk_negative h hchunk

theorem flatten_bytes (rest : List Bytes) : Peer.bytes (rest.map .data) = rest.flatten := by
  rw [Peer.bytes, List.flatMap_map, ← List.flatMap_id']
  rfl

/-- The loop ends with the first chunk. -/
theorem recvChunks_first (body : Bytes) (hhead : recvHead buff_size (peer.size + 1) parser data offset peer = .ok q)
    (hq : SizeRead buff_size size after (rest.map .data) q) (hs : Peer.Successful (rest.map .data))
    (hbuffer : 0 < buff_size.1) (hlen : 2 ≤ after.length) (hpos : 0 < sizeValue size)
    (henough : sizeValue size ≤ after.length - 2 + rest.flatten.length) :
    ∃ r, recvChunks buff_size (fuel + 1) parser body data offset peer = .ok r ∧
      r.2.1 = body ++ (after.take (after.length - 2) ++ rest.flatten).take (sizeValue size).toNat := by
  have hbytes := flatten_bytes rest
  have hle : after.length ≤ q.2.1.length := by
    rw [← hq.after_eq, List.length_take]
    omega
  have htake : q.2.1.take (after.length - 2) = after.take (after.length - 2) := by
    rw [← hq.after_eq, List.take_take, hq.after_eq, Nat.min_eq_left (by omega)]
  obtain ⟨r, hchunk, hbody⟩ := recvChunk_ok body hlen (Int.le_of_lt hpos) hs hbuffer hq.length_eq hle
    (by rw [hbytes]; exact henough)
  rw [recvChunks_eq _ _ hq hhead, hchunk, ok_bind]
  simp only
  rw [if_neg (by omega)]
  refine ⟨_, rfl, ?_⟩
  rw [hbody, htake, hbytes]

/-- Behind the last chunk the loop waits for one more. -/
theorem recvChunks_last (hhead : recvHead buff_size (peer.size + 1) parser data offset peer = .ok q)
    (hq : SizeRead buff_size size after [] q) (hlen : 2 ≤ after.length) (hzero : sizeValue size = 0)
    {r : HttpResponseParser × Bytes × Peer} :
    recvChunks buff_size (fuel + 1) parser body data offset peer ≠ .ok r := by
  have hle : after.length ≤ q.2.1.length := by
    rw [← hq.after_eq, List.length_take]
    omega
  obtain ⟨data', hchunk⟩ := recvChunk_buffered buff_size body []
    (Int.le_of_eq hzero.symm) (show sizeValue size ≤ after.length - 2 by omega) hle
  have heq := recvChunks_eq fuel body (show SizeRead buff_size size after (([] : List Bytes).map .data) q from hq) hhead
  rw [List.map_nil, hchunk, ok_bind] at heq
  simp only at heq
  rw [if_pos (Int.le_of_eq hzero)] at heq
  rw [heq]
  cases fuel with
  | zero => rintro ⟨⟩
  | succ fuel =>
      rw [recvChunks, recvHead_closed rfl]
      rintro ⟨⟩

/-- The last chunk alone leaves the loop waiting, or is too short for it. -/
theorem recvChunks_zeros (hhead : recvHead buff_size (peer.size + 1) parser data offset peer = .ok q)
    (hq : SizeRead buff_size size after (rest.map .data) q) (hsuffix : size <:+ List.replicate (zeros + 1) 48)
    (hrest : crlf = after ++ rest.flatten) (hne : ∀ read ∈ rest, read ≠ [])
    {r : HttpResponseParser × Bytes × Peer} :
    recvChunks buff_size (fuel + 1) parser body data offset peer ≠ .ok r := by
  have hdigits : ∀ c ∈ List.replicate (zeros + 1) (48 : UInt8), (digit 16 c).isSome := by
    intro c hc
    rw [(List.mem_replicate.mp hc).2]
    decide
  have hvalue := digitsValue_suffix hdigits hsuffix
  rw [digitsValue_zeros] at hvalue
  have hzero : sizeValue size = 0 := by
    rw [sizeValue_of_lt (by omega)]
    omega
  by_cases hlen : after.length < 2
  · exact recvChunks_negative hhead hq (.inl hlen)
  · have hsum := congrArg List.length hrest
    rw [length_crlf, List.length_append] at hsum
    have hnil : rest.flatten = [] := List.eq_nil_of_length_eq_zero (by omega)
    cases rest with
    | nil => exact recvChunks_last hhead hq (by omega) hzero
    | cons read rest =>
        rw [List.flatten_cons, List.append_eq_nil_iff] at hnil
        exact absurd hnil.1 (hne read List.mem_cons_self)

end Round

theorem size_crlf_inj {size size' after after' : Bytes} (h : IsChunkSize size) (h' : IsChunkSize size')
    (heq : size ++ crlf ++ after = size' ++ crlf ++ after') : size = size' ∧ after = after' := by
  have hcr {size : Bytes} (h : IsChunkSize size) : 13 ∉ size := fun hmem =>
    (xdigit_plain (h.digits 13 hmem)).2.2.2.2.2.1 rfl
  simp only [crlf, List.append_assoc, List.cons_append, List.nil_append] at heq
  rcases append_eq_cons_cases (hcr h') heq with ⟨a, rfl, -⟩ | ⟨-, t, rfl, ht⟩
  · exact absurd (by simp) (hcr h)
  · cases t with
    | nil =>
        simp only [List.nil_append, List.cons.injEq, true_and] at ht
        exact ⟨(List.append_nil size).symm, ht⟩
    | cons b t =>
        rw [List.cons_append, List.cons.injEq] at ht
        exact absurd (by rw [← ht.1]; simp) (hcr h')

theorem single_of_length {c : Chunk} {chunks : List Chunk} {n : Nat} (hle : n ≤ c.data.length)
    (h : n = ((c :: chunks).flatMap Chunk.data).length) : chunks = [] ∧ n = c.data.length := by
  rw [List.flatMap_cons, List.length_append] at h
  cases chunks with
  | nil => exact ⟨rfl, by rw [List.flatMap_nil, List.length_nil] at h; omega⟩
  | cons c' chunks =>
      rw [List.flatMap_cons, List.length_append] at h
      have := List.length_pos_of_ne_nil c'.ne_nil
      omega

/-- The body that is returned is that of the chunks if there is one chunk, which arrives as `OneChunk` says; and only
then, unless the first size vanishes. -/
theorem recvResponse_chunked_body
    (hhead : recvHead buff_size (peer.size + 1) (.new memory.mParser) (memory.newChars (buff_size + 1)) 0 peer =
      .ok (parser, data, offset, reads.map .data))
    (hchunked : parser.mParser.chunked = true) (hfits : Fits buff_size offset reads)
    (hstream : data.take offset ++ reads.flatten = chunkedBody chunks zeros) :
    (OneChunk chunks (data.take offset) reads →
        GetsBody buff_size memory lexical_cast peer (chunks.flatMap Chunk.data)) ∧
      (GetsBody buff_size memory lexical_cast peer (chunks.flatMap Chunk.data) →
        OneChunk chunks (data.take offset) reads ∨ (chunks ≠ [] ∧ SizeVanishes (data.take offset) reads)) := by
  have hread := recvHead_headRead (Nat.zero_le _) (by simp [Memory.newChars]) hhead
  have herror := recvHead_error hhead
  have hdata := hread.length_eq
  have hheld : (data.take offset).length = offset := by
    have := hread.offset_le
    rw [List.length_take]
    omega
  rw [getsBody_chunked hhead hchunked]
  rw [← hheld] at hfits
  have hfuel : reads.length < Peer.size (reads.map .data) + 1 := by
    have hsize := Peer.size_data_append reads []
    rw [List.append_nil] at hsize
    omega
  have hsizes {size s : Bytes} (hdigits : ∀ c ∈ size, xdigit c = true)
      (h : data.take offset ++ reads.flatten = size ++ crlf ++ s) :=
    recvHead_size hdigits hfits hfuel herror hdata (by rw [hheld]) h
  rw [hheld] at hsizes
  constructor
  · rintro ⟨c, digits, after, rest, rfl, hdigits, hline, hvalue, hlt, hlen, htwice⟩
    rw [chunkedBody] at hstream
    rcases hsizes c.isChunkSize.digits hstream with
      ⟨size, after', rest', q, hsize, -, hrest, hs, hline', hok, hq⟩ | ⟨-, hnone⟩
    · rw [hline, Option.some.injEq, Prod.mk.injEq] at hline'
      obtain ⟨hline', rfl⟩ := hline'
      obtain ⟨rfl, rfl⟩ := size_crlf_inj hdigits hsize hline'
      have hpos := List.length_pos_of_ne_nil c.ne_nil
      have hsizeValue : sizeValue digits = digitsValue 16 digits 0 := sizeValue_of_lt (by omega)
      have hslen := congrArg List.length hs
      simp only [List.length_append] at hslen
      simp only [length_crlf] at hslen
      obtain ⟨r, hchunks, hbody⟩ := recvChunks_first [] hok hq (hfits.successful hrest)
        (hfits.buffer_pos hline) hlen (by omega) (by omega)
      refine ⟨r, hchunks, ?_⟩
      rw [hbody, List.nil_append, hsizeValue, hvalue, Int.toNat_natCast, (skip_two_eq_iff hlen).mpr htwice, ← hs,
        List.flatMap_singleton, List.append_assoc, List.take_left]
    · exact absurd hline (hnone digits after rest hdigits)
  · rintro ⟨r, hr, hbody⟩
    have hhead' : ∃ q, recvHead buff_size (Peer.size (reads.map .data) + 1) parser data offset (reads.map .data) =
        .ok q := by
      rw [recvChunks] at hr
      obtain ⟨q, hq, -⟩ := bind_eq_ok.mp hr
      exact ⟨q, hq⟩
    obtain ⟨q', hq'⟩ := hhead'
    cases chunks with
    | nil =>
        rw [chunkedBody] at hstream
        rcases hsizes (by simp [show xdigit 48 = true by decide]) hstream with
          ⟨size, after, rest, q, hsize, hsuffix, hrest, hs, hline, hok, hq⟩ | ⟨hnone, -⟩
        · exact absurd hr
            (recvChunks_zeros hok hq hsuffix hs fun read hread => hfits.ne_nil read (hrest.subset hread))
        · exact absurd hq' (hnone q')
    | cons c chunks =>
        rw [chunkedBody] at hstream
        rcases hsizes c.isChunkSize.digits hstream with
          ⟨size, after, rest, q, hsize, hsuffix, hrest, hs, hline, hok, hq⟩ | ⟨hnone, -⟩
        · have hvalue := digitsValue_suffix c.isChunkSize.digits hsuffix
          rw [c.value] at hvalue
          have hslen := congrArg List.length hs
          simp only [List.length_append, length_crlf] at hslen
          by_cases hzero : sizeValue size = 0
          · exact .inr ⟨List.cons_ne_nil _ _, size, after, rest, hsize, hline, sizeValue_eq_zero hzero⟩
          · have hlen : ¬ (after.length < 2 ∨ sizeValue size < 0) :=
              fun h => recvChunks_negative hok hq h hr
            rw [not_or] at hlen
            have hle := sizeValue_le (show 0 ≤ sizeValue size by omega)
            obtain ⟨r', hchunks, hbody'⟩ := recvChunks_first [] hok hq (hfits.successful hrest)
              (hfits.buffer_pos hline) (by omega) (by omega) (by omega)
            cases hchunks.symm.trans hr
            rw [hbody', List.nil_append, List.flatMap_cons] at hbody
            have hblen := congrArg List.length hbody
            have htaken : (after.take (after.length - 2) ++ rest.flatten).length =
                after.length - 2 + rest.flatten.length := by
              rw [List.length_append, List.length_take]
              omega
            rw [List.length_take, htaken, Nat.min_eq_left (by omega), ← List.flatMap_cons] at hblen
            obtain ⟨rfl, hn⟩ := single_of_length (by omega) hblen
            have hlt := sizeValue_lt size
            refine .inl ⟨c, size, after, rest, rfl, hsize, hline, by omega, by omega, by omega, ?_⟩
            rw [List.flatMap_nil, List.append_nil, hn] at hbody
            rw [← skip_two_eq_iff (by omega), hbody, ← hs, List.append_assoc, List.take_left]
        · exact absurd hq' (hnone q')

end HttpConnection

/-! ## Chunks in one read -/

def chunkedHead : Bytes := ascii "HTTP/1.1 200 OK\r\ntransfer-encoding: chunked\r\n\r\n"

def helloChunk : Chunk where
  size := ascii "5"
  data := ascii "hello"
  isChunkSize := ⟨by decide, by decide +kernel⟩
  value := by decide
  ne_nil := by decide

def abcChunk : Chunk where
  size := ascii "3"
  data := ascii "abc"
  isChunkSize := ⟨by decide, by decide +kernel⟩
  value := by decide
  ne_nil := by decide

/-- The head alone in a read, and all chunks in the next. -/
def chunkedPeer (chunks : List Chunk) : Peer := [.data chunkedHead, .data (chunkedBody chunks 0)]

theorem chunkedPeer_head (chunks : List Chunk)
    (heval : (HttpConnection.recvHead defaultBufferSize ((chunkedPeer chunks).size + 1) (.new zeroClientMemory.mParser)
      (zeroClientMemory.newChars (defaultBufferSize + 1)) 0 (chunkedPeer chunks)).map
        (fun q => (q.1.mParser.chunked, q.2.2)) = .ok (true, 0, [chunkedBody chunks 0].map .data)) :
    ∃ parser data, HttpConnection.recvHead defaultBufferSize ((chunkedPeer chunks).size + 1)
      (.new zeroClientMemory.mParser) (zeroClientMemory.newChars (defaultBufferSize + 1)) 0 (chunkedPeer chunks) =
        .ok (parser, data, 0, [chunkedBody chunks 0].map .data) ∧ parser.mParser.chunked = true := by
  obtain ⟨⟨parser, data, offset, left⟩, hhead⟩ := exists_of_map_eq_ok heval
  have hvalues := map_eq_ok hhead heval
  simp only [Prod.mk.injEq] at hvalues
  obtain ⟨hchunked, rfl, rfl⟩ := hvalues
  exact ⟨parser, data, hhead, hchunked⟩

theorem chunkedPeer_fits {chunks : List Chunk} (hne : chunkedBody chunks 0 ≠ [])
    (hle : (chunkedBody chunks 0).length ≤ defaultBufferSize.1) : Fits defaultBufferSize 0 [chunkedBody chunks 0] where
  ne_nil read hread := List.mem_singleton.mp hread ▸ hne
  first read hread := by
    cases hread
    rw [Nat.zero_add]
    exact hle
  length_le read hread := List.mem_singleton.mp hread ▸ hle

/-- Of two chunks the first is returned. -/
theorem twoChunks_lost : ¬ ∀ buff_size memory lexical_cast (peer : Peer) parser data offset (reads : List Bytes)
      (chunks : List Chunk) zeros,
    HttpConnection.recvHead buff_size (peer.size + 1) (.new memory.mParser) (memory.newChars (buff_size + 1)) 0 peer =
      .ok (parser, data, offset, reads.map .data) →
    parser.mParser.chunked = true → Fits buff_size offset reads →
    data.take offset ++ reads.flatten = chunkedBody chunks zeros →
      HttpConnection.GetsBody buff_size memory lexical_cast peer (chunks.flatMap Chunk.data) := by
  intro h
  obtain ⟨parser, data, hhead, hchunked⟩ := chunkedPeer_head [helloChunk, abcChunk] (by decide +kernel)
  obtain ⟨response, left, hret, hbody⟩ := h defaultBufferSize zeroClientMemory decimal
    (chunkedPeer [helloChunk, abcChunk]) parser data 0 [chunkedBody [helloChunk, abcChunk] 0] [helloChunk, abcChunk] 0
    hhead hchunked (chunkedPeer_fits (by decide) (by decide)) (by simp)
  have heval : (HttpConnection.recvResponse defaultBufferSize zeroClientMemory decimal
      (chunkedPeer [helloChunk, abcChunk])).map (fun r => r.1.m_body) = .ok (ascii "hello") := by decide +kernel
  have hhello := map_eq_ok hret heval
  rw [hbody] at hhello
  revert hhello
  decide

/-- One chunk is returned. -/
theorem recvResponse_chunked_body_hello : HttpConnection.GetsBody defaultBufferSize zeroClientMemory decimal
    (chunkedPeer [helloChunk]) (ascii "hello") := by
  obtain ⟨parser, data, hhead, hchunked⟩ := chunkedPeer_head [helloChunk] (by decide +kernel)
  have hstream : data.take 0 ++ [chunkedBody [helloChunk] 0].flatten = chunkedBody [helloChunk] 0 := by simp
  refine (HttpConnection.recvResponse_chunked_body hhead hchunked (chunkedPeer_fits (by decide) (by decide))
    hstream).1 ?_
  refine ⟨helloChunk, ascii "5", ascii "hello\r\n0\r\n\r\n", [], rfl, ⟨by decide, by decide +kernel⟩, ?_,
    by decide, by decide, by decide, fun i hi hn => ?_⟩
  · rw [List.take_zero]
    decide
  · have hlen : (ascii "hello\r\n0\r\n\r\n").length = 12 := by decide
    have hdata : helloChunk.data.length = 5 := by decide
    omega

end Mingfwq.Http
