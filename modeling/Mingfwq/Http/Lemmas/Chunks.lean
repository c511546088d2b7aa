import Mingfwq.Http.Lemmas.ChunkSize
import Mingfwq.Http.Lemmas.Pieces

/-!
# One round of the loop that reads the chunks

The size line is lost as far as an earlier read brought it; the two bytes that `len -= 2` leaves out are the last in the
buffer, not those behind the data.
-/

namespace Mingfwq.Http

open Lib HttpClientParser HttpResponseParser

/-- The bytes in the buffer when the end of the size line has arrived, and the reads that follow: what an earlier read
brought is gone. -/
def sizeRead : Bytes → List Bytes → Option (Bytes × List Bytes)
  | _, [] => none
  | held, read :: reads => if 10 ∈ held ++ read then some (held ++ read, reads) else sizeRead [] reads

/-- The results of reads into a buffer that `offset` bytes are in at first. -/
structure Fits (buff_size : BufferSize) (offset : Nat) (reads : List Bytes) : Prop where
  ne_nil : ∀ read ∈ reads, read ≠ []
  first : ∀ read ∈ reads.head?, offset + read.length ≤ buff_size
  length_le : ∀ read ∈ reads, read.length ≤ buff_size

variable {buff_size : BufferSize} {read held size size' after xs ys t s : Bytes} {reads rest : List Bytes}
  {offset : Nat}

theorem Fits.tail (h : Fits buff_size offset (read :: reads)) : Fits buff_size 0 reads where
  ne_nil read hread := h.ne_nil read (List.mem_cons_of_mem _ hread)
  first read hread := by
    rw [Nat.zero_add]
    exact h.length_le read (List.mem_cons_of_mem _ (List.mem_of_mem_head? hread))
  length_le read hread := h.length_le read (List.mem_cons_of_mem _ hread)

theorem Fits.successful (h : Fits buff_size offset reads) (hsuffix : rest <:+ reads) :
    Peer.Successful (rest.map .data) := by
  intro p hp
  obtain ⟨read, hread, rfl⟩ := List.mem_map.mp hp
  exact h.ne_nil read (hsuffix.subset hread)

theorem Fits.buffer_pos (h : Fits buff_size offset reads) (hread : sizeRead held reads = some (xs, rest)) :
    0 < buff_size.1 := by
  cases reads with
  | nil => cases hread
  | cons read reads =>
      have hne := List.length_pos_of_ne_nil (h.ne_nil read List.mem_cons_self)
      have hle := h.length_le read List.mem_cons_self
      omega

/-- Where the first `c` of two lists in a row is. -/
theorem append_eq_cons_cases {c : UInt8} (hc : c ∉ t) (h : xs ++ ys = t ++ c :: s) :
    (∃ a, xs = t ++ c :: a ∧ s = a ++ ys) ∨ (c ∉ xs ∧ ∃ t', t = xs ++ t' ∧ ys = t' ++ c :: s) := by
  rcases List.append_eq_append_iff.mp h with ⟨t', rfl, hys⟩ | ⟨a, hxs, hcs⟩
  · exact .inr ⟨fun hmem => hc (List.mem_append_left _ hmem), t', rfl, hys⟩
  · cases a with
    | nil =>
        rw [List.append_nil] at hxs
        exact .inr ⟨hxs ▸ hc, [], by rw [hxs, List.append_nil], hcs.symm⟩
    | cons b a =>
        rw [List.cons_append, List.cons.injEq] at hcs
        obtain ⟨rfl, hs⟩ := hcs
        exact .inl ⟨a, hxs, hs⟩

theorem size_lf (h : ∀ c ∈ size, xdigit c = true) : 10 ∉ size ++ [13] := by
  intro hmem
  rcases List.mem_append.mp hmem with hmem | hmem
  · exact (xdigit_plain (h 10 hmem)).2.2.2.2.2.2 rfl
  · cases List.mem_singleton.mp hmem

/-- Without digits in front of the end of the line there is no size. -/
theorem sizeRead_noSize (ht : ∀ c ∈ t, xdigit c = false) (hlf : 10 ∉ t)
    (hstream : held ++ reads.flatten = t ++ 10 :: s) (hsize : IsChunkSize size) :
    sizeRead held reads ≠ some (size ++ xs, rest) := by
  induction reads generalizing held t with
  | nil => rintro ⟨⟩
  | cons read reads ih =>
      rw [List.flatten_cons, ← List.append_assoc] at hstream
      rw [sizeRead]
      rcases append_eq_cons_cases hlf hstream with ⟨a, ha, -⟩ | ⟨hmem, t', rfl, hrest⟩
      · rw [if_pos (by rw [ha]; simp)]
        intro heq
        obtain ⟨hne, hdigits⟩ := hsize
        cases size with
        | nil => exact hne rfl
        | cons c size =>
            have hc := hdigits c List.mem_cons_self
            have hline := (Prod.mk.inj (Option.some.inj heq)).1
            rw [ha] at hline
            cases t with
            | nil =>
                rw [← (List.cons.inj hline).1] at hc
                revert hc
                decide
            | cons b t =>
                rw [← (List.cons.inj hline).1, ht b List.mem_cons_self] at hc
                cases hc
      · rw [if_neg hmem]
        exact ih (fun c hc => ht c (List.mem_append_right _ hc)) (fun h => hlf (List.mem_append_right _ h)) hrest

namespace HttpConnection

variable {fuel : Nat} {parser : HttpResponseParser} {data body : Bytes} {peer : Peer}
  {q : HttpResponseParser × Bytes × Nat × Peer}

theorem recvHead_error (h : recvHead buff_size fuel parser data offset peer = .ok q) : q.1.m_error = 0 := by
  induction fuel generalizing parser data offset peer with
  | zero => cases h
  | succ fuel ih =>
      rw [recvHead] at h
      obtain ⟨r, -, h⟩ := bind_eq_ok.mp h
      obtain ⟨e, -, h⟩ := bind_eq_ok.mp h
      simp only at h
      split at h
      · cases h
      · next herror =>
          split at h
          · cases h
          · split at h
            · cases h
              simp only [hasError, Bool.not_eq_true, Bool.or_eq_false_iff, bne_eq_false_iff_eq] at herror
              exact herror.1
            · exact ih h

/-- What the loop that reads the size line ends with. -/
structure SizeRead (buff_size : BufferSize) (size after : Bytes) (peer : Peer)
    (q : HttpResponseParser × Bytes × Nat × Peer) : Prop where
  content_len : q.1.mParser.content_len = sizeValue size
  chunks_done : q.1.mParser.chunks_done = decide (sizeValue size ≤ 0)
  length_eq : q.2.1.length = buff_size + 1
  after_eq : q.2.1.take after.length = after
  offset_eq : q.2.2.1 = after.length
  left_eq : q.2.2.2 = peer

/-- The read that brings the end of the line. -/
theorem recvHead_line (fuel : Nat) (peer : Peer) (hsize : IsChunkSize size) (hne : read ≠ [])
    (hfit : held.length + read.length ≤ buff_size) (herror : parser.m_error = 0)
    (hdata : data.length = buff_size + 1) (hheld : data.take held.length = held)
    (hline : held ++ read = size ++ crlf ++ after) :
    ∃ q, recvHead buff_size (fuel + 1) parser data held.length (.data read :: peer) = .ok q ∧
      SizeRead buff_size size after peer q := by
  have hrec : Peer.receive (.data read :: peer) (buff_size - held.length) = .ok (read, peer) :=
    Peer.receive_data hne (by omega)
  have hlt : held.length + read.length < data.length := by omega
  have hlen := congrArg List.length hline
  simp only [List.length_append, crlf, List.length_cons, List.length_nil] at hlen
  have htake : (received data held.length read).take (held.length + read.length) = size ++ crlf ++ after := by
    rw [take_received hlt, hheld, hline]
  have hbuffer := calc
    (received data held.length read).drop 0
      = (received data held.length read).take (held.length + read.length) ++
          (received data held.length read).drop (held.length + read.length) := by
        rw [List.drop_zero, List.take_append_drop]
    _ = size ++ 13 :: (10 :: after ++ (received data held.length read).drop (held.length + read.length)) := by
        rw [htake]
        simp only [crlf, List.append_assoc, List.cons_append, List.nil_append]
  obtain ⟨m, hexec, hlength, hdone⟩ : ∃ m : HttpClientParser,
      parser.exec (received data held.length read) (held.length + read.length) =
        .stop (0 + size.length + 2) httpclient_parser_first_final (m, parser.toParsed) ∧
      m.content_len = sizeValue size ∧ m.chunks_done = decide (sizeValue size ≤ 0) := by
    have hscan := exec_received parser hlt
    rw [hheld, hline, scan_line hsize hbuffer] at hscan
    exact ⟨_, hscan, rfl, rfl⟩
  have hres : (parser.exec (received data held.length read) (held.length + read.length)).result
      (held.length + read.length) httpclient_parser_error =
        some (0 + size.length + 2, httpclient_parser_first_final, m, parser.toParsed) := by
    rw [hexec]
    rfl
  have hlive : (leave m parser.toParsed httpclient_parser_first_final (0 + size.length + 2)).hasError = false :=
    leave_hasError.mpr ⟨herror, by decide⟩
  have hleft : held.length + read.length - (0 + size.length + 2) = after.length := by omega
  have hmoved := take_moved (p := 0 + size.length + 2)
    (show held.length + read.length ≤ (received data held.length read).length by rw [length_received hlt]; omega)
    (by omega)
  rw [recvHead_result hrec (by omega) hdata hres, hlive, if_neg Bool.false_ne_true]
  simp only
  rw [if_neg (by omega), if_pos ((leave_isFinished (by decide)).mpr rfl)]
  refine ⟨_, rfl, hlength, hdone, ?_, ?_, hleft, rfl⟩
  · simp only
    rw [length_overwrite, length_received hlt, hdata]
    simp only [List.length_take, List.length_drop, length_received hlt]
    omega
  · rw [hleft] at hmoved
    simp only
    rw [hleft, hmoved, htake]
    simp [crlf]

/-- A read that brings part of the line. -/
theorem recvHead_part (fuel : Nat) (peer : Peer) (hsize : IsChunkSize size) (hne : read ≠ [])
    (hfit : held.length + read.length ≤ buff_size) (herror : parser.m_error = 0)
    (hdata : data.length = buff_size + 1) (hheld : data.take held.length = held)
    (hpart : held ++ read = size ∨ held ++ read = size ++ [13]) :
    ∃ parser' data', parser'.m_error = 0 ∧ List.length data' = buff_size.1 + 1 ∧
      recvHead buff_size (fuel + 1) parser data held.length (.data read :: peer) =
        recvHead buff_size fuel parser' data' 0 peer := by
  have hrec : Peer.receive (.data read :: peer) (buff_size - held.length) = .ok (read, peer) :=
    Peer.receive_data hne (by omega)
  have hlt : held.length + read.length < data.length := by omega
  have hbuffer := calc
    (received data held.length read).drop 0
      = (received data held.length read).take (held.length + read.length) ++
          (received data held.length read).drop (held.length + read.length) := by
        rw [List.drop_zero, List.take_append_drop]
    _ = (held ++ read) ++ (received data held.length read).drop (held.length + read.length) := by
        rw [take_received hlt, hheld]
  have hexec := exec_received parser hlt
  rw [hheld] at hexec
  obtain ⟨cs, m, hscan⟩ := scan_part (n := held.length + read.length) (d := parser.toParsed)
    (m := { httpclient_parser_init parser.mParser with nread := 0, mark := 0, field_len := 0, field_start := 0 })
    hsize hbuffer hpart
  obtain ⟨data', hdata', hnext⟩ := recvHead_next fuel hrec (by omega) hdata (hexec.trans hscan) herror
  exact ⟨leave m parser.toParsed cs (held.length + read.length), data', herror, hdata', hnext⟩

/-- A line that begins with its end is no size line. -/
theorem recvHead_noSize (held : Bytes) {c : UInt8} (hc : c = 13 ∨ c = 10) (hfits : Fits buff_size held.length reads)
    (hheld : data.take held.length = held) (hdata : data.length = buff_size + 1)
    (hstream : held ++ reads.flatten = c :: s) :
    recvHead buff_size fuel parser data held.length (reads.map .data) ≠ .ok q := by
  cases fuel with
  | zero => rintro ⟨⟩
  | succ fuel =>
      cases reads with
      | nil =>
          rw [List.map_nil, recvHead_closed rfl]
          rintro ⟨⟩
      | cons read reads =>
          have hne := hfits.ne_nil read List.mem_cons_self
          have hfit := hfits.first read rfl
          have hrec : Peer.receive (.data read :: reads.map .data) (buff_size - held.length) =
              .ok (read, reads.map .data) := Peer.receive_data hne (by omega)
          apply recvHead_failed hrec (by omega) hdata
          rw [exec_received _ (by omega), hheld]
          cases hbytes : held ++ read with
          | nil => exact absurd (List.append_eq_nil_iff.mp hbytes).2 hne
          | cons b bytes =>
              rw [List.flatten_cons, ← List.append_assoc, hbytes, List.cons_append, List.cons.injEq] at hstream
              rw [hstream.1]
              exact scan_noSize hc

/-- The loop that reads the size line ends with the digits that arrive together with its end, or not at all. -/
theorem recvHead_size (hdigits : ∀ c ∈ size, xdigit c = true) (hfits : Fits buff_size held.length reads)
    (hfuel : reads.length < fuel) (herror : parser.m_error = 0) (hdata : data.length = buff_size + 1)
    (hheld : data.take held.length = held) (hstream : held ++ reads.flatten = size ++ crlf ++ s) :
    (∃ size' after rest q, IsChunkSize size' ∧ size' <:+ size ∧ rest <:+ reads ∧ s = after ++ rest.flatten ∧
        sizeRead held reads = some (size' ++ crlf ++ after, rest) ∧
        recvHead buff_size fuel parser data held.length (reads.map .data) = .ok q ∧
        SizeRead buff_size size' after (rest.map .data) q) ∨
      ((∀ q, recvHead buff_size fuel parser data held.length (reads.map .data) ≠ .ok q) ∧
        ∀ size' after rest, IsChunkSize size' → sizeRead held reads ≠ some (size' ++ crlf ++ after, rest)) := by
  induction reads generalizing held size fuel parser data with
  | nil =>
      refine .inr ⟨fun q => ?_, fun _ _ _ _ => by rintro ⟨⟩⟩
      cases fuel with
      | zero => cases hfuel
      | succ fuel =>
          rw [List.map_nil, recvHead_closed rfl]
          rintro ⟨⟩
  | cons read reads ih =>
      have hnone {held : Bytes} {reads : List Bytes} {t : Bytes} (ht : ∀ c ∈ t, c = 13)
          (h : held ++ reads.flatten = t ++ 10 :: s) (size' after : Bytes) (rest : List Bytes)
          (hsize : IsChunkSize size') : sizeRead held reads ≠ some (size' ++ crlf ++ after, rest) := by
        rw [List.append_assoc]
        refine sizeRead_noSize (fun c hc => ht c hc ▸ by decide) (fun h => ?_) h hsize
        cases ht 10 h
      have hline : size ++ crlf ++ s = (size ++ [13]) ++ 10 :: s := by simp [crlf]
      by_cases hnil : size = []
      · subst hnil
        exact .inr ⟨fun q => recvHead_noSize held (.inl rfl) hfits hheld hdata hstream,
          hnone (t := [13]) (by simp) (hstream.trans hline)⟩
      cases fuel with
      | zero => cases hfuel
      | succ fuel =>
          have hne := hfits.ne_nil read List.mem_cons_self
          have hfit := hfits.first read rfl
          have hsize : IsChunkSize size := ⟨hnil, hdigits⟩
          have hrec : Peer.receive (.data read :: reads.map .data) (buff_size - held.length) =
              .ok (read, reads.map .data) := Peer.receive_data hne (by omega)
          have hexec := exec_received parser (show held.length + read.length < data.length by omega)
          rw [hheld] at hexec
          rw [hline, List.flatten_cons, ← List.append_assoc] at hstream
          rw [sizeRead, List.map_cons]
          rcases append_eq_cons_cases (size_lf hdigits) hstream with ⟨after, hafter, hs⟩ | ⟨hmem, t, ht, hrest⟩
          · -- the end of the line is among the bytes in the buffer
            have hafter' : held ++ read = size ++ crlf ++ after := by rw [hafter]; simp [crlf]
            obtain ⟨q, hok, hread⟩ := recvHead_line fuel (reads.map .data) hsize hne hfit herror hdata
              hheld hafter'
            refine .inl ⟨size, after, reads, q, hsize, List.suffix_refl _, List.suffix_cons _ _, hs, ?_, hok, hread⟩
            rw [if_pos (by rw [hafter]; simp), hafter']
          · rw [if_neg hmem]
            have hpre : held ++ read ≠ [] := fun h => hne (List.append_eq_nil_iff.mp h).2
            have hfuel' : reads.length < fuel := Nat.lt_of_succ_lt_succ hfuel
            rcases List.eq_nil_or_concat t with rfl | ⟨digits, c, rfl⟩
            · -- the line feed alone is missing
              rw [List.append_nil] at ht
              obtain ⟨parser', data', herror', hdata', hnext⟩ :=
                recvHead_part fuel (reads.map .data) hsize hne hfit herror hdata hheld (.inr ht.symm)
              refine .inr ⟨fun q => ?_, hnone (t := []) (by simp) hrest⟩
              rw [hnext]
              exact recvHead_noSize [] (.inr rfl) hfits.tail rfl hdata' hrest
            · -- more digits are to come
              rw [List.concat_eq_append, ← List.append_assoc] at ht
              obtain ⟨rfl, hc⟩ := List.append_inj' ht rfl
              have hpart : IsChunkSize (held ++ read) := ⟨hpre, fun c hc => hdigits c (List.mem_append_left _ hc)⟩
              obtain ⟨parser', data', herror', hdata', hnext⟩ :=
                recvHead_part fuel (reads.map .data) hpart hne hfit herror hdata hheld (.inl rfl)
              rw [hnext]
              have hrest' : [] ++ reads.flatten = digits ++ crlf ++ s := by
                rw [List.nil_append, hrest, List.concat_eq_append, ← hc]
                simp [crlf]
              rcases ih (fun c hc => hdigits c (List.mem_append_right _ hc))
                (show Fits buff_size ([] : Bytes).length reads from hfits.tail) hfuel' herror' hdata' rfl hrest' with
                ⟨size', after, rest, q, hsize', hsuffix, hrests, hs, hread, hok, hq⟩ | hfailed
              · exact .inl ⟨size', after, rest, q, hsize', hsuffix.trans (List.suffix_append _ _),
                  hrests.trans (List.suffix_cons _ _), hs, hread, hok, hq⟩
              · exact .inr hfailed

/-! ## The data of a chunk -/

theorem append_ok {n : Int} (hn : 0 ≤ n) (h : n ≤ data.length) :
    append body data n = .ok (body ++ data.take n.toNat) := by
  rw [append, if_neg (by omega), if_neg (by omega)]

theorem append_negative {n : Int} (hn : n < 0) : append body data n = .error .lengthError := if_pos hn

/-- The bytes of a chunk that are not in the buffer are the next to arrive. -/
theorem recvLeft_successful (body : Bytes) {left : Nat} (hs : peer.Successful) (hfuel : peer.size < fuel)
    (hleft : left ≤ peer.bytes.length) (hbuffer : 0 < buff_size.1) (hdata : buff_size ≤ data.length) :
    ∃ data' peer', recvLeft buff_size fuel body data left peer = .ok (body ++ peer.bytes.take left, data', peer') := by
  induction fuel generalizing body data left peer with
  | zero => cases hfuel
  | succ fuel ih =>
      by_cases hzero : left = 0
      · subst hzero
        exact ⟨data, peer, by rw [recvLeft, if_pos rfl, List.take_zero, List.append_nil]⟩
      · have hne : peer.bytes ≠ [] := by
          intro hnil
          rw [hnil, List.length_nil] at hleft
          omega
        obtain ⟨bytes, peer₁, hrec⟩ : ∃ bytes peer₁, peer.receive (min left buff_size) = .ok (bytes, peer₁) :=
          Peer.receive_successful hs hne (by omega)
        have hr := Peer.receive_spec hrec
        have hle := hr.length_le
        have hbytes := hr.bytes_eq
        have hlen : peer.bytes.length = bytes.length + peer₁.bytes.length := by rw [hbytes, List.length_append]
        have hfit : bytes.length ≤ data.length := by omega
        have happend : append body (overwrite data 0 bytes) bytes.length = .ok (body ++ bytes) := by
          rw [append_ok (by omega) (by rw [length_overwrite (by omega)]; omega), Int.toNat_natCast,
            take_overwrite_zero hfit]
        obtain ⟨data', peer', hok⟩ : ∃ data' peer', recvLeft buff_size fuel (body ++ bytes) (overwrite data 0 bytes)
            (left - bytes.length) peer₁ = .ok (body ++ bytes ++ peer₁.bytes.take (left - bytes.length), data', peer') :=
          ih _ (hr.successful hs) (by have := hr.size_lt; omega) (by omega)
            (by rw [length_overwrite (by omega)]; exact hdata)
        have htake : (bytes ++ peer₁.bytes).take left = bytes ++ peer₁.bytes.take (left - bytes.length) := by
          rw [List.take_append, List.take_of_length_le (show bytes.length ≤ left by omega)]
        refine ⟨data', peer', ?_⟩
        rw [recvLeft, if_neg hzero, hrec, ok_bind]
        simp only
        rw [happend, ok_bind, hok, hbytes, htake, List.append_assoc]

/-- With fewer than two bytes in the buffer a length is negative, and so it is with a negative content_len. -/
theorem recvChunk_negative {content_len : Int} {len : Nat} (h : len < 2 ∨ content_len < 0)
    {r : Bytes × Bytes × Nat × Peer} : recvChunk buff_size content_len (len - 2) body data peer ≠ .ok r := by
  rw [recvChunk]
  split
  · rw [append_negative (by omega)]
    rintro ⟨⟩
  · rw [append_negative (by omega)]
    rintro ⟨⟩

/-- A chunk that is in the buffer, the last two bytes left out. -/
theorem recvChunk_buffered (buff_size : BufferSize) (body : Bytes) (peer : Peer) {content_len : Int} {len : Nat}
    (h : 0 ≤ content_len) (hle : content_len ≤ len - 2) (hdata : len ≤ data.length) :
    ∃ data', recvChunk buff_size content_len (len - 2) body data peer =
      .ok (body ++ data.take content_len.toNat, data', (len - 2 - content_len).toNat, peer) := by
  rw [recvChunk, if_pos hle, append_ok h (by omega), ok_bind, memmove_ok (by omega)]
  exact ⟨_, rfl⟩

/-- What the body of a chunk of `n` bytes is taken from: the buffer without its last two bytes, and what arrives. -/
theorem recvChunk_ok (body : Bytes) {content_len : Int} {len : Nat} (hlen : 2 ≤ len) (h : 0 ≤ content_len)
    (hs : peer.Successful) (hbuffer : 0 < buff_size.1) (hdata : data.length = buff_size + 1) (hle : len ≤ data.length)
    (henough : content_len ≤ len - 2 + peer.bytes.length) :
    ∃ r, recvChunk buff_size content_len (len - 2) body data peer = .ok r ∧
      r.1 = body ++ (data.take (len - 2) ++ peer.bytes).take content_len.toNat := by
  have htaken : (data.take (len - 2)).length = len - 2 := by
    rw [List.length_take]
    omega
  by_cases hin : content_len ≤ len - 2
  · obtain ⟨data', hok⟩ := recvChunk_buffered buff_size body peer h hin (by omega)
    refine ⟨_, hok, ?_⟩
    rw [List.take_append_of_le_length (by omega), List.take_take, Nat.min_eq_left (by omega)]
  · obtain ⟨data', peer', hok⟩ := recvLeft_successful (body ++ data.take (len - 2)) hs
      (Nat.lt_succ_self peer.size) (show (content_len - (len - 2)).toNat ≤ peer.bytes.length by omega) hbuffer
      (show buff_size ≤ data.length by omega)
    have htoNat : ((len : Int) - 2).toNat = len - 2 := by omega
    rw [recvChunk, if_neg hin, append_ok (by omega) (by omega), ok_bind, htoNat, hok, ok_bind]
    refine ⟨_, rfl, ?_⟩
    have hleft : (content_len - (len - 2)).toNat = content_len.toNat - (len - 2) := by omega
    have hall : (data.take (len - 2)).take content_len.toNat = data.take (len - 2) :=
      List.take_of_length_le (by omega)
    rw [List.take_append, htaken, hall, List.append_assoc, hleft]

end HttpConnection

end Mingfwq.Http
