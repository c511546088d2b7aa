import Mingfwq.Http.Lemmas.RequestHead
import Mingfwq.Http.Lemmas.Agree

/-!
# A request head in pieces

The loop of recvRequest over the pieces of a head is compared with one run over the whole head.
-/

namespace Mingfwq.Http

open Lib HttpRequestParser

/-- What the automaton does over `bytes` from state `cs`. -/
def http_parser_path (uri_relaxed : Bool) (p : Nat) (bytes : Bytes) (cs : Nat) : Run Unit :=
  path (http_parser_next uri_relaxed) HttpParser.Action.breaks p bytes cs

/-- The automaton accepts `head`, with its last byte: a well-formed request head. -/
def http_parser_accepts (uri_relaxed : Bool) (head : Bytes) : Prop :=
  ∃ cs, http_parser_path uri_relaxed 0 head http_parser_start = .stop head.length cs ()

/-- In every piece the automaton, which enters it in the state the last one has left, reads no register that it has
not set in the same piece. -/
def ownReads (uri_relaxed : Bool) : Nat → List Bytes → Bool
  | _, [] => true
  | cs, seg :: segs =>
      match scan (http_parser_next uri_relaxed) HttpParser.Action.breaks HttpParser.registerUse.watch 0 seg cs [] with
      | .live cs' _ => ownReads uri_relaxed cs' segs
      | .fault => false
      | _ => true

/-- How the head loop ends when the message is `parsed` and the head has been read to its end. -/
def HeadEnd (parsed : Parsed HttpRequest) (rest : Peer)
    (x : Except Stop (HttpRequestParser × Bytes × Nat × Peer)) : Prop :=
  if parsed.m_error ≠ 0 then x = .error .closed
  else ∃ parser data, x = .ok (parser, data, 0, rest) ∧ parser.toParsed = parsed

section Whole

variable {uri_relaxed : Bool} {buffer : Bytes} {n : Nat}

/-- An error stays to the end of a run. -/
theorem scan_error {bytes : Bytes} {p cs p' cs' : Nat} {k k' : HttpParser × Parsed HttpRequest}
    (herror : k.2.m_error ≠ 0)
    (h : scan (http_parser_next uri_relaxed) HttpParser.Action.breaks (HttpParser.run callbacks buffer n) p bytes cs k =
      .stop p' cs' k') : k'.2.m_error ≠ 0 := by
  have hres := congrArg (Run.result (p + bytes.length) http_parser_error) h
  refine (scan_inv (I := fun _ k => k.2.m_error ≠ 0) ?_ rfl herror hres).2.2
  intro p k acts k' _ hk hr
  exact runActs_inv (I := fun k => k.2.m_error ≠ 0) (fun a _ k k' hk hr => run_error hr hk) hk hr

end Whole

namespace HttpSession

variable {buff_size : BufferSize} {uri_relaxed : Bool} {buffer' : Bytes} {n' : Nat}

/-- The whole head: `buffer'` begins with it. -/
structure Whole (head buffer' : Bytes) : Prop where
  take_eq : buffer'.take head.length = head
  le : head.length ≤ buffer'.length

theorem Whole.shifted {pre seg post buffer : Bytes} (hw : Whole (pre ++ seg ++ post) buffer')
    (htake : buffer.take seg.length = seg) (hle : seg.length ≤ buffer.length) :
    Shifted buffer buffer' pre.length seg.length := by
  have hlen := hw.le
  simp only [List.length_append] at hlen
  have hpre : buffer'.take (pre.length + seg.length) = pre ++ seg := by
    have htake' := congrArg (List.take (pre.length + seg.length)) hw.take_eq
    rw [List.take_take, Nat.min_eq_left (by simp only [List.length_append]; omega)] at htake'
    rw [htake', ← List.length_append, List.take_left]
  refine ⟨?_, hle, by omega⟩
  rw [htake, List.take_drop, hpre, List.drop_left]

/-- The run over a piece that stands at the front of the buffer, and over the same piece in the whole head. -/
theorem exec_rel {pre seg post data : Bytes} {parser : HttpRequestParser} {k : HttpParser × Parsed HttpRequest}
    (hw : Whole (pre ++ seg ++ post) buffer') (hle : seg.length ≤ data.length) (hparsed : parser.toParsed = k.2)
    (hwatch : scan (http_parser_next parser.mParser.uri_relaxed) HttpParser.Action.breaks
      HttpParser.registerUse.watch 0 seg parser.mParser.cs [] ≠ .fault) :
    (parser.exec (overwrite data 0 seg) seg.length).Rel pre.length (fun k k' => k.2 = k'.2)
      (scan (http_parser_next parser.mParser.uri_relaxed) HttpParser.Action.breaks
        (HttpParser.run callbacks buffer' n') pre.length seg parser.mParser.cs k) := by
  have htake : (overwrite data 0 seg).take seg.length = seg := take_overwrite_zero hle
  have hlen : (overwrite data 0 seg).length = data.length := length_overwrite (by omega)
  have hsh := hw.shifted htake (by omega)
  have hagree : Agree pre.length 0 [] ({ parser.mParser with
      nread := 0, mark := 0, field_len := 0, field_start := 0 }, parser.toParsed) k := Agree.of_nil hparsed
  rw [HttpRequestParser.exec, http_parser_exec, htake, List.drop_zero]
  exact hagree.scan hsh (by rw [htake, List.drop_zero]) (Nat.zero_add _) hwatch

theorem path_of_scan {p cs : Nat} {bytes : Bytes} {k : HttpParser × Parsed HttpRequest}
    {r : Run (HttpParser × Parsed HttpRequest)}
    (h : scan (http_parser_next uri_relaxed) HttpParser.Action.breaks (HttpParser.run callbacks buffer' n') p bytes cs
      k = r) (hr : r ≠ .fault) :
    r.SameEnd (scan (http_parser_next uri_relaxed) HttpParser.Action.breaks (fun _ _ u => some u) p bytes cs ()) := by
  subst h
  exact scan_sameEnd hr

theorem nothing_left {segs : List Bytes} {a p n : Nat} (hne : ∀ s ∈ segs, s ≠ []) (hp : p ≤ n)
    (h : a + p = a + n + segs.flatten.length) : p = n ∧ segs = [] := by
  refine ⟨by omega, ?_⟩
  cases segs with
  | nil => rfl
  | cons s segs =>
      have hpos : 0 < s.length := List.length_pos_of_ne_nil (hne s List.mem_cons_self)
      rw [List.flatten_cons, List.length_append] at h
      omega

/-- The pieces after one that is read to its end. -/
theorem ownReads_live {parser : HttpRequestParser} {data seg : Bytes} {segs : List Bytes} {cs : Nat}
    {k : HttpParser × Parsed HttpRequest} (h : parser.exec (overwrite data 0 seg) seg.length = .live cs k)
    (hle : seg.length ≤ data.length)
    (hown : ownReads parser.mParser.uri_relaxed parser.mParser.cs (seg :: segs)) :
    ownReads parser.mParser.uri_relaxed cs segs := by
  rw [HttpRequestParser.exec, http_parser_exec, take_overwrite_zero hle, List.drop_zero] at h
  obtain ⟨u, hlive, -⟩ := (path_of_scan h (by rintro ⟨⟩)).of_live
  rw [ownReads] at hown
  cases hw : scan (http_parser_next parser.mParser.uri_relaxed) HttpParser.Action.breaks
      HttpParser.registerUse.watch 0 seg parser.mParser.cs [] with
  | fault =>
      rw [hw] at hown
      cases hown
  | live cs' own =>
      have hend := scan_sameEnd (by rw [hw]; rintro ⟨⟩)
      rw [hw, path, hlive] at hend
      obtain ⟨_, heq, -⟩ := hend.of_live
      cases heq
      rw [hw] at hown
      exact hown
  | err p own =>
      have hend := scan_sameEnd (by rw [hw]; rintro ⟨⟩)
      rw [hw, path, hlive] at hend
      exact hend.elim
  | stop p cs' own =>
      have hend := scan_sameEnd (by rw [hw]; rintro ⟨⟩)
      rw [hw, path, hlive] at hend
      exact hend.elim

/-- The last round. -/
theorem headEnd_stop {m : HttpParser} {d : Parsed HttpRequest} {cs p offset : Nat} {data : Bytes} {rest : Peer}
    {x : Except Stop (HttpRequestParser × Bytes × Nat × Peer)} (hcs : http_parser_first_final ≤ cs)
    (hoffset : offset = 0 ∧ 0 ≠ buff_size.1) :
    HeadEnd d rest (if (leave m d cs p).hasError then .error .closed
      else if offset = buff_size then .error .closed
      else if (leave m d cs p).isFinished ≠ 0 then .ok (leave m d cs p, data, offset, rest)
      else x) := by
  have hcs' : cs ≠ http_parser_error := Nat.ne_of_gt (Nat.lt_of_lt_of_le (by decide) hcs)
  obtain ⟨rfl, hbuff⟩ := hoffset
  rw [HeadEnd]
  by_cases herror : d.m_error = 0
  · have hok : (leave m d cs p).hasError = false := leave_hasError.mpr ⟨herror, hcs'⟩
    rw [if_neg (not_not.mpr herror), hok, if_neg Bool.false_ne_true, if_neg hbuff, leave_isFinished hcs,
      if_pos Int.one_ne_zero]
    exact ⟨_, data, rfl, rfl⟩
  · have hbad : (leave m d cs p).hasError = true := by
      rw [← Bool.not_eq_false, leave_hasError]
      exact fun h => herror h.1
    rw [if_pos herror, hbad, if_pos rfl]

/-- Over the pieces of a head, each of whose runs reads only what it has set, the loop ends as one run over the whole
head does. -/
theorem recvHead_segments {segs : List Bytes} {pre data : Bytes} {rest : Peer} {fuel cs' : Nat}
    {parser : HttpRequestParser} {k : HttpParser × Parsed HttpRequest}
    (hw : Whole (pre ++ segs.flatten) buffer') (hne : ∀ s ∈ segs, s ≠ [])
    (hfit : (pre ++ segs.flatten).length ≤ buff_size) (hfuel : segs.length ≤ fuel) (hdata : data.length = buff_size)
    (hready : parser.Ready) (hparsed : parser.toParsed = k.2)
    (hown : ownReads parser.mParser.uri_relaxed parser.mParser.cs segs)
    (hpath : http_parser_path parser.mParser.uri_relaxed pre.length segs.flatten parser.mParser.cs =
      .stop (pre ++ segs.flatten).length cs' ()) :
    ∃ k', scan (http_parser_next parser.mParser.uri_relaxed) HttpParser.Action.breaks
        (HttpParser.run callbacks buffer' n') pre.length segs.flatten parser.mParser.cs k =
          .stop (pre ++ segs.flatten).length cs' k' ∧
      HeadEnd k'.2 rest (recvHead buff_size fuel parser data 0 (segs.map .data ++ rest)) := by
  induction segs generalizing pre data fuel parser k with
  | nil => cases hpath
  | cons seg segs ih =>
      obtain ⟨fuel, rfl⟩ : ∃ f, fuel = f + 1 := ⟨fuel - 1, by simp only [List.length_cons] at hfuel; omega⟩
      have hseg : seg ≠ [] := hne seg List.mem_cons_self
      have hpos : 0 < seg.length := List.length_pos_of_ne_nil hseg
      simp only [List.flatten_cons, List.length_append] at hfit
      have hle : seg.length ≤ data.length := by omega
      have hlen : (overwrite data 0 seg).length = data.length := length_overwrite (by omega)
      have hrec : Peer.receive (.data seg :: (segs.map .data ++ rest)) buff_size = .ok (seg, segs.map .data ++ rest) :=
        Peer.receive_data hseg (by omega)
      rw [List.flatten_cons, ← List.append_assoc] at hw hpath
      rw [List.flatten_cons, ← List.append_assoc]
      rw [List.map_cons, List.cons_append]
      have hwatch : scan (http_parser_next parser.mParser.uri_relaxed) HttpParser.Action.breaks
          HttpParser.registerUse.watch 0 seg parser.mParser.cs [] ≠ .fault := by
        intro hfault
        rw [ownReads, hfault] at hown
        cases hown
      have hrel : (parser.exec (overwrite data 0 seg) seg.length).Rel pre.length (fun k k' => k.2 = k'.2)
          (scan (http_parser_next parser.mParser.uri_relaxed) HttpParser.Action.breaks
            (HttpParser.run callbacks buffer' n') pre.length seg parser.mParser.cs k) :=
        exec_rel hw hle hparsed hwatch
      rw [http_parser_path, path, scan_append] at hpath
      rw [scan_append]
      cases hB : parser.exec (overwrite data 0 seg) seg.length with
      | fault =>
          rw [hB] at hrel
          exact hrel.elim
      | err p k₁ =>
          rw [hB] at hrel
          obtain ⟨k₁', hA, -⟩ := hrel.of_err
          obtain ⟨u, hp, -⟩ := (path_of_scan hA nofun).of_err
          rw [hp] at hpath
          cases hpath
      | stop p cs k₁ =>
          obtain ⟨m, d⟩ := k₁
          have hres : (parser.exec (overwrite data 0 seg) seg.length).result seg.length http_parser_error =
              some (p, cs, m, d) := by rw [hB]; rfl
          have hp := exec_le (by omega) hres
          rw [hB] at hrel
          obtain ⟨k₁', hA, hd⟩ := hrel.of_stop
          obtain ⟨u, hstop, -⟩ := (path_of_scan hA nofun).of_stop
          rw [hstop] at hpath
          simp only [Run.stop.injEq, List.length_append, Nat.zero_add] at hpath
          obtain ⟨htotal, rfl, -⟩ := hpath
          obtain ⟨rfl, rfl⟩ := nothing_left (fun s hs => hne s (List.mem_cons_of_mem _ hs)) hp htotal
          refine ⟨k₁', ?_, ?_⟩
          · simp only [hA, List.length_append, List.flatten_nil, List.length_nil, Nat.add_zero]
          · rw [recvHead_result hrec hready hdata hres, ← hd]
            exact headEnd_stop (stop_final hB).2 (by rw [Nat.sub_self]; omega)
      | live cs k₁ =>
          obtain ⟨m, d⟩ := k₁
          have hres : (parser.exec (overwrite data 0 seg) seg.length).result seg.length http_parser_error =
              some (seg.length, cs, m, d) := by rw [hB]; rfl
          have hready' := live_ready hready hB
          have hrelaxed : m.uri_relaxed = parser.mParser.uri_relaxed :=
            (http_parser_exec_inRange (Nat.zero_le _) (by omega) hres).2.2.uri_relaxed
          have hown' := ownReads_live hB (by omega) hown
          rw [hB] at hrel
          obtain ⟨k₁', hA, hd⟩ := hrel.of_live
          obtain ⟨u, hlive, -⟩ := (path_of_scan hA nofun).of_live
          rw [hlive] at hpath
          simp only [hA]
          rw [← List.length_append] at hpath ⊢
          have hdata' : (overwrite (overwrite data 0 seg) 0
              (((overwrite data 0 seg).drop seg.length).take (seg.length - seg.length))).length = buff_size := by
            rw [Nat.sub_self, List.take_zero, overwrite_nil (Nat.zero_le _), hlen, hdata]
          obtain ⟨k', hrun, hend⟩ := @ih (pre ++ seg) _ fuel (leave m d cs seg.length) k₁' hw
            (fun s hs => hne s (List.mem_cons_of_mem _ hs))
            (by simp only [List.length_append]; omega) (by simp only [List.length_cons] at hfuel; omega) hdata' hready'
            hd (by rw [leave, hrelaxed]; exact hown') (by rw [leave, hrelaxed]; exact hpath)
          simp only [leave, hrelaxed] at hrun
          refine ⟨k', hrun, ?_⟩
          rw [recvHead_result hrec hready hdata hres]
          by_cases herror : d.m_error = 0
          · have hok : (leave m d cs seg.length).hasError = false :=
              leave_hasError.mpr ⟨herror, Nat.ne_of_gt hready'.cs_pos⟩
            rw [hok, if_neg Bool.false_ne_true]
            simp only
            rw [if_neg (by omega), ready_isFinished hready', if_neg (by decide)]
            rw [Nat.sub_self] at hend ⊢
            exact hend
          · have hbad : (leave m d cs seg.length).hasError = true := by
              rw [← Bool.not_eq_false, leave_hasError]
              exact fun h => herror h.1
            have hlast := scan_error (by rw [← hd]; exact herror) hrun
            rw [hbad, if_pos rfl, HeadEnd, if_pos hlast]

end HttpSession

end Mingfwq.Http
