import Mingfwq.Lib.Consumed
import Mingfwq.Http.Lemmas.Agree

/-!
# What a run over a response reads

Numbers are read up to the zero behind the bytes. A name is read where it was found, unless the automaton has begun
another one since: after an empty `Content-Length` or `Transfer-Encoding` the next line is taken for both the value and
a name, and the length is that of the old name.
-/

namespace Mingfwq.Http

open Lib

/-! ## C strings end at the zero -/

section CString

variable {base acc : Nat}

theorem digitsValue_zero (xs rest : Bytes) :
    digitsValue base (xs ++ 0 :: rest) acc = digitsValue base (xs ++ [0]) acc := by
  induction xs generalizing acc with
  | nil =>
      have hzero : digit base 0 = none := rfl
      simp only [List.nil_append, digitsValue, hzero]
  | cons c xs ih =>
      rw [List.cons_append, List.cons_append, digitsValue, digitsValue]
      cases digit base c with
      | none => rfl
      | some d => exact ih

theorem skipHexPrefix_zero (xs : Bytes) : ∃ ys : Bytes, ∀ rest : Bytes,
    skipHexPrefix base (xs ++ 0 :: rest) = ys ++ 0 :: rest := by
  have hdigit : (digit 16 0).isSome = false := rfl
  match xs with
  | [] => exact ⟨[], fun rest => by simp [skipHexPrefix]⟩
  | [c] =>
      refine ⟨[c], fun rest => ?_⟩
      by_cases hc : c = 48
      · subst hc
        cases rest <;> simp [skipHexPrefix]
      · simp [skipHexPrefix, hc]
  | [c, x] =>
      refine ⟨[c, x], fun rest => ?_⟩
      by_cases hc : c = 48
      · subst hc
        simp [skipHexPrefix, hdigit]
      · simp [skipHexPrefix, hc]
  | c :: x :: d :: xs =>
      by_cases hc : c = 48
      · subst hc
        by_cases hx : base = 16 ∧ (x = 120 ∨ x = 88) ∧ (digit 16 d).isSome
        · exact ⟨d :: xs, fun rest => by simp only [List.cons_append, skipHexPrefix, if_pos hx]⟩
        · exact ⟨48 :: x :: d :: xs, fun rest => by simp only [List.cons_append, skipHexPrefix, if_neg hx]⟩
      · exact ⟨c :: x :: d :: xs, fun rest => by simp [skipHexPrefix, hc]⟩

theorem dropWhile_isspace_zero (xs : Bytes) : ∃ ys : Bytes, ∀ rest : Bytes,
    (xs ++ 0 :: rest).dropWhile isspace = ys ++ 0 :: rest := by
  induction xs with
  | nil => exact ⟨[], fun rest => rfl⟩
  | cons c xs ih =>
      cases hc : isspace c with
      | true =>
          obtain ⟨ys, hys⟩ := ih
          exact ⟨ys, fun rest => by rw [List.cons_append, List.dropWhile_cons, hc, if_pos rfl, hys]⟩
      | false =>
          refine ⟨c :: xs, fun rest => ?_⟩
          rw [List.cons_append, List.dropWhile_cons, hc, if_neg Bool.false_ne_true]

theorem strtol_zero (xs rest : Bytes) : strtol (xs ++ 0 :: rest) base = strtol (xs ++ [0]) base := by
  obtain ⟨ys, hys⟩ := dropWhile_isspace_zero xs
  have hvalue (zs : Bytes) : digitsValue base (skipHexPrefix base (zs ++ 0 :: rest)) 0 =
      digitsValue base (skipHexPrefix base (zs ++ [0])) 0 := by
    obtain ⟨ws, hws⟩ : ∃ ws : Bytes, ∀ rest, skipHexPrefix base (zs ++ 0 :: rest) = ws ++ 0 :: rest :=
      skipHexPrefix_zero zs
    rw [hws, hws, digitsValue_zero]
  rw [strtol, strtol, hys, hys]
  match ys with
  | [] => exact congrArg (fun v : Nat => min (2 ^ 63 - 1) (v : Int)) (hvalue [])
  | 45 :: zs => exact congrArg (fun v : Nat => -min (2 ^ 63 - 1 + 1) (v : Int)) (hvalue zs)
  | 43 :: zs => exact congrArg (fun v : Nat => min (2 ^ 63 - 1) (v : Int)) (hvalue zs)
  | c :: zs =>
      by_cases h45 : c = 45
      · subst h45
        exact congrArg (fun v : Nat => -min (2 ^ 63 - 1 + 1) (v : Int)) (hvalue zs)
      · by_cases h43 : c = 43
        · subst h43
          exact congrArg (fun v : Nat => min (2 ^ 63 - 1) (v : Int)) (hvalue zs)
        · simp only [List.cons_append]
          split
          · next heq => exact absurd (List.cons.inj heq).1 h45
          · next heq => exact absurd (List.cons.inj heq).1 h43
          · split
            · next heq => exact absurd (List.cons.inj heq).1 h45
            · next heq => exact absurd (List.cons.inj heq).1 h43
            · exact congrArg (fun v : Nat => min (2 ^ 63 - 1) (v : Int)) (hvalue (c :: zs))

end CString

/-! ## Runs -/

variable {bytes : Bytes} {n p cs off : Nat}

/-- Where the last name begins, and how long it is; a callback that gets it may read up to the zero. -/
def HttpClientParser.nameTrack (len : Nat) : HttpClientParser.Action → Nat → Nat × Nat → Option (Nat × Nat)
  | .start_field, p, (_, field_len) => some (p, field_len)
  | .write_field, p, (field_start, _) => some (field_start, LEN field_start p)
  | .write_value, _, (field_start, field_len) =>
      if field_len = 0 ∨ field_start + field_len ≤ len + 1 then some (field_start, field_len) else none
  | _, _, name => some name

/-- The register pair that the track follows. -/
def HttpClientParser.name (parser : HttpClientParser) : Nat × Nat := (parser.field_start, parser.field_len)

theorem HttpClientParser.nameTrack_value {len : Nat} {name name' : Nat × Nat}
    (h : nameTrack len .write_value p name = some name') :
    (name.2 = 0 ∨ name.1 + name.2 ≤ len + 1) ∧ name' = name := by
  by_cases hname : name.2 = 0 ∨ name.1 + name.2 ≤ len + 1
  · have hsome : nameTrack len .write_value p name = some name := if_pos hname
    exact ⟨hname, Option.some.inj (h.symm.trans hsome)⟩
  · have hnone : nameTrack len .write_value p name = none := if_neg hname
    rw [hnone] at h
    cases h

theorem shifted_zero (bytes rest : Bytes) : Shifted (bytes ++ [0]) (bytes ++ 0 :: rest) 0 (bytes.length + 1) := by
  have hsplit : bytes ++ 0 :: rest = (bytes ++ [0]) ++ rest := by rw [List.append_assoc, List.singleton_append]
  have hlen : bytes.length + 1 = (bytes ++ [0]).length := by rw [List.length_append, List.length_singleton]
  rw [hsplit, hlen]
  refine ⟨?_, Nat.le_refl _, ?_⟩
  · rw [List.drop_zero, List.take_length, List.take_left]
  · have hlength : (bytes ++ [0] ++ rest).length = (bytes ++ [0]).length + rest.length := List.length_append
    omega

theorem strtol_drop (rest : Bytes) {base mark : Nat} (hmark : mark ≤ bytes.length) :
    strtol ((bytes ++ 0 :: rest).drop mark) base = strtol ((bytes ++ [0]).drop mark) base := by
  rw [List.drop_append_of_le_length hmark, List.drop_append_of_le_length hmark]
  exact strtol_zero _ _

/-- A callback that answers the same in both buffers. -/
theorem callback_bounded {α : Type} {parser : HttpClientParser} {o o' : Option α} {name : Nat × Nat}
    (hsome : ∃ d, o = some d) (ho : o = o') (hname : name = parser.name) :
    ∃ k', o.map (parser, ·) = some k' ∧ o'.map (parser, ·) = some k' ∧ name = k'.1.name := by
  obtain ⟨d, rfl⟩ := hsome
  subst ho
  exact ⟨(parser, d), rfl, rfl, hname⟩

/-- An action with its registers in range does the same whatever stands behind the zero. -/
theorem HttpClientParser.run_bounded (rest : Bytes) {a : HttpClientParser.Action}
    {k : HttpClientParser × Parsed HttpResponse}
    {name : Nat × Nat} (hp : p < bytes.length) (h : InRange (p + 1) k.1)
    (ht : nameTrack bytes.length a p k.1.name = some name) :
    ∃ k', HttpClientParser.run HttpResponseParser.callbacks (bytes ++ [0]) n a p k = some k' ∧
      HttpClientParser.run HttpResponseParser.callbacks (bytes ++ 0 :: rest) n a p k = some k' ∧
      name = k'.1.name := by
  obtain ⟨parser, d⟩ := k
  have hmark : parser.mark ≤ p := h.mark
  have hsh := shifted_zero bytes rest
  have hpiece : SamePiece ((bytes ++ [0]).drop parser.mark) ((bytes ++ 0 :: rest).drop parser.mark)
      (LEN parser.mark p) := by
    have hsame := hsh.samePiece (show parser.mark + LEN parser.mark p ≤ bytes.length + 1 by
      rw [LEN_of_le hmark]
      omega)
    rwa [Nat.zero_add] at hsame
  cases a with
  | mark | start_value | start_field | write_field | write_connection_close | trans_chunked =>
      cases ht
      exact ⟨_, rfl, rfl, rfl⟩
  | write_content_len =>
      cases ht
      refine ⟨_, rfl, ?_, rfl⟩
      rw [run, strtol_drop rest (by omega)]
  | done =>
      cases ht
      exact ⟨_, rfl, rfl, rfl⟩
  | status_code =>
      cases ht
      refine ⟨_, rfl, ?_, rfl⟩
      simp only [run, HttpResponseParser.callbacks, on_response_status, atoi, Option.map_some,
        strtol_drop rest (show parser.mark ≤ bytes.length by omega)]
  | chunk_size =>
      cases ht
      have hcb (c : Bool) (at_ : Bytes) (length : Nat) :
          (if c = true then HttpResponseParser.callbacks.last_chunk else HttpResponseParser.callbacks.chunk_size)
            d at_ length = some d := by
        cases c <;> rfl
      simp only [run, hcb, strtol_drop rest (show parser.mark ≤ bytes.length by omega)]
      exact ⟨_, rfl, rfl, rfl⟩
  | reason_phrase =>
      cases ht
      dsimp only [run, HttpResponseParser.callbacks]
      exact callback_bounded (setString_some hpiece) (setString_congr hpiece) rfl
  | http_version =>
      cases ht
      dsimp only [run, HttpResponseParser.callbacks]
      exact callback_bounded (setVersion_some hpiece) (setVersion_congr hpiece) rfl
  | write_value =>
      obtain ⟨hname, rfl⟩ := nameTrack_value ht
      dsimp only [run, HttpResponseParser.callbacks]
      rcases hname with hzero | hle
      · have hlen : parser.field_len = 0 := hzero
        refine ⟨(parser, d), ?_, ?_, rfl⟩ <;>
        · rw [on_response_http_field, Parsed.setHeader, if_pos hlen]
          rfl
      · have hkey := hsh.samePiece hle
        rw [Nat.zero_add] at hkey
        exact callback_bounded (setHeader_some hkey hpiece) (setHeader_congr hkey hpiece) rfl

/-- A run stays in range, and its names are the track's. -/
structure HttpClientParser.Bounded (bytes : Bytes) (cs p : Nat) (k : HttpClientParser × Parsed HttpResponse) :
    Prop where
  inRange : InRange p k.1
  names : scan httpclient_parser_next Action.breaks (nameTrack bytes.length) p (bytes.drop p) cs k.1.name ≠ .fault

theorem HttpClientParser.Bounded.step (rest : Bytes) {c : UInt8} {e : Edge HttpClientParser.Action}
    {k : HttpClientParser × Parsed HttpResponse} (h : HttpClientParser.Bounded bytes cs p k)
    (hget : bytes[p]? = some c) (he : httpclient_parser_next cs c = some e) :
    ∃ k', runActs (HttpClientParser.run HttpResponseParser.callbacks (bytes ++ [0]) n) e.acts p k = some k' ∧
      runActs (HttpClientParser.run HttpResponseParser.callbacks (bytes ++ 0 :: rest) n) e.acts p k = some k' ∧
      (e.acts.any HttpClientParser.Action.breaks = false → HttpClientParser.Bounded bytes e.target (p + 1) k') := by
  obtain ⟨hlt, hc⟩ := List.getElem?_eq_some_iff.mp hget
  have hnames := h.names
  rw [List.drop_eq_getElem_cons hlt, hc] at hnames
  obtain ⟨name, hname, hrest⟩ := track_cons he hnames
  have hact (a : HttpClientParser.Action) (_ : a ∈ e.acts) (name name' : Nat × Nat)
      (k k' : HttpClientParser × Parsed HttpResponse)
      (hk : k = k' ∧ name = k.1.name ∧ HttpClientParser.InRange (p + 1) k.1)
      (ht : HttpClientParser.nameTrack bytes.length a p name = some name') :
      ∃ k₁ k₁', HttpClientParser.run HttpResponseParser.callbacks (bytes ++ [0]) n a p k = some k₁ ∧
        HttpClientParser.run HttpResponseParser.callbacks (bytes ++ 0 :: rest) n a p k' = some k₁' ∧
        (k₁ = k₁' ∧ name' = k₁.1.name ∧ HttpClientParser.InRange (p + 1) k₁.1) := by
    obtain ⟨rfl, rfl, hrange⟩ := hk
    obtain ⟨k₁, hr, hr', hname'⟩ := HttpClientParser.run_bounded rest (n := n) hlt hrange ht
    exact ⟨k₁, k₁, hr, hr', rfl, hname', HttpClientParser.run_inRange hrange hr⟩
  obtain ⟨k₁, k₁', hr, hr', rfl, rfl, hrange⟩ := runActs_sim hact ⟨rfl, rfl, h.inRange.next⟩ hname
  exact ⟨k₁, hr, hr', fun hb => ⟨hrange, hrest hb⟩⟩

/-- A call reads only the bytes and the zero, if no name is read further. -/
theorem httpclient_parser_exec_bounded (rest : Bytes) {parser : HttpClientParser} {d : Parsed HttpResponse}
    (hparser : HttpClientParser.InRange off parser)
    (h : scan httpclient_parser_next HttpClientParser.Action.breaks (HttpClientParser.nameTrack bytes.length) off
      (bytes.drop off) parser.cs parser.name ≠ .fault) :
    httpclient_parser_exec HttpResponseParser.callbacks parser d (bytes ++ 0 :: rest) bytes.length off =
      httpclient_parser_exec HttpResponseParser.callbacks parser d (bytes ++ [0]) bytes.length off ∧
    httpclient_parser_exec HttpResponseParser.callbacks parser d (bytes ++ [0]) bytes.length off ≠ .fault := by
  rw [httpclient_parser_exec, httpclient_parser_exec, List.take_left, List.take_left]
  have hcongr := scan_congr
    (fun cs c e p k hget hk he => hk.step rest (n := bytes.length) hget he) rfl
    (show HttpClientParser.Bounded bytes parser.cs off (parser, d) from ⟨hparser, h⟩)
  exact ⟨hcongr.1.symm, hcongr.2⟩

/-- What does not fail where the zero ends the buffer reads no name beyond it. -/
theorem HttpClientParser.run_nameTrack {a : HttpClientParser.Action} {k k' : HttpClientParser × Parsed HttpResponse}
    (h : HttpClientParser.run HttpResponseParser.callbacks (bytes ++ [0]) n a p k = some k') :
    nameTrack bytes.length a p k.1.name = some k'.1.name := by
  obtain ⟨parser, d⟩ := k
  cases a with
  | mark | start_value | start_field | write_field | write_connection_close | trans_chunked | write_content_len =>
      cases h
      rfl
  | done | status_code =>
      cases h
      rfl
  | chunk_size | reason_phrase | http_version =>
      obtain ⟨_, -, rfl⟩ := Option.map_eq_some_iff.mp h
      rfl
  | write_value =>
      obtain ⟨_, hd, rfl⟩ := Option.map_eq_some_iff.mp h
      refine if_pos ?_
      by_contra hname
      rw [not_or] at hname
      simp only [HttpResponseParser.callbacks, on_response_http_field, Parsed.setHeader, if_neg hname.1] at hd
      obtain ⟨key, hkey, -⟩ := Option.bind_eq_some_iff.mp hd
      rw [stdString] at hkey
      split at hkey
      · next hle =>
          have hlong := hname.2
          have hpos := Nat.pos_of_ne_zero hname.1
          rw [List.length_drop, List.length_append, List.length_singleton] at hle
          simp only at hlong hpos
          omega
      · cases hkey

theorem httpclient_parser_exec_names {parser : HttpClientParser} {d : Parsed HttpResponse}
    (h : httpclient_parser_exec HttpResponseParser.callbacks parser d (bytes ++ [0]) bytes.length off ≠ .fault) :
    scan httpclient_parser_next HttpClientParser.Action.breaks (HttpClientParser.nameTrack bytes.length) off
      (bytes.drop off) parser.cs parser.name ≠ .fault := by
  rw [httpclient_parser_exec, List.take_left] at h
  refine scan_track (R := fun name k => name = k.1.name) ?_ rfl rfl h
  rintro a p name k k' - rfl hr
  exact ⟨_, HttpClientParser.run_nameTrack hr, rfl⟩

end Mingfwq.Http
