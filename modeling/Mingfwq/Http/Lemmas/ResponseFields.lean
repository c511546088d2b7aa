import Mingfwq.Http.Lemmas.Decimal
import Mingfwq.Http.Lemmas.HeaderMap
import Mingfwq.Http.Lemmas.RequestFields
import Mingfwq.Lib.Spelling

/-!
# The pieces of a response, as the automaton reads them

The automaton tells three headers from the others by the states their names lead through. Any other name leads to the
state in which the value is only text.
-/

namespace Mingfwq.Http

open Lib HttpClientParser

/-- The run of a response parser. -/
abbrev response_scan (buffer : Bytes) (n p : Nat) (xs : Bytes) (cs : Nat)
    (k : HttpClientParser × Parsed HttpResponse) : Run (HttpClientParser × Parsed HttpResponse) :=
  scan httpclient_parser_next Action.breaks (HttpClientParser.run HttpResponseParser.callbacks buffer n) p xs cs k

/-- Everything but the ends of lines. -/
def text_char : CharClass := [(0, 9), (11, 12), (14, 255)]

/-- What a value may begin with, so that no blank is skipped. -/
def text_start : CharClass := [(0, 8), (14, 31), (33, 255)]

/-- What the automaton says of the message apart from its headers. -/
structure HttpClientParser.SameMessage (m m' : HttpClientParser) : Prop where
  chunked : m'.chunked = m.chunked
  close : m'.close = m.close
  content_len : m'.content_len = m.content_len

theorem HttpClientParser.SameMessage.trans {m₁ m₂ m₃ : HttpClientParser} (h : SameMessage m₁ m₂)
    (h' : SameMessage m₂ m₃) : SameMessage m₁ m₃ :=
  ⟨h'.chunked.trans h.chunked, h'.close.trans h.close, h'.content_len.trans h.content_len⟩

variable {n p s : Nat} {buffer key value rest xs ys zs : Bytes} {c : UInt8} {m m' : HttpClientParser}
  {k : Parsed HttpResponse} {cl : CharClass} {acts : List Action}

theorem response_leads (h : httpclient_parser_table.leads s cl acts n = true) (hc : cl.has c = true) :
    goto httpclient_parser_next s c = some (acts, n) :=
  httpclient_parser_table.goto_of_leads h hc

theorem response_loop (h : httpclient_parser_table.leads s cl [] s = true) (hxs : ∀ c ∈ xs, cl.has c = true) :
    walk (goto httpclient_parser_next) xs s = some s := by
  induction xs with
  | nil => rfl
  | cons c xs ih =>
      rw [walk_cons (response_leads h (hxs c List.mem_cons_self))]
      exact ih fun d hd => hxs d (List.mem_cons_of_mem _ hd)

/-! ## The status line -/

theorem response_version {version : UInt8} (h : version = 0x10 ∨ version = 0x11) :
    on_response_version k (version_text version ++ rest) 8 =
      some { k with m_data := { k.m_data with m_version := version } } := by
  have htake : (version_text version ++ rest).take 8 = version_text version := by
    rcases h with rfl | rfl <;> rfl
  rw [on_response_version, Parsed.setVersion, ← strncmpEq_take, ← strncmpEq_take _ (ascii "HTTP/1.0"), htake]
  rcases h with rfl | rfl <;> rfl

theorem scan_response_version {version : UInt8} (h : version = 0x10 ∨ version = 0x11)
    (hbuffer : buffer.drop p = version_text version ++ rest) :
    response_scan buffer n p (version_text version ++ 32 :: ys) 1 (m, k) =
      response_scan buffer n (p + 9) ys 16
        ({ m with mark := p }, { k with m_data := { k.m_data with m_version := version } }) := by
  have hversion : HttpClientParser.run HttpResponseParser.callbacks buffer n .http_version (p + 8)
      ({ m with mark := p }, k) =
        some ({ m with mark := p }, { k with m_data := { k.m_data with m_version := version } }) := by
    have hlen : LEN p (p + 8) = 8 := by
      rw [LEN_of_le (Nat.le_add_right p 8), Nat.add_sub_cancel_left]
    simp only [HttpClientParser.run, HttpResponseParser.callbacks, hlen, hbuffer, response_version h, Option.map_some]
  have hmark : goto httpclient_parser_next 1 72 = some ([.mark], 8) := by rfl
  have hblank : goto httpclient_parser_next 15 32 = some ([.http_version], 16) := by rfl
  obtain ⟨text, htext, hlength, hwalk⟩ : ∃ text, version_text version = 72 :: text ∧ text.length = 7 ∧
      walk (goto httpclient_parser_next) text 8 = some 15 := by
    rcases h with rfl | rfl
    · exact ⟨[84, 84, 80, 47, 49, 46, 48], rfl, rfl, by rfl⟩
    · exact ⟨[84, 84, 80, 47, 49, 46, 49], rfl, rfl, by rfl⟩
  rw [htext, List.cons_append]
  apply (scan_goto_live hmark rfl rfl).trans
  apply (scan_walk hwalk).trans
  rw [hlength, Nat.add_assoc p 1 7]
  exact scan_goto_live hblank ((runActs_singleton ..).trans hversion) rfl

/-- The digits of a status, behind which a blank stands. -/
theorem scan_status (hne : xs ≠ []) (hxs : ∀ c ∈ xs, CharClass.digit.has c = true)
    (hbuffer : buffer.drop p = xs ++ 32 :: rest) :
    response_scan buffer n p (xs ++ 32 :: ys) 16 (m, k) =
      response_scan buffer n (p + xs.length + 1) ys 18
        ({ m with mark := p, status := atoi (xs ++ 32 :: rest) },
          { k with m_data := { k.m_data with m_status := atoi (xs ++ 32 :: rest) } }) := by
  cases xs with
  | nil => exact absurd rfl hne
  | cons c xs =>
      have hfirst : goto httpclient_parser_next 16 c = some ([.mark], 17) :=
        response_leads (by rfl) (hxs c List.mem_cons_self)
      have hwalk : walk (goto httpclient_parser_next) xs 17 = some 17 :=
        response_loop (by rfl) fun d hd => hxs d (List.mem_cons_of_mem _ hd)
      have hblank : goto httpclient_parser_next 17 32 = some ([.status_code], 18) := by rfl
      apply (scan_goto_live hfirst rfl rfl).trans
      apply (scan_walk hwalk).trans
      rw [List.length_cons, Nat.add_comm xs.length, ← Nat.add_assoc p]
      apply scan_goto_live hblank _ rfl
      rw [runActs_singleton]
      simp only [HttpClientParser.run, HttpResponseParser.callbacks, on_response_status, hbuffer, Option.map_some]
      rfl

theorem scan_reason (hne : xs ≠ []) (hxs : ∀ c ∈ xs, text_char.has c = true)
    (hbuffer : buffer.drop p = xs ++ rest) :
    response_scan buffer n p (xs ++ 13 :: 10 :: ys) 18 (m, k) =
      response_scan buffer n (p + xs.length + 2) ys 20
        ({ m with mark := p }, { k with m_data := { k.m_data with m_reason := xs } }) := by
  cases xs with
  | nil => exact absurd rfl hne
  | cons c xs =>
      have hfirst : goto httpclient_parser_next 18 c = some ([.mark], 19) :=
        response_leads (by rfl) (hxs c List.mem_cons_self)
      have hwalk : walk (goto httpclient_parser_next) xs 19 = some 19 :=
        response_loop (by rfl) fun d hd => hxs d (List.mem_cons_of_mem _ hd)
      have hcr : goto httpclient_parser_next 19 13 = some ([.reason_phrase], 24) := by rfl
      have hlf : goto httpclient_parser_next 24 10 = some ([], 20) := by rfl
      apply (scan_goto_live hfirst rfl rfl).trans
      apply (scan_walk hwalk).trans
      rw [List.length_cons, Nat.add_comm xs.length, ← Nat.add_assoc p]
      apply (scan_goto_live hcr _ rfl).trans (scan_goto_live hlf rfl rfl)
      simp only [runActs_singleton, HttpClientParser.run, HttpResponseParser.callbacks, on_response_reason,
        Parsed.setString]
      rw [stdString_mark hbuffer (by rw [List.length_cons]; omega)]
      rfl

/-! ## Names -/

/-- The prefixes of a word from the `len` bytes on that lead to state `first`. -/
def prefixes (first : Nat) (word : Bytes) (len : Nat) : Spelling :=
  (List.range (word.length + 1 - len)).map fun i => (first + i, word.take (len + i))

/-- Where the name of a field is read, and what its states spell. -/
def name_states : States := [(21, 21), (25, 34), (44, 60), (101, 111)]

def name_words : Spelling :=
  (20, []) :: prefixes 25 (ascii "connection") 1 ++ prefixes 44 (ascii "transfer-encoding") 1 ++
    prefixes 101 (ascii "content-length") 4

/-- A name of none of the headers that the automaton knows. -/
structure PlainName (key : Bytes) : Prop where
  connection : strcasecmp key (ascii "connection") ≠ .eq
  transfer_encoding : strcasecmp key (ascii "transfer-encoding") ≠ .eq
  content_length : strcasecmp key (ascii "content-length") ≠ .eq

theorem name_spells : httpclient_parser_table.spells ((20, 20) :: name_states) tolower name_words = true := by
  decide +kernel

theorem name_loops : httpclient_parser_table.loops name_states token = true := by decide +kernel

theorem name_starts : covers (httpclient_parser_table.edges 20) token
    (fun e => e.acts == [.start_field] && name_states.has e.target) = true := by
  decide +kernel

theorem name_ends : ∀ s ∈ name_states.toList, s = 34 ∨ s = 60 ∨ s = 111 ∨
    goto httpclient_parser_next s 58 = some ([.write_field], 22) := by
  decide +kernel

theorem folded_eq_map (h : ∀ c ∈ key, c ≠ 0) : folded key = key.map tolower := by
  induction key with
  | nil => rfl
  | cons c key ih =>
      rw [folded_cons (h c List.mem_cons_self), ih fun d hd => h d (List.mem_cons_of_mem _ hd), List.map_cons]

theorem folded_token (h : ∀ c ∈ key, token.has c = true) : folded key = key.map tolower := by
  apply folded_eq_map
  rintro c hc rfl
  cases h 0 hc

theorem name_run (hne : key ≠ []) (htoken : ∀ c ∈ key, token.has c = true) (hplain : PlainName key) :
    ∃ c key' u s, key = c :: key' ∧ goto httpclient_parser_next 20 c = some ([.start_field], u) ∧
      walk (goto httpclient_parser_next) key' u = some s ∧
      goto httpclient_parser_next s 58 = some ([.write_field], 22) := by
  cases key with
  | nil => exact absurd rfl hne
  | cons c key =>
      obtain ⟨e, he, hP⟩ := find?_of_covers name_starts (htoken c List.mem_cons_self)
      simp only [Bool.and_eq_true, beq_iff_eq] at hP
      have hgoto : goto httpclient_parser_table.next 20 c = some ([.start_field], e.target) := by
        rw [goto, Table.next_eq, he, Option.map_some, hP.1]
      obtain ⟨s, hs, hw⟩ := Table.within_of_loops name_loops hP.2 fun d hd => htoken d (List.mem_cons_of_mem _ hd)
      refine ⟨c, key, e.target, s, rfl, hgoto, hw.walk, ?_⟩
      -- the states of the known names are reached by these names only
      have hword : ∀ q w, name_words.lookup q = some w → folded (c :: key) ≠ w → s ≠ q := by
        rintro q w hq hname rfl
        obtain ⟨v, hv, rfl⟩ := Table.lookup_of_entered name_spells hgoto hP.2 hw hq
        cases hv
        exact hname (folded_token htoken)
      have hname : ∀ word, strcasecmp (c :: key) word ≠ .eq → folded (c :: key) ≠ folded word :=
        fun word h heq => h (strcasecmp_eq_iff.mpr heq)
      rcases name_ends s (States.mem_toList.mpr hs) with h | h | h | h
      · exact absurd h (hword 34 (ascii "connection") (by rfl) (hname _ hplain.connection))
      · exact absurd h (hword 60 (ascii "transfer-encoding") (by rfl) (hname _ hplain.transfer_encoding))
      · exact absurd h (hword 111 (ascii "content-length") (by rfl) (hname _ hplain.content_length))
      · exact h

/-! ## Fields -/

/-- The response with one more header. -/
def Parsed.withField (k : Parsed HttpResponse) (key value : Bytes) : Parsed HttpResponse :=
  { k with m_data := { k.m_data with m_headers := k.m_data.m_headers.set key value } }

theorem write_field_value (hkey : buffer.drop m.field_start = key ++ rest) (hlen : m.field_len = key.length)
    (hne : key ≠ []) (hvalue : buffer.drop m.mark = value ++ ys) (hp : p = m.mark + value.length) :
    HttpClientParser.run HttpResponseParser.callbacks buffer n .write_value p (m, k) =
      some (m, k.withField key value) := by
  have hpos : m.field_len ≠ 0 := by
    rw [hlen]
    exact mt List.length_eq_zero_iff.mp hne
  have hfield : stdString (buffer.drop m.field_start) m.field_len = some key := by
    rw [hlen, stdString, if_pos (by rw [hkey, List.length_append]; omega), hkey, List.take_left]
  simp only [HttpClientParser.run, HttpResponseParser.callbacks, on_response_http_field, Parsed.setHeader,
    if_neg hpos, hfield, stdString_mark hvalue hp, Option.bind_eq_bind, Option.bind_some, Option.map_some,
    Parsed.withField]

/-- The way of a value with a blank in front of it: from `v` behind the colon to `q` behind the line. -/
structure ValueWay (v u u' q : Nat) (acts : List Action) (value : Bytes) : Prop where
  blank : goto httpclient_parser_next v 32 = some ([.start_value], v)
  first : ∃ c cs, value = c :: cs ∧ goto httpclient_parser_next v c = some ([.start_value], u) ∧
    walk (goto httpclient_parser_next) cs u = some u'
  line : ∃ t, goto httpclient_parser_next u' 13 = some (acts ++ [.write_value], t) ∧
    goto httpclient_parser_next t 10 = some ([], q)
  lives : acts.any Action.breaks = false

theorem ValueWay.scan {v u u' q : Nat} (h : ValueWay v u u' q acts value)
    (hkey : buffer.drop m.field_start = key ++ rest) (hlen : m.field_len = key.length) (hne : key ≠ [])
    (hbuffer : buffer.drop p = 32 :: (value ++ zs))
    (hacts : runActs (HttpClientParser.run HttpResponseParser.callbacks buffer n) acts (p + 1 + value.length)
      ({ m with mark := p + 1 }, k) = some (m', k))
    (hm : m'.field_start = m.field_start ∧ m'.field_len = m.field_len ∧ m'.mark = p + 1) :
    response_scan buffer n p (32 :: (value ++ 13 :: 10 :: ys)) v (m, k) =
      response_scan buffer n (p + 1 + value.length + 2) ys q (m', k.withField key value) := by
  obtain ⟨c, cs, rfl, hfirst, hwalk⟩ := h.first
  obtain ⟨t, hcr, hlf⟩ := h.line
  have hvalue : buffer.drop m'.mark = (c :: cs) ++ zs := by
    rw [hm.2.2, ← List.drop_drop, hbuffer]
    rfl
  have hwrite := write_field_value (n := n) (k := k) (hm.1 ▸ hkey) (hm.2.1.trans hlen) hne hvalue rfl
  rw [hm.2.2] at hwrite
  have hruns : runActs (HttpClientParser.run HttpResponseParser.callbacks buffer n) (acts ++ [.write_value])
      (p + 1 + (c :: cs).length) ({ m with mark := p + 1 }, k) = some (m', k.withField key (c :: cs)) := by
    unfold runActs at hacts ⊢
    rw [List.foldlM_append, hacts]
    exact (runActs_singleton ..).trans hwrite
  have hlives : (acts ++ [Action.write_value]).any Action.breaks = false := by
    rw [List.any_append, h.lives]
    rfl
  apply (scan_goto_live h.blank rfl rfl).trans
  apply (scan_goto_live hfirst rfl rfl).trans
  apply (scan_walk hwalk).trans
  rw [List.length_cons, Nat.add_comm cs.length, ← Nat.add_assoc (p + 1)] at hruns ⊢
  exact (scan_goto_live hcr hruns hlives).trans (scan_goto_live hlf rfl rfl)

/-- A value that is only text. -/
theorem text_way {cs : Bytes} (hc : text_start.has c = true) (hcs : ∀ d ∈ cs, text_char.has d = true) :
    ValueWay 22 23 23 20 [] (c :: cs) where
  blank := by rfl
  first := ⟨c, cs, rfl, response_leads (by rfl) hc, response_loop (by rfl) hcs⟩
  line := ⟨24, by rfl, by rfl⟩
  lives := rfl

/-- A field of a response that the automaton passes on as it is. -/
structure LineOk (field : Bytes × Bytes) : Prop where
  ne_nil : field.1 ≠ []
  token : ∀ c ∈ field.1, token.has c = true
  plain : PlainName field.1
  value : ∀ c ∈ field.2, text_char.has c = true
  start : ∀ c ∈ field.2.head?, text_start.has c = true

/-- A line of the head, with a blank behind the colon. -/
def blank_line (field : Bytes × Bytes) : Bytes := field_line (field.1, 32 :: field.2)

theorem length_blank_line (key value : Bytes) : (blank_line (key, value)).length = key.length + value.length + 4 := by
  simp [blank_line, field_line]
  omega

/-- From the start of a line to the value: the name is between the registers. -/
theorem scan_name {c : UInt8} {u t v : Nat} (hkey : key = c :: xs) (hfirst : goto httpclient_parser_next s c =
    some ([.start_field], u)) (hwalk : walk (goto httpclient_parser_next) xs u = some t)
    (hcolon : goto httpclient_parser_next t 58 = some ([.write_field], v)) :
    response_scan buffer n p (key ++ 58 :: ys) s (m, k) =
      response_scan buffer n (p + key.length + 1) ys v ({ m with field_start := p, field_len := key.length }, k) := by
  subst hkey
  have hlen : LEN p (p + (xs.length + 1)) = xs.length + 1 := by
    rw [LEN_of_le (Nat.le_add_right p _), Nat.add_sub_cancel_left]
  have hwrite : runActs (HttpClientParser.run HttpResponseParser.callbacks buffer n) [.write_field]
      (p + (xs.length + 1)) ({ m with field_start := p }, k) =
        some ({ m with field_start := p, field_len := xs.length + 1 }, k) := by
    rw [runActs_singleton]
    simp only [HttpClientParser.run, hlen]
  apply (scan_goto_live hfirst rfl rfl).trans
  apply (scan_walk hwalk).trans
  rw [List.length_cons, Nat.add_assoc p 1, Nat.add_comm 1]
  exact scan_goto_live hcolon hwrite rfl

theorem blank_line_append (key value : Bytes) :
    blank_line (key, value) ++ ys = key ++ 58 :: (32 :: (value ++ 13 :: 10 :: ys)) := by
  simp [blank_line, field_line]

theorem drop_behind_colon (h : buffer.drop p = key ++ 58 :: zs) : buffer.drop (p + key.length + 1) = zs := by
  rw [← List.drop_drop, drop_append h]
  rfl

theorem scan_plain_line (ys : Bytes) {field : Bytes × Bytes} (h : LineOk field)
    (hbuffer : buffer.drop p = blank_line field ++ zs) :
    ∃ m', SameMessage m m' ∧ response_scan buffer n p (blank_line field ++ ys) 20 (m, k) =
      response_scan buffer n (p + (blank_line field).length) ys 20 (m', k.withField field.1 field.2) := by
  obtain ⟨key, value⟩ := field
  obtain ⟨hne, htoken, hplain, hvalue, hstart⟩ := h
  rw [blank_line_append] at hbuffer ⊢
  have hdrop := drop_behind_colon hbuffer
  have hend : p + (blank_line (key, value)).length = p + key.length + 1 + 1 + value.length + 2 := by
    rw [length_blank_line]
    omega
  obtain ⟨c, key', u, t, hkey, hfirst, hwalk, hcolon⟩ := name_run hne htoken hplain
  rw [scan_name hkey hfirst hwalk hcolon, hend]
  cases value with
  | nil =>
      -- nothing behind the blank: the value begins and ends at the end of the line
      have hblank : goto httpclient_parser_next 22 32 = some ([.start_value], 22) := by rfl
      have hcr : goto httpclient_parser_next 22 13 = some ([.start_value, .write_value], 24) := by rfl
      have hlf : goto httpclient_parser_next 24 10 = some ([], 20) := by rfl
      have hdrop' : buffer.drop (p + key.length + 1 + 1) = 13 :: 10 :: zs := by
        rw [← List.drop_drop, hdrop]
        rfl
      have hwrite := write_field_value (n := n) (k := k)
        (m := { m with field_start := p, field_len := key.length, mark := p + key.length + 1 + 1 })
        hbuffer rfl hne (show _ = [] ++ _ from hdrop') rfl
      refine ⟨{ m with field_start := p, field_len := key.length, mark := p + key.length + 1 + 1 },
        ⟨rfl, rfl, rfl⟩, ?_⟩
      apply (scan_goto_live hblank rfl rfl).trans
      apply (scan_goto_live hcr _ rfl).trans (scan_goto_live hlf rfl rfl)
      exact (runActs_singleton ..).trans hwrite
  | cons d value =>
      have hway := text_way (hstart d rfl) fun e he => hvalue e (List.mem_cons_of_mem _ he)
      refine ⟨{ m with field_start := p, field_len := key.length, mark := p + key.length + 1 + 1 },
        ⟨rfl, rfl, rfl⟩, ?_⟩
      exact hway.scan (m := { m with field_start := p, field_len := key.length }) hbuffer rfl hne hdrop rfl
        ⟨rfl, rfl, rfl⟩

/-- The headers after the fields. -/
def with_fields (headers : MapType) (fields : List (Bytes × Bytes)) : MapType :=
  fields.foldl (fun headers field => headers.set field.1 field.2) headers

theorem scan_plain_lines (ys : Bytes) {fields : List (Bytes × Bytes)} (h : ∀ field ∈ fields, LineOk field)
    (hbuffer : buffer.drop p = fields.flatMap blank_line ++ zs) :
    ∃ m', SameMessage m m' ∧ response_scan buffer n p (fields.flatMap blank_line ++ ys) 20 (m, k) =
      response_scan buffer n (p + (fields.flatMap blank_line).length) ys 20
        (m', { k with m_data := { k.m_data with m_headers := with_fields k.m_data.m_headers fields } }) := by
  induction fields generalizing p m k with
  | nil => exact ⟨m, ⟨rfl, rfl, rfl⟩, rfl⟩
  | cons field fields ih =>
      rw [List.flatMap_cons, List.append_assoc] at hbuffer ⊢
      obtain ⟨m₁, hsame₁, hscan₁⟩ := scan_plain_line (n := n) (m := m) (k := k) (fields.flatMap blank_line ++ ys)
        (h field List.mem_cons_self) hbuffer
      obtain ⟨m₂, hsame₂, hscan₂⟩ := ih (m := m₁) (k := k.withField field.1 field.2)
        (fun field hf => h field (List.mem_cons_of_mem _ hf)) (drop_append hbuffer)
      refine ⟨m₂, hsame₁.trans hsame₂, hscan₁.trans (hscan₂.trans ?_)⟩
      rw [List.length_append, ← Nat.add_assoc]
      rfl

/-! ## The headers that the automaton knows, and the end of the head -/

/-- Behind `connection: close` the next byte comes with one more action. -/
theorem scan_closed (hys : ys.head? = some 13 ∨ ys.head? = some 99) : response_scan buffer n p ys 43 (m, k) =
    response_scan buffer n p ys 20 ({ m with close := true }, k) := by
  obtain ⟨rest, rfl | rfl⟩ : ∃ rest, ys = 13 :: rest ∨ ys = 99 :: rest := by
    cases ys with
    | nil => simp at hys
    | cons c rest => exact ⟨rest, by simpa using hys⟩
  · have h : goto httpclient_parser_next 43 13 = some ([.write_connection_close], 3) := by rfl
    have h' : goto httpclient_parser_next 20 13 = some ([], 3) := by rfl
    exact scan_goto_cons h h' rfl rfl
  · have h : goto httpclient_parser_next 43 99 = some ([.write_connection_close, .start_field], 25) := by rfl
    have h' : goto httpclient_parser_next 20 99 = some ([.start_field], 25) := by rfl
    exact scan_goto_cons h h' rfl rfl

def connection_value (close : Bool) : Bytes := ascii (if close then "close" else "keep-alive")

theorem connection_way (close : Bool) :
    ∃ u u', ValueWay 35 u u' (if close then 43 else 20) [] (connection_value close) := by
  cases close with
  | true => exact ⟨96, 100, by rfl, ⟨99, ascii "lose", rfl, by rfl, by rfl⟩, ⟨88, by rfl, by rfl⟩, rfl⟩
  | false => exact ⟨23, 23, by rfl, ⟨107, ascii "eep-alive", rfl, by rfl, by rfl⟩, ⟨24, by rfl, by rfl⟩, rfl⟩

theorem scan_connection {close : Bool} (hys : ys.head? = some 13 ∨ ys.head? = some 99)
    (hbuffer : buffer.drop p = blank_line (ascii "connection", connection_value close) ++ zs) :
    ∃ m', m'.chunked = m.chunked ∧ m'.content_len = m.content_len ∧ m'.close = (close || m.close) ∧
      response_scan buffer n p (blank_line (ascii "connection", connection_value close) ++ ys) 20 (m, k) =
        response_scan buffer n (p + (blank_line (ascii "connection", connection_value close)).length) ys 20
          (m', k.withField (ascii "connection") (connection_value close)) := by
  have hend : p + (blank_line (ascii "connection", connection_value close)).length =
      p + (ascii "connection").length + 1 + 1 + (connection_value close).length + 2 := by
    rw [length_blank_line]
    omega
  rw [hend]
  rw [blank_line_append] at hbuffer ⊢
  have hdrop := drop_behind_colon hbuffer
  have hfirst : goto httpclient_parser_next 20 99 = some ([.start_field], 25) := by rfl
  have hwalk : walk (goto httpclient_parser_next) (ascii "onnection") 25 = some 34 := by rfl
  have hcolon : goto httpclient_parser_next 34 58 = some ([.write_field], 35) := by rfl
  obtain ⟨u, u', hway⟩ := connection_way close
  rw [scan_name (show ascii "connection" = 99 :: ascii "onnection" from rfl) hfirst hwalk hcolon,
    hway.scan (m := { m with field_start := p, field_len := (ascii "connection").length }) hbuffer rfl
      (List.cons_ne_nil _ _) hdrop rfl ⟨rfl, rfl, rfl⟩]
  cases close with
  | true =>
      rw [if_pos rfl, scan_closed hys]
      refine ⟨_, ?_, ?_, ?_, rfl⟩ <;> rfl
  | false => refine ⟨_, ?_, ?_, ?_, rfl⟩ <;> rfl

theorem scan_content_length (ys : Bytes) {len : Nat} (hlen : len < 2 ^ 31)
    (hbuffer : buffer.drop p = blank_line (ascii "content-length", ascii (toString len)) ++ zs) :
    ∃ m', m'.chunked = m.chunked ∧ m'.content_len = (len : Int) ∧ m'.close = m.close ∧
      response_scan buffer n p (blank_line (ascii "content-length", ascii (toString len)) ++ ys) 20 (m, k) =
        response_scan buffer n (p + (blank_line (ascii "content-length", ascii (toString len))).length) ys 20
          (m', k.withField (ascii "content-length") (ascii (toString len))) := by
  have hend : p + (blank_line (ascii "content-length", ascii (toString len))).length =
      p + (ascii "content-length").length + 1 + 1 + (ascii (toString len)).length + 2 := by
    rw [length_blank_line]
    omega
  rw [hend]
  rw [blank_line_append] at hbuffer ⊢
  have hdrop := drop_behind_colon hbuffer
  have hfirst : goto httpclient_parser_next 20 99 = some ([.start_field], 25) := by rfl
  have hwalk : walk (goto httpclient_parser_next) (ascii "ontent-length") 25 = some 111 := by rfl
  have hcolon : goto httpclient_parser_next 111 58 = some ([.write_field], 112) := by rfl
  rw [scan_name (show ascii "content-length" = 99 :: ascii "ontent-length" from rfl) hfirst hwalk hcolon]
  have hway : ValueWay 112 119 119 20 [.write_content_len] (ascii (toString len)) := by
    obtain ⟨d, ds, hds⟩ := List.exists_cons_of_ne_nil (toString_ne_nil (n := len))
    have hdigits : ∀ e ∈ d :: ds, CharClass.digit.has e = true := fun e he => digits_char (n := len) (hds ▸ he)
    refine ⟨by rfl, ⟨d, ds, hds, response_leads (by rfl) (hdigits d List.mem_cons_self), ?_⟩, ⟨24, by rfl, by rfl⟩, rfl⟩
    exact response_loop (by rfl) fun e he => hdigits e (List.mem_cons_of_mem _ he)
  have hread : toInt32 (strtol (ascii (toString len) ++ 13 :: 10 :: zs) 10) = len := by
    have hcr : ∀ d ∈ (13 :: 10 :: zs).head?, CharClass.digit.has d = false := fun d hd => Option.some.inj hd ▸ rfl
    rw [← atoi, atoi_digits toString_ne_nil (fun d hd => digits_char hd) hcr, digitsValue_toString, toInt32,
      Int.min_eq_right (by omega), Int.bmod_eq_of_le] <;> omega
  have hmark : buffer.drop (p + (ascii "content-length").length + 1 + 1) = ascii (toString len) ++ 13 :: 10 :: zs := by
    rw [← List.drop_drop, hdrop]
    rfl
  obtain ⟨m₁, hm₁⟩ : ∃ m₁, m₁ = { m with field_start := p, field_len := (ascii "content-length").length } := ⟨_, rfl⟩
  have hset : runActs (HttpClientParser.run HttpResponseParser.callbacks buffer n) [.write_content_len]
      (p + (ascii "content-length").length + 1 + 1 + (ascii (toString len)).length)
      ({ m₁ with mark := p + (ascii "content-length").length + 1 + 1 }, k) =
        some ({ m₁ with mark := p + (ascii "content-length").length + 1 + 1, content_len := len }, k) := by
    rw [runActs_singleton]
    simp only [HttpClientParser.run, hmark, hread]
  have hstart : buffer.drop m₁.field_start = ascii "content-length" ++ 58 ::
      (32 :: (ascii (toString len) ++ 13 :: 10 :: zs)) := by
    rw [hm₁]
    exact hbuffer
  have hfield_len : m₁.field_len = (ascii "content-length").length := by rw [hm₁]
  rw [← hm₁]
  refine ⟨_, ?_, ?_, ?_, hway.scan hstart hfield_len (List.cons_ne_nil _ _) hdrop hset ⟨rfl, rfl, rfl⟩⟩
  · rw [hm₁]
  · rfl
  · rw [hm₁]

theorem scan_response_end : response_scan buffer n p (13 :: 10 :: ys) 20 (m, k) =
    .stop (p + 2) 120 ({ m with body_start := p + 2 }, k) := by
  have hcr : goto httpclient_parser_next 20 13 = some ([], 3) := by rfl
  have hlf : goto httpclient_parser_next 3 10 = some ([.done], 120) := by rfl
  exact (scan_goto_live hcr rfl rfl).trans (scan_goto_stop hlf rfl rfl)

end Mingfwq.Http
