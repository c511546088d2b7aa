import Mingfwq.Http.Lemmas.RequestLine

/-!
# The version and the header fields, as the automaton reads them
-/

namespace Mingfwq.Http

open Lib HttpParser

variable {r : Bool} {n p : Nat} {buffer key value raw rest xs ys : Bytes} {m : HttpParser} {k : Parsed HttpRequest}

theorem walk_loop {q : Nat} (h : ∀ c ∈ xs, goto (http_parser_next r) q c = some ([], q)) :
    walk (goto (http_parser_next r)) xs q = some q := by
  induction xs with
  | nil => rfl
  | cons c xs ih =>
      rw [walk_cons (h c List.mem_cons_self)]
      exact ih fun d hd => h d (List.mem_cons_of_mem _ hd)

/-! ## The version -/

def version_text (version : UInt8) : Bytes :=
  ascii "HTTP/" ++ ascii (toString (version >>> 4).toNat) ++ ascii "." ++ ascii (toString (version &&& 0x0F).toNat)

theorem setVersion_text {version : UInt8} (h : version = 0x10 ∨ version = 0x11) :
    on_request_version k (version_text version ++ rest) 8 =
      some { k with m_data := { k.m_data with m_version := version } } := by
  have htake : (version_text version ++ rest).take 8 = version_text version := by
    rcases h with rfl | rfl <;> rfl
  rw [on_request_version, Parsed.setVersion, ← strncmpEq_take, ← strncmpEq_take _ (ascii "HTTP/1.0"), htake]
  rcases h with rfl | rfl <;> rfl

theorem scan_version {version : UInt8} (h : version = 0x10 ∨ version = 0x11)
    (hbuffer : buffer.drop p = version_text version ++ 13 :: 10 :: ys) :
    request_scan r buffer n p (version_text version ++ 13 :: 10 :: ys) 4 (m, k) =
      request_scan r buffer n (p + 10) ys 13
        ({ m with mark := p }, { k with m_data := { k.m_data with m_version := version } }) := by
  have hversion : HttpParser.run HttpRequestParser.callbacks buffer n .http_version (p + 8) ({ m with mark := p }, k) =
      some ({ m with mark := p }, { k with m_data := { k.m_data with m_version := version } }) := by
    have hlen : LEN p (p + 8) = 8 := by
      rw [LEN_of_le (Nat.le_add_right p 8), Nat.add_sub_cancel_left]
    simp only [HttpParser.run, HttpRequestParser.callbacks, hlen, hbuffer, setVersion_text h, Option.map_some]
  have hmark : goto (http_parser_next r) 4 72 = some ([.mark], 5) := by cases r <;> rfl
  have hcr : goto (http_parser_next r) 12 13 = some ([.http_version], 17) := by cases r <;> rfl
  have hlf : goto (http_parser_next r) 17 10 = some ([], 13) := by cases r <;> rfl
  obtain ⟨text, htext, hlength, hwalk⟩ : ∃ text, version_text version = 72 :: text ∧ text.length = 7 ∧
      walk (goto (http_parser_next r)) text 5 = some 12 := by
    rcases h with rfl | rfl
    · exact ⟨[84, 84, 80, 47, 49, 46, 48], rfl, rfl, by cases r <;> rfl⟩
    · exact ⟨[84, 84, 80, 47, 49, 46, 49], rfl, rfl, by cases r <;> rfl⟩
  rw [htext, List.cons_append]
  refine (scan_goto_live hmark rfl rfl).trans ((scan_walk hwalk).trans ?_)
  rw [hlength, Nat.add_assoc p 1 7]
  refine (scan_goto_live hcr ((runActs_singleton ..).trans hversion) rfl).trans ?_
  exact scan_goto_live hlf rfl rfl

/-! ## A header field -/

/-- A line of the head, with the bytes behind the colon. -/
def field_line (field : Bytes × Bytes) : Bytes := field.1 ++ 58 :: (field.2 ++ [13, 10])

/-- The value that is read: the blanks in front of it are skipped. -/
def field_value (raw : Bytes) : Bytes := raw.dropWhile (· == 32)

/-- The request with one more header. -/
def Parsed.withHeader (k : Parsed HttpRequest) (key value : Bytes) : Parsed HttpRequest :=
  { k with m_data := { k.m_data with m_headers := k.m_data.m_headers.set key value } }

theorem run_write_value (hkey : buffer.drop m.field_start = key ++ rest) (hlen : m.field_len = key.length)
    (hne : key ≠ []) (hvalue : buffer.drop m.mark = value ++ ys) (hp : p = m.mark + value.length) :
    HttpParser.run HttpRequestParser.callbacks buffer n .write_value p (m, k) = some (m, k.withHeader key value) := by
  have hpos : m.field_len ≠ 0 := by
    rw [hlen]
    exact mt List.length_eq_zero_iff.mp hne
  have hfield : stdString (buffer.drop m.field_start) m.field_len = some key := by
    rw [hlen, stdString, if_pos (by rw [hkey, List.length_append]; omega), hkey, List.take_left]
  simp only [HttpParser.run, HttpRequestParser.callbacks, on_request_http_field, Parsed.setHeader, if_neg hpos, hfield,
    stdString_mark hvalue hp, Option.bind_eq_bind, Option.bind_some, Option.map_some, Parsed.withHeader]

theorem value_char_cases {c : UInt8} (h : value_char.has c = true) :
    c = 32 ∨ CharClass.has [(33, 126), (128, 255)] c = true :=
  forall_byte (P := fun c => value_char.has c = true → c = 32 ∨ CharClass.has [(33, 126), (128, 255)] c = true)
    (by decide +kernel) c h

/-- From behind the colon to the next line. -/
theorem scan_value (hraw : ∀ c ∈ raw, value_char.has c = true) (hkey : buffer.drop m.field_start = key ++ rest)
    (hlen : m.field_len = key.length) (hne : key ≠ []) (hbuffer : buffer.drop p = raw ++ 13 :: 10 :: ys) :
    ∃ m', SameKind m m' ∧ request_scan r buffer n p (raw ++ 13 :: 10 :: ys) 15 (m, k) =
      request_scan r buffer n (p + raw.length + 2) ys 13 (m', k.withHeader key (field_value raw)) := by
  have hlf : goto (http_parser_next r) 17 10 = some ([], 13) := by cases r <;> rfl
  induction raw generalizing p m with
  | nil =>
      have hcr : goto (http_parser_next r) 15 13 = some ([.start_value, .write_value], 17) := by
        cases r <;> rfl
      have hwrite : HttpParser.run HttpRequestParser.callbacks buffer n .write_value p ({ m with mark := p }, k) =
          some ({ m with mark := p }, k.withHeader key []) :=
        run_write_value (m := { m with mark := p }) hkey hlen hne (show buffer.drop p = [] ++ _ from hbuffer) rfl
      refine ⟨{ m with mark := p }, ⟨rfl, rfl⟩, ?_⟩
      refine (scan_goto_live hcr ?_ rfl).trans (scan_goto_live hlf rfl rfl)
      exact (runActs_singleton ..).trans hwrite
  | cons c raw ih =>
      have hc := hraw c List.mem_cons_self
      have hrest : ∀ d ∈ raw, value_char.has d = true := fun d hd => hraw d (List.mem_cons_of_mem _ hd)
      rcases value_char_cases hc with rfl | hother
      · -- a blank in front: the value starts anew behind it
        have hblank : goto (http_parser_next r) 15 32 = some ([.start_value], 15) := by cases r <;> rfl
        have hdrop : buffer.drop (p + 1) = raw ++ 13 :: 10 :: ys := by
          rw [← List.drop_drop, hbuffer]
          rfl
        obtain ⟨m', hkind, hscan⟩ := ih (m := { m with mark := p }) hrest hkey hlen hdrop
        refine ⟨m', hkind, (scan_goto_live hblank rfl rfl).trans (hscan.trans ?_)⟩
        rw [List.length_cons, Nat.add_comm raw.length, ← Nat.add_assoc p]
        rfl
      · have hstart : goto (http_parser_next r) 15 c = some ([.start_value], 16) :=
          request_goto (by cases r <;> rfl) hother
        have hwalk : walk (goto (http_parser_next r)) raw 16 = some 16 :=
          walk_loop fun d hd => request_goto (by cases r <;> rfl) (hrest d hd)
        have hcr : goto (http_parser_next r) 16 13 = some ([.write_value], 17) := by cases r <;> rfl
        have hvalue : field_value (c :: raw) = c :: raw := by
          refine List.dropWhile_cons_of_neg ?_
          rintro hblank
          rw [beq_iff_eq] at hblank
          subst hblank
          cases hother
        have hwrite := run_write_value (n := n) (m := { m with mark := p }) (k := k) hkey hlen hne hbuffer rfl
        refine ⟨{ m with mark := p }, ⟨rfl, rfl⟩, ?_⟩
        refine (scan_goto_live hstart rfl rfl).trans ((scan_walk hwalk).trans ?_)
        rw [hvalue, List.length_cons, Nat.add_comm raw.length, ← Nat.add_assoc p]
        rw [List.length_cons, Nat.add_comm raw.length, ← Nat.add_assoc p] at hwrite
        refine (scan_goto_live hcr ?_ rfl).trans (scan_goto_live hlf rfl rfl)
        exact (runActs_singleton ..).trans hwrite

/-- A field that can stand in a head. -/
structure FieldOk (field : Bytes × Bytes) : Prop where
  ne_nil : field.1 ≠ []
  token : ∀ c ∈ field.1, token.has c = true
  value : ∀ c ∈ field.2, value_char.has c = true

theorem scan_field {field : Bytes × Bytes} (h : FieldOk field) (hbuffer : buffer.drop p = field_line field ++ ys) :
    ∃ m', SameKind m m' ∧ request_scan r buffer n p (field_line field ++ ys) 13 (m, k) =
      request_scan r buffer n (p + (field_line field).length) ys 13
        (m', k.withHeader field.1 (field_value field.2)) := by
  obtain ⟨key, raw⟩ := field
  obtain ⟨hne, htoken, hraw⟩ := h
  have hline : field_line (key, raw) ++ ys = key ++ 58 :: (raw ++ 13 :: 10 :: ys) := by
    simp [field_line]
  rw [hline] at hbuffer ⊢
  have hcolon : goto (http_parser_next r) 14 58 = some ([.write_field], 15) := by cases r <;> rfl
  have hdrop : buffer.drop (p + key.length + 1) = raw ++ 13 :: 10 :: ys := by
    rw [← List.drop_drop, drop_append hbuffer]
    rfl
  have hlen : LEN p (p + key.length) = key.length := by
    rw [LEN_of_le (Nat.le_add_right p _), Nat.add_sub_cancel_left]
  obtain ⟨m', hkind, hscan⟩ := scan_value (r := r) (n := n) (k := k)
    (m := { m with field_start := p, field_len := LEN p (p + key.length) }) hraw hbuffer hlen hne hdrop
  refine ⟨m', hkind, ?_⟩
  have hend : p + (field_line (key, raw)).length = p + key.length + 1 + raw.length + 2 := by
    simp only [field_line, List.length_append, List.length_cons, List.length_nil]
    omega
  rw [hend, ← hscan]
  cases key with
  | nil => exact absurd rfl hne
  | cons c key =>
      have hstart : goto (http_parser_next r) 13 c = some ([.start_field], 14) :=
        request_goto (by cases r <;> rfl) (htoken c List.mem_cons_self)
      have hwalk : walk (goto (http_parser_next r)) key 14 = some 14 :=
        walk_loop fun d hd => request_goto (by cases r <;> rfl) (htoken d (List.mem_cons_of_mem _ hd))
      refine (scan_goto_live hstart rfl rfl).trans ((scan_walk hwalk).trans ?_)
      rw [List.length_cons, Nat.add_comm key.length, ← Nat.add_assoc p]
      exact scan_goto_live hcolon rfl rfl

/-! ## All fields, and the end of the head -/

/-- The headers after the fields. -/
def headers_of (headers : MapType) (fields : List (Bytes × Bytes)) : MapType :=
  fields.foldl (fun headers field => headers.set field.1 (field_value field.2)) headers

theorem scan_fields {fields : List (Bytes × Bytes)} (h : ∀ field ∈ fields, FieldOk field)
    (hbuffer : buffer.drop p = fields.flatMap field_line ++ ys) :
    ∃ m', SameKind m m' ∧ request_scan r buffer n p (fields.flatMap field_line ++ ys) 13 (m, k) =
      request_scan r buffer n (p + (fields.flatMap field_line).length) ys 13
        (m', { k with m_data := { k.m_data with m_headers := headers_of k.m_data.m_headers fields } }) := by
  induction fields generalizing p m k with
  | nil => exact ⟨m, ⟨rfl, rfl⟩, rfl⟩
  | cons field fields ih =>
      rw [List.flatMap_cons, List.append_assoc] at hbuffer ⊢
      obtain ⟨m₁, hkind₁, hscan₁⟩ := scan_field (r := r) (n := n) (m := m) (k := k) (h field List.mem_cons_self) hbuffer
      obtain ⟨m₂, hkind₂, hscan₂⟩ := ih (m := m₁) (k := k.withHeader field.1 (field_value field.2))
        (fun field hf => h field (List.mem_cons_of_mem _ hf)) (drop_append hbuffer)
      refine ⟨m₂, ⟨hkind₂.1.trans hkind₁.1, hkind₂.2.trans hkind₁.2⟩, hscan₁.trans (hscan₂.trans ?_)⟩
      rw [List.length_append, ← Nat.add_assoc]
      rfl

theorem scan_end (hxml : m.xml_sent = false) (hjson : m.json_sent = false) :
    ∃ m', request_scan r buffer n p (13 :: 10 :: ys) 13 (m, k) = .stop (p + 2) 348 (m', k) := by
  have hcr : goto (http_parser_next r) 13 13 = some ([.start_field], 18) := by cases r <;> rfl
  have hlf : goto (http_parser_next r) 18 10 = some ([.done], 348) := by cases r <;> rfl
  have hdone : runActs (HttpParser.run HttpRequestParser.callbacks buffer n) [.done] (p + 1)
      ({ m with field_start := p }, k) = some ({ m with field_start := p, body_start := p + 1 + 1 }, k) := by
    rw [runActs_singleton]
    simp only [HttpParser.run, hxml, hjson, Bool.or_false, Bool.false_eq_true, if_false, HttpRequestParser.callbacks,
      on_request_header_done, Parsed.ignore, Option.map_some]
  exact ⟨_, (scan_goto_live hcr rfl rfl).trans (scan_goto_stop hlf hdone rfl)⟩

end Mingfwq.Http
