import Mingfwq.Http.Http
import Mingfwq.Http.Http11Table
import Mingfwq.Http.HttpClientTable

/-!
# The parsers (http11_parser.rl, httpclient_parser.rl, http_parser.cpp)

The automata hand pieces of the buffer to callbacks: a pointer into the buffer is the list of the bytes from
there on. Between calls of execute an automaton keeps its state and its registers, which are offsets into the
buffer of the call that set them.
-/

namespace Mingfwq.Http

open Lib

/-- `element_cb` and `field_cb`, over what the callbacks fill; none where `std::string` throws. -/
abbrev ElementCb (δ : Type) := δ → Bytes → Nat → Option δ

abbrev FieldCb (δ : Type) := δ → Bytes → Nat → Bytes → Nat → Option δ

/-- `LEN(AT, FPC)`, a `size_t`. -/
def LEN (reg p : Nat) : Nat := if reg ≤ p then p - reg else 2 ^ 64 - (reg - p)

/-- `std::string(at, length)`: a length that has wrapped around is more than a string can have. -/
def stdString (at_ : Bytes) (length : Nat) : Option Bytes :=
  if length ≤ at_.length then some (at_.take length) else none

/-! ## http11_parser.rl -/

structure HttpParser where
  cs : Nat
  body_start : Nat
  content_len : Int
  nread : Nat
  mark : Nat
  field_start : Nat
  field_len : Nat
  query_start : Nat
  xml_sent : Bool
  json_sent : Bool
  uri_relaxed : Bool
  deriving DecidableEq, Repr

/-- Memory that is 0 but for `uri_relaxed`. -/
def clearMemory (uri_relaxed : Bool) : HttpParser := ⟨0, 0, 0, 0, 0, 0, 0, 0, false, false, uri_relaxed⟩

structure HttpParser.Callbacks (δ : Type) where
  http_field : FieldCb δ
  request_method : ElementCb δ
  request_uri : ElementCb δ
  fragment : ElementCb δ
  request_path : ElementCb δ
  query_string : ElementCb δ
  http_version : ElementCb δ
  header_done : ElementCb δ

/-- http_parser_init; `query_start` and `uri_relaxed` are not initialised. -/
def http_parser_init (parser : HttpParser) : HttpParser :=
  { parser with
    cs := http_parser_start
    body_start := 0
    content_len := 0
    mark := 0
    nread := 0
    field_len := 0
    field_start := 0
    xml_sent := false
    json_sent := false }

def http_parser_next (uri_relaxed : Bool) (cs : Nat) (c : UInt8) : Option (Edge HttpParser.Action) :=
  http_parser_table.next cs c <|> if uri_relaxed then http_parser_more_delims.next cs c else none

/-- `fbreak` -/
def HttpParser.Action.breaks : HttpParser.Action → Bool
  | .done => true
  | _ => false

/-- The actions, at `buffer + p` of a buffer that ends at `buffer + pe`. -/
def HttpParser.run {δ : Type} (cb : HttpParser.Callbacks δ) (buffer : Bytes) (pe : Nat) :
    HttpParser.Action → Nat → HttpParser × δ → Option (HttpParser × δ)
  | .mark, p, (parser, data) => some ({ parser with mark := p }, data)
  | .start_field, p, (parser, data) => some ({ parser with field_start := p }, data)
  | .write_field, p, (parser, data) => some ({ parser with field_len := LEN parser.field_start p }, data)
  | .start_value, p, (parser, data) => some ({ parser with mark := p }, data)
  | .write_value, p, (parser, data) =>
      (cb.http_field data (buffer.drop parser.field_start) parser.field_len
        (buffer.drop parser.mark) (LEN parser.mark p)).map (parser, ·)
  | .request_method, p, (parser, data) =>
      (cb.request_method data (buffer.drop parser.mark) (LEN parser.mark p)).map (parser, ·)
  | .request_uri, p, (parser, data) =>
      (cb.request_uri data (buffer.drop parser.mark) (LEN parser.mark p)).map (parser, ·)
  | .fragment, p, (parser, data) =>
      (cb.fragment data (buffer.drop parser.mark) (LEN parser.mark p)).map (parser, ·)
  | .start_query, p, (parser, data) => some ({ parser with query_start := p }, data)
  | .query_string, p, (parser, data) =>
      (cb.query_string data (buffer.drop parser.query_start) (LEN parser.query_start p)).map (parser, ·)
  | .http_version, p, (parser, data) =>
      (cb.http_version data (buffer.drop parser.mark) (LEN parser.mark p)).map (parser, ·)
  | .request_path, p, (parser, data) =>
      (cb.request_path data (buffer.drop parser.mark) (LEN parser.mark p)).map (parser, ·)
  | .done, p, (parser, data) =>
      if parser.xml_sent || parser.json_sent then
        some ({ parser with body_start := parser.mark, content_len := toInt32 (p - parser.mark + 1) }, data)
      else
        (cb.header_done data (buffer.drop (p + 1)) (pe - p - 1)).map ({ parser with body_start := p + 1 }, ·)
  | .xml, _, (parser, data) => some ({ parser with xml_sent := true }, data)
  | .json, _, (parser, data) => some ({ parser with json_sent := true }, data)

/-- `%% write exec`: the run over `buffer + off` up to `buffer + len`, on registers that are 0 at the start. -/
def http_parser_exec {δ : Type} (cb : HttpParser.Callbacks δ) (parser : HttpParser) (data : δ) (buffer : Bytes)
    (len off : Nat) : Run (HttpParser × δ) :=
  scan (http_parser_next parser.uri_relaxed) HttpParser.Action.breaks (HttpParser.run cb buffer len) off
    ((buffer.take len).drop off) parser.cs
    ({ parser with nread := 0, mark := 0, field_len := 0, field_start := 0 }, data)

/-- `pe - p == (int)len - (int)off` -/
def sameDistance (len off : Nat) : Bool := (len : Int) - off == toInt32 len - toInt32 off

def http_parser_execute {δ : Type} (cb : HttpParser.Callbacks δ) (parser : HttpParser) (data : δ)
    (buffer : Bytes) (len off : Nat) : Except Stop (Nat × HttpParser × δ) :=
  if len = 0 then .ok (0, parser, data)
  else if len < off ∨ ¬sameDistance len off then .error .assertion
  else
    match (http_parser_exec cb parser data buffer len off).result len http_parser_error with
    | none => .error .lengthError
    | some (p, cs, parser, data) =>
        let parser := { parser with
          cs := if parser.cs = http_parser_error then parser.cs else cs
          nread := parser.nread + (p - off) }
        if parser.nread ≤ len ∧ parser.body_start ≤ len ∧ parser.mark < len ∧ parser.field_len ≤ len ∧
            parser.field_start < len then
          .ok (parser.nread, parser, data)
        else .error .assertion

def http_parser_has_error (parser : HttpParser) : Bool := parser.cs == http_parser_error

def http_parser_is_finished (parser : HttpParser) : Bool := http_parser_first_final ≤ parser.cs

def http_parser_finish (parser : HttpParser) : Int :=
  if http_parser_has_error parser then -1 else if http_parser_is_finished parser then 1 else 0

/-! ## httpclient_parser.rl -/

structure HttpClientParser where
  cs : Nat
  body_start : Nat
  content_len : Int
  status : Int
  chunked : Bool
  chunks_done : Bool
  close : Bool
  nread : Nat
  mark : Nat
  field_start : Nat
  field_len : Nat
  deriving DecidableEq, Repr

def clearClientMemory : HttpClientParser := ⟨0, 0, 0, 0, false, false, false, 0, 0, 0, 0⟩

structure HttpClientParser.Callbacks (δ : Type) where
  http_field : FieldCb δ
  reason_phrase : ElementCb δ
  status_code : ElementCb δ
  chunk_size : ElementCb δ
  http_version : ElementCb δ
  header_done : ElementCb δ
  last_chunk : ElementCb δ

/-- httpclient_parser_init; `status` is not initialised. -/
def httpclient_parser_init (parser : HttpClientParser) : HttpClientParser :=
  { parser with
    cs := httpclient_parser_start
    body_start := 0
    content_len := -1
    chunked := false
    chunks_done := false
    mark := 0
    nread := 0
    field_len := 0
    field_start := 0
    close := false }

def httpclient_parser_next (cs : Nat) (c : UInt8) : Option (Edge HttpClientParser.Action) :=
  httpclient_parser_table.next cs c

/-- `fbreak` -/
def HttpClientParser.Action.breaks : HttpClientParser.Action → Bool
  | .done => true
  | _ => false

/-- The actions, at `buffer + p` of a buffer that ends at `buffer + pe`. -/
def HttpClientParser.run {δ : Type} (cb : HttpClientParser.Callbacks δ) (buffer : Bytes) (pe : Nat) :
    HttpClientParser.Action → Nat → HttpClientParser × δ → Option (HttpClientParser × δ)
  | .mark, p, (parser, data) => some ({ parser with mark := p }, data)
  | .start_field, p, (parser, data) => some ({ parser with field_start := p }, data)
  | .write_field, p, (parser, data) => some ({ parser with field_len := LEN parser.field_start p }, data)
  | .start_value, p, (parser, data) => some ({ parser with mark := p }, data)
  | .write_content_len, _, (parser, data) =>
      some ({ parser with content_len := toInt32 (strtol (buffer.drop parser.mark) 10) }, data)
  | .write_connection_close, _, (parser, data) => some ({ parser with close := true }, data)
  | .write_value, p, (parser, data) =>
      (cb.http_field data (buffer.drop parser.field_start) parser.field_len
        (buffer.drop parser.mark) (LEN parser.mark p)).map (parser, ·)
  | .reason_phrase, p, (parser, data) =>
      (cb.reason_phrase data (buffer.drop parser.mark) (LEN parser.mark p)).map (parser, ·)
  | .status_code, p, (parser, data) =>
      (cb.status_code data (buffer.drop parser.mark) (LEN parser.mark p)).map
        ({ parser with status := toInt32 (strtol (buffer.drop parser.mark) 10) }, ·)
  | .http_version, p, (parser, data) =>
      (cb.http_version data (buffer.drop parser.mark) (LEN parser.mark p)).map (parser, ·)
  | .chunk_size, p, (parser, data) =>
      let content_len := toInt32 (strtol (buffer.drop parser.mark) 16)
      let parser := { parser with chunked := true, content_len, chunks_done := content_len ≤ 0 }
      let cb := if parser.chunks_done then cb.last_chunk else cb.chunk_size
      (cb data (buffer.drop parser.mark) (LEN parser.mark p)).map (parser, ·)
  | .trans_chunked, _, (parser, data) => some ({ parser with chunked := true }, data)
  | .done, p, (parser, data) =>
      (cb.header_done data (buffer.drop (p + 1)) (pe - p - 1)).map ({ parser with body_start := p + 1 }, ·)

/-- `%% write exec`, on the registers that earlier calls have left. -/
def httpclient_parser_exec {δ : Type} (cb : HttpClientParser.Callbacks δ) (parser : HttpClientParser) (data : δ)
    (buffer : Bytes) (len off : Nat) : Run (HttpClientParser × δ) :=
  scan httpclient_parser_next HttpClientParser.Action.breaks (HttpClientParser.run cb buffer len) off
    ((buffer.take len).drop off) parser.cs (parser, data)

/-- The result is an `int`, -1 where a check fails. -/
def httpclient_parser_execute {δ : Type} (cb : HttpClientParser.Callbacks δ) (parser : HttpClientParser)
    (data : δ) (buffer : Bytes) (len off : Nat) : Except Stop (Int × HttpClientParser × δ) :=
  if len < off ∨ buffer[len]? ≠ some 0 ∨ ¬sameDistance len off then .error .assertion
  else
    match (httpclient_parser_exec cb parser data buffer len off).result len httpclient_parser_error with
    | none => .error .lengthError
    | some (p, cs, parser, data) =>
        let parser := { parser with cs, nread := parser.nread + (p - off) }
        if parser.nread ≤ len ∧ parser.body_start ≤ len then
          if parser.mark < len ∧ parser.field_len ≤ len ∧ parser.field_start < len then
            .ok (toInt32 parser.nread, parser, data)
          else .ok (-1, parser, data)
        else .error .assertion

def httpclient_parser_has_error (parser : HttpClientParser) : Bool := parser.cs == httpclient_parser_error

def httpclient_parser_is_finished (parser : HttpClientParser) : Bool :=
  parser.cs == httpclient_parser_first_final

def httpclient_parser_finish (parser : HttpClientParser) : Int :=
  if httpclient_parser_has_error parser then -1 else if httpclient_parser_is_finished parser then 1 else 0

/-! ## http_parser.cpp -/

/-- What the callbacks fill: `m_data` and `m_error`. -/
structure Parsed (α : Type) where
  m_data : α
  m_error : Nat
  deriving DecidableEq, Repr

namespace Parsed

variable {α : Type}

/-- A callback that does nothing. -/
def ignore (parsed : Parsed α) (_ : Bytes) (_ : Nat) : Option (Parsed α) := some parsed

/-- A callback that sets a string of the message. -/
def setString (set : Bytes → α → α) (parsed : Parsed α) (at_ : Bytes) (length : Nat) : Option (Parsed α) :=
  (stdString at_ length).map fun s => { parsed with m_data := set s parsed.m_data }

/-- The callback for the version: another one than 1.1 and 1.0 is an error. -/
def setVersion (set : UInt8 → α → α) (parsed : Parsed α) (at_ : Bytes) (length : Nat) : Option (Parsed α) :=
  if strncmpEq at_ (ascii "HTTP/1.1") length then some { parsed with m_data := set 0x11 parsed.m_data }
  else if strncmpEq at_ (ascii "HTTP/1.0") length then some { parsed with m_data := set 0x10 parsed.m_data }
  else (stdString at_ length).map fun _ => { m_data := set 0 parsed.m_data, m_error := 1001 }

/-- The callback for a header field; one without a name is ignored. -/
def setHeader (set : Bytes → Bytes → α → α) (parsed : Parsed α) (field : Bytes) (flen : Nat) (value : Bytes)
    (vlen : Nat) : Option (Parsed α) :=
  if flen = 0 then some parsed
  else do
    let key ← stdString field flen
    let val ← stdString value vlen
    some { parsed with m_data := set key val parsed.m_data }

end Parsed

def on_request_method (parsed : Parsed HttpRequest) (at_ : Bytes) (length : Nat) : Option (Parsed HttpRequest) :=
  let m := CharsToHttpMethod at_
  if m = .INVALID_METHOD then (stdString at_ length).map fun _ => { parsed with m_error := 1000 }
  else some { parsed with m_data := { parsed.m_data with m_method := m } }

def on_request_uri : ElementCb (Parsed HttpRequest) := Parsed.ignore

def on_request_fragment : ElementCb (Parsed HttpRequest) :=
  Parsed.setString fun s request => { request with m_fragment := s }

def on_request_path : ElementCb (Parsed HttpRequest) :=
  Parsed.setString fun s request => { request with m_path := s }

def on_request_query : ElementCb (Parsed HttpRequest) :=
  Parsed.setString fun s request => { request with m_query := s }

def on_request_version : ElementCb (Parsed HttpRequest) :=
  Parsed.setVersion fun v request => { request with m_version := v }

def on_request_header_done : ElementCb (Parsed HttpRequest) := Parsed.ignore

def on_request_http_field : FieldCb (Parsed HttpRequest) :=
  Parsed.setHeader fun key val request => { request with m_headers := request.m_headers.set key val }

structure HttpRequestParser extends Parsed HttpRequest where
  mParser : HttpParser
  deriving DecidableEq, Repr

namespace HttpRequestParser

def callbacks : HttpParser.Callbacks (Parsed HttpRequest) where
  http_field := on_request_http_field
  request_method := on_request_method
  request_uri := on_request_uri
  fragment := on_request_fragment
  request_path := on_request_path
  query_string := on_request_query
  http_version := on_request_version
  header_done := on_request_header_done

/-- The constructor, on the memory it finds for `mParser`. -/
def new (mParser : HttpParser) : HttpRequestParser where
  m_data := .new
  m_error := 0
  mParser := http_parser_init mParser

/-- The parsed length, the buffer and the parser afterwards. -/
def execute (parser : HttpRequestParser) (data : Bytes) (len off : Nat) :
    Except Stop (Nat × Bytes × HttpRequestParser) := do
  let (offset, mParser, parsed) ← http_parser_execute callbacks parser.mParser parser.toParsed data len off
  let data ← memmove data (off + offset) (len + off - offset)
  .ok (offset, data, { parsed with mParser })

def isFinished (parser : HttpRequestParser) : Int := http_parser_finish parser.mParser

def hasError (parser : HttpRequestParser) : Bool :=
  parser.m_error != 0 || http_parser_has_error parser.mParser

def getContentLength (lexical_cast : LexicalCast) (parser : HttpRequestParser) : UInt64 :=
  getAs lexical_cast parser.m_data.m_headers (ascii "content-length") 0

end HttpRequestParser

def on_response_reason : ElementCb (Parsed HttpResponse) :=
  Parsed.setString fun s response => { response with m_reason := s }

def on_response_status (parsed : Parsed HttpResponse) (at_ : Bytes) (_ : Nat) : Option (Parsed HttpResponse) :=
  some { parsed with m_data := { parsed.m_data with m_status := atoi at_ } }

def on_response_chunk_size : ElementCb (Parsed HttpResponse) := Parsed.ignore

def on_response_version : ElementCb (Parsed HttpResponse) :=
  Parsed.setVersion fun v response => { response with m_version := v }

def on_response_header_done : ElementCb (Parsed HttpResponse) := Parsed.ignore

def on_response_last_chunk : ElementCb (Parsed HttpResponse) := Parsed.ignore

def on_response_http_field : FieldCb (Parsed HttpResponse) :=
  Parsed.setHeader fun key val response => { response with m_headers := response.m_headers.set key val }

structure HttpResponseParser extends Parsed HttpResponse where
  mParser : HttpClientParser
  deriving DecidableEq, Repr

namespace HttpResponseParser

def callbacks : HttpClientParser.Callbacks (Parsed HttpResponse) where
  http_field := on_response_http_field
  reason_phrase := on_response_reason
  status_code := on_response_status
  chunk_size := on_response_chunk_size
  http_version := on_response_version
  header_done := on_response_header_done
  last_chunk := on_response_last_chunk

/-- The constructor, on the memory it finds for `mParser`. -/
def new (mParser : HttpClientParser) : HttpResponseParser where
  m_data := .new
  m_error := 0
  mParser := httpclient_parser_init mParser

/-- The parsed length, the buffer and the parser afterwards. The length is put in a `size_t`, in which the distances
for memmove wrap around; a length of -1 moves from the byte before `off`. -/
def execute (parser : HttpResponseParser) (data : Bytes) (len : Nat) (chunck : Bool) (off : Nat) :
    Except Stop (Nat × Bytes × HttpResponseParser) := do
  let mParser := if chunck then httpclient_parser_init parser.mParser else parser.mParser
  let (offset, mParser, parsed) ← httpclient_parser_execute callbacks mParser parser.toParsed data len off
  if off + offset < 0 then .error .outOfBounds
  else
    let data ← memmove data (off + offset).toNat ((len - off - offset) % 2 ^ 64).toNat
    .ok ((offset % 2 ^ 64).toNat, data, { parsed with mParser })

def isFinished (parser : HttpResponseParser) : Int := httpclient_parser_finish parser.mParser

def hasError (parser : HttpResponseParser) : Bool :=
  parser.m_error != 0 || httpclient_parser_has_error parser.mParser

def getContentLength (lexical_cast : LexicalCast) (parser : HttpResponseParser) : UInt64 :=
  getAs lexical_cast parser.m_data.m_headers (ascii "content-length") 0

end HttpResponseParser

end Mingfwq.Http
