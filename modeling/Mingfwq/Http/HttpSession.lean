import Mingfwq.Http.HttpParser

/-!
# The server's end of a connection (http_session.cpp, http_server.cpp)

`new char[]` does not initialise its memory and the parsers leave a field of theirs alone, so a call takes what
it finds there.
-/

namespace Mingfwq.Http

open Lib

/-- The configured size of a buffer; the loops count in `int`. -/
abbrev BufferSize := { n : Nat // n < 2 ^ 31 }

/-- `http.request.buffer_size` and `http.response.buffer_size`, as they are by default. -/
def defaultBufferSize : BufferSize := ⟨4 * 1024, by decide⟩

/-- What a call finds in the memory it allocates for its parser and its buffer. -/
structure Memory (Parser : Type) where
  mParser : Parser
  chars : Nat → UInt8

def Memory.newChars {Parser : Type} (memory : Memory Parser) (size : Nat) : Bytes :=
  (List.range size).map memory.chars

/-- A body of `length` zeros with the first bytes of the buffer copied in, `offset` of them at most. -/
def bodyFromBuffer (data : Bytes) (offset length : Nat) : Bytes × Nat :=
  let len := if length ≥ offset then offset else length
  (overwrite (List.replicate length 0) 0 (data.take len), len)

/-- The body with a Content-Length, as both recvRequest and recvResponse read it: none where setBody is not
called. -/
def recvBody (length : Int) (data : Bytes) (offset : Nat) (peer : Peer) : Except Stop (Option Bytes × Peer) :=
  if length > 0 then
    let (body, len) := bodyFromBuffer data offset length.toNat
    if length - offset > 0 then do
      let (body, peer) ← readFixSize peer body len (length - offset).toNat
      .ok (some body, peer)
    else .ok (none, peer)
  else .ok (none, peer)

namespace HttpSession

/-- The loop of recvRequest that reads the head: the parser, the buffer, and the number of bytes left in it. -/
def recvHead (buff_size : BufferSize) :
    Nat → HttpRequestParser → Bytes → Nat → Peer → Except Stop (HttpRequestParser × Bytes × Nat × Peer)
  | 0, _, _, _, _ => .error .unfinished
  | fuel + 1, parser, data, offset, peer => do
      let (bytes, peer) ← peer.receive (buff_size - offset)
      let data := overwrite data offset bytes
      let len := bytes.length
      let (nparesr, data, parser) ← parser.execute data len offset
      if parser.hasError then .error .closed
      else
        let offset := len - nparesr
        if offset = buff_size then .error .closed
        else if parser.isFinished ≠ 0 then .ok (parser, data, offset, peer)
        else recvHead buff_size fuel parser data offset peer

def recvRequest (buff_size : BufferSize) (memory : Memory HttpParser) (lexical_cast : LexicalCast) (peer : Peer) :
    Except Stop (HttpRequest × Peer) := do
  let (parser, data, offset, peer) ←
    recvHead buff_size (peer.size + 1) (.new memory.mParser) (memory.newChars buff_size) 0 peer
  let length := toInt64 (parser.getContentLength lexical_cast).toNat
  let (body, peer) ← recvBody length data offset peer
  match body with
  | some body => .ok ({ parser.m_data with m_body := body }, peer)
  | none => .ok (parser.m_data, peer)

/-- The requests the loop of HttpServer::handleClient gets, each with what is still to arrive after it. -/
def handleClient (buff_size : BufferSize) (memory : Nat → Memory HttpParser) (lexical_cast : LexicalCast)
    (isKeepalive : Bool) : Nat → Peer → List (HttpRequest × Peer)
  | 0, _ => []
  | fuel + 1, peer =>
      match recvRequest buff_size (memory fuel) lexical_cast peer with
      | .error _ => []
      | .ok (req, peer) =>
          (req, peer) :: if isKeepalive then handleClient buff_size memory lexical_cast isKeepalive fuel peer else []

end HttpSession

end Mingfwq.Http
