import Mingfwq.Http.HttpSession

/-!
# The client's end of a connection (http_connection.cpp)
-/

namespace Mingfwq.Http

open Lib

namespace HttpConnection

/-- The loop of recvResponse that reads the head, and the one that reads the size line of a chunk, which is the
same: with `offset` bytes in the buffer at first, they end with the parser, the buffer and the number of bytes left
in it. -/
def recvHead (buff_size : BufferSize) :
    Nat → HttpResponseParser → Bytes → Nat → Peer → Except Stop (HttpResponseParser × Bytes × Nat × Peer)
  | 0, _, _, _, _ => .error .unfinished
  | fuel + 1, parser, data, offset, peer => do
      let (bytes, peer) ← peer.receive (buff_size - offset)
      let len := offset + bytes.length
      let data := overwrite (overwrite data offset bytes) len [0]
      let (nparesr, data, parser) ← parser.execute data len true 0
      if parser.hasError then .error .closed
      else
        let offset := len - nparesr
        if offset = buff_size then .error .closed
        else if parser.isFinished ≠ 0 then .ok (parser, data, offset, peer)
        else recvHead buff_size fuel parser data offset peer

/-- `body.append(data, n)`; a negative `int` is more than a string can have. -/
def append (body data : Bytes) (n : Int) : Except Stop Bytes :=
  if n < 0 then .error .lengthError
  else if data.length < n then .error .outOfBounds
  else .ok (body ++ data.take n.toNat)

/-- The loop that reads the `left` bytes of a chunk that are not in the buffer. -/
def recvLeft (buff_size : BufferSize) : Nat → Bytes → Bytes → Nat → Peer → Except Stop (Bytes × Bytes × Peer)
  | 0, _, _, _, _ => .error .unfinished
  | fuel + 1, body, data, left, peer =>
      if left = 0 then .ok (body, data, peer)
      else do
        let (bytes, peer) ← peer.receive (min left buff_size)
        let data := overwrite data 0 bytes
        let body ← append body data bytes.length
        recvLeft buff_size fuel body data (left - bytes.length) peer

/-- The data of a chunk of `content_len` bytes, of which `len` are in the buffer. -/
def recvChunk (buff_size : BufferSize) (content_len len : Int) (body data : Bytes) (peer : Peer) :
    Except Stop (Bytes × Bytes × Nat × Peer) :=
  if content_len ≤ len then do
    let body ← append body data content_len
    let data ← memmove data content_len.toNat (len - content_len).toNat
    .ok (body, data, (len - content_len).toNat, peer)
  else do
    let body ← append body data len
    let (body, data, peer) ← recvLeft buff_size (peer.size + 1) body data (content_len - len).toNat peer
    .ok (body, data, 0, peer)

/-- The loop that reads the chunks, with `len` bytes in the buffer. -/
def recvChunks (buff_size : BufferSize) :
    Nat → HttpResponseParser → Bytes → Bytes → Nat → Peer → Except Stop (HttpResponseParser × Bytes × Peer)
  | 0, _, _, _, _, _ => .error .unfinished
  | fuel + 1, parser, body, data, len, peer => do
      let (parser, data, len, peer) ← recvHead buff_size (peer.size + 1) parser data len peer
      let (body, data, len, peer) ← recvChunk buff_size parser.mParser.content_len (len - 2) body data peer
      if parser.mParser.chunks_done then recvChunks buff_size fuel parser body data len peer
      else .ok (parser, body, peer)

def recvResponse (buff_size : BufferSize) (memory : Memory HttpClientParser) (lexical_cast : LexicalCast)
    (peer : Peer) : Except Stop (HttpResponse × Peer) := do
  let (parser, data, offset, peer) ←
    recvHead buff_size (peer.size + 1) (.new memory.mParser) (memory.newChars (buff_size + 1)) 0 peer
  if parser.mParser.chunked then do
    let (parser, body, peer) ← recvChunks buff_size (peer.size + 1) parser [] data offset peer
    .ok ({ parser.m_data with m_body := body }, peer)
  else do
    let length := toInt64 (parser.getContentLength lexical_cast).toNat
    let (body, peer) ← recvBody length data offset peer
    match body with
    | some body => .ok ({ parser.m_data with m_body := body }, peer)
    | none => .ok (parser.m_data, peer)

end HttpConnection

end Mingfwq.Http
