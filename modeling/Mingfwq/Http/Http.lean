import Mingfwq.Stream.Model

/-!
# Messages (http.h, http.cpp)
-/

namespace Mingfwq.Http

def ascii (s : String) : Bytes := s.toList.map fun c => c.toNat.toUInt8

inductive HttpMethod where
  | DELETE | GET | HEAD | POST | PUT | CONNECT | OPTIONS | TRACE | COPY | LOCK | MKCOL | MOVE | PROPFIND
  | PROPPATCH | SEARCH | UNLOCK | BIND | REBIND | UNBIND | ACL | REPORT | MKACTIVITY | CHECKOUT | MERGE
  | MSEARCH | NOTIFY | SUBSCRIBE | UNSUBSCRIBE | PATCH | PURGE | MKCALENDAR | LINK | UNLINK | SOURCE
  | INVALID_METHOD
  deriving DecidableEq, Repr

def HTTP_METHOD_MAP : List (HttpMethod × String) := [
  (.DELETE, "DELETE"), (.GET, "GET"), (.HEAD, "HEAD"), (.POST, "POST"), (.PUT, "PUT"), (.CONNECT, "CONNECT"),
  (.OPTIONS, "OPTIONS"), (.TRACE, "TRACE"), (.COPY, "COPY"), (.LOCK, "LOCK"), (.MKCOL, "MKCOL"),
  (.MOVE, "MOVE"), (.PROPFIND, "PROPFIND"), (.PROPPATCH, "PROPPATCH"), (.SEARCH, "SEARCH"),
  (.UNLOCK, "UNLOCK"), (.BIND, "BIND"), (.REBIND, "REBIND"), (.UNBIND, "UNBIND"), (.ACL, "ACL"),
  (.REPORT, "REPORT"), (.MKACTIVITY, "MKACTIVITY"), (.CHECKOUT, "CHECKOUT"), (.MERGE, "MERGE"),
  (.MSEARCH, "M-SEARCH"), (.NOTIFY, "NOTIFY"), (.SUBSCRIBE, "SUBSCRIBE"), (.UNSUBSCRIBE, "UNSUBSCRIBE"),
  (.PATCH, "PATCH"), (.PURGE, "PURGE"), (.MKCALENDAR, "MKCALENDAR"), (.LINK, "LINK"), (.UNLINK, "UNLINK"),
  (.SOURCE, "SOURCE")]

/-- The method whose name is the C string of `m`. -/
def StringToHttpMethod (m : Bytes) : HttpMethod :=
  match HTTP_METHOD_MAP.find? fun (_, name) => ascii name == m.takeWhile (· != 0) with
  | some (method, _) => method
  | none => .INVALID_METHOD

/-- The first method whose name the bytes at `m` begin with. -/
def CharsToHttpMethod (m : Bytes) : HttpMethod :=
  match HTTP_METHOD_MAP.find? fun (_, name) => (ascii name).isPrefixOf m with
  | some (method, _) => method
  | none => .INVALID_METHOD

/-- `s_method_string[idx]` -/
def HttpMethodToString (m : HttpMethod) : Bytes :=
  ascii ((HTTP_METHOD_MAP.lookup m).getD "<unkonwn>")

/-! ## The header map -/

def tolower (c : UInt8) : UInt8 := if 65 ≤ c ∧ c ≤ 90 then c + 32 else c

/-- `strcasecmp` of the C strings that begin with these bytes. -/
def strcasecmp : Bytes → Bytes → Ordering
  | [], [] => .eq
  | [], b :: _ => if b = 0 then .eq else .lt
  | a :: _, [] => if a = 0 then .eq else .gt
  | a :: as, b :: bs =>
      if tolower a < tolower b then .lt
      else if tolower b < tolower a then .gt
      else if a = 0 then .eq
      else strcasecmp as bs

/-- `std::map<std::string, std::string, CaseInsensitiveLess>`, in its order. -/
abbrev MapType := List (Bytes × Bytes)

/-- `m[key] = val`: an equivalent key that is there keeps its spelling. -/
def MapType.set : MapType → Bytes → Bytes → MapType
  | [], key, val => [(key, val)]
  | (k, v) :: m, key, val =>
      match strcasecmp key k with
      | .lt => (key, val) :: (k, v) :: m
      | .eq => (k, val) :: m
      | .gt => (k, v) :: MapType.set m key val

def MapType.find (m : MapType) (key : Bytes) : Option Bytes :=
  (m.find? fun (k, _) => strcasecmp key k = .eq).map Prod.snd

structure HttpRequest where
  m_method : HttpMethod
  m_version : UInt8
  m_close : Bool
  m_path : Bytes
  m_query : Bytes
  m_fragment : Bytes
  m_body : Bytes
  m_headers : MapType
  deriving DecidableEq, Repr

def HttpRequest.new : HttpRequest where
  m_method := .GET
  m_version := 0x11
  m_close := true
  m_path := ascii "/"
  m_query := []
  m_fragment := []
  m_body := []
  m_headers := []

def HttpRequest.dump (request : HttpRequest) : Bytes :=
  HttpMethodToString request.m_method ++ ascii " " ++ request.m_path ++
    (if request.m_query.isEmpty then [] else ascii "?") ++ request.m_query ++
    (if request.m_fragment.isEmpty then [] else ascii "#") ++ request.m_fragment ++ ascii " HTTP/" ++
    ascii (toString (request.m_version >>> 4).toNat) ++ ascii "." ++
    ascii (toString (request.m_version &&& 0x0F).toNat) ++ ascii "\r\n" ++
    ascii "connection: " ++ ascii (if request.m_close then "close" else "keep-alive") ++ ascii "\r\n" ++
    (request.m_headers.flatMap fun (key, val) =>
      if strcasecmp key (ascii "connection") = .eq then [] else key ++ ascii ":" ++ val ++ ascii "\r\n") ++
    if request.m_body.isEmpty then ascii "\r\n"
    else
      ascii "content-length: " ++ ascii (toString request.m_body.length) ++ ascii "\r\n\r\n" ++ request.m_body ++
        ascii "\r\n"

/-- `HttpStatus` is an enumeration over `int`; the parser casts any number to it. -/
abbrev HttpStatus := Int

def HTTP_STATUS_MAP : List (HttpStatus × String) := [
  (100, "Continue"), (101, "Switching Protocols"), (102, "Processing"), (200, "OK"), (201, "Created"),
  (202, "Accepted"), (203, "Non-Authoritative Information"), (204, "No Content"), (205, "Reset Content"),
  (206, "Partial Content"), (207, "Multi-Status"), (208, "Already Reported"), (226, "IM Used"),
  (300, "Multiple Choices"), (301, "Moved Permanently"), (302, "Found"), (303, "See Other"),
  (304, "Not Modified"), (305, "Use Proxy"), (307, "Temporary Redirect"), (308, "Permanent Redirect"),
  (400, "Bad Request"), (401, "Unauthorized"), (402, "Payment Required"), (403, "Forbidden"),
  (404, "Not Found"), (405, "Method Not Allowed"), (406, "Not Acceptable"),
  (407, "Proxy Authentication Required"), (408, "Request Timeout"), (409, "Conflict"), (410, "Gone"),
  (411, "Length Required"), (412, "Precondition Failed"), (413, "Payload Too Large"), (414, "URI Too Long"),
  (415, "Unsupported Media Type"), (416, "Range Not Satisfiable"), (417, "Expectation Failed"),
  (421, "Misdirected Request"), (422, "Unprocessable Entity"), (423, "Locked"), (424, "Failed Dependency"),
  (426, "Upgrade Required"), (428, "Precondition Required"), (429, "Too Many Requests"),
  (431, "Request Header Fields Too Large"), (451, "Unavailable For Legal Reasons"),
  (500, "Internal Server Error"), (501, "Not Implemented"), (502, "Bad Gateway"),
  (503, "Service Unavailable"), (504, "Gateway Timeout"), (505, "HTTP Version Not Supported"),
  (506, "Variant Also Negotiates"), (507, "Insufficient Storage"), (508, "Loop Detected"),
  (510, "Not Extended"), (511, "Network Authentication Required")]

def HttpStatusToString (s : HttpStatus) : Bytes := ascii ((HTTP_STATUS_MAP.lookup s).getD "<unknown>")

structure HttpResponse where
  m_status : HttpStatus
  m_version : UInt8
  m_close : Bool
  m_body : Bytes
  m_reason : Bytes
  m_headers : MapType
  deriving DecidableEq, Repr

def HttpResponse.new : HttpResponse where
  m_status := 200
  m_version := 0x11
  m_close := true
  m_body := []
  m_reason := []
  m_headers := []

def HttpResponse.dump (response : HttpResponse) : Bytes :=
  ascii "HTTP/" ++ ascii (toString (response.m_version >>> 4).toNat) ++ ascii "." ++
    ascii (toString (response.m_version &&& 0x0F).toNat) ++ ascii " " ++
    ascii (toString (response.m_status % 2 ^ 32).toNat) ++ ascii " " ++
    (if response.m_reason.isEmpty then HttpStatusToString response.m_status else response.m_reason) ++ ascii "\r\n" ++
    (response.m_headers.flatMap fun (key, val) =>
      if strcasecmp key (ascii "connection") = .eq then [] else key ++ ascii ": " ++ val ++ ascii "\r\n") ++
    ascii "connection: " ++ ascii (if response.m_close then "close" else "keep-alive") ++ ascii "\r\n" ++
    if response.m_body.isEmpty then ascii "\r\n"
    else ascii "content-length: " ++ ascii (toString response.m_body.length) ++ ascii "\r\n\r\n" ++ response.m_body

/-- `boost::lexical_cast<uint64_t>`, where it does not throw. -/
abbrev LexicalCast := Bytes → Option UInt64

/-- `getAs<uint64_t>(m, key, def)`. -/
def getAs (lexical_cast : LexicalCast) (m : MapType) (key : Bytes) (deflt : UInt64) : UInt64 :=
  ((m.find key).bind lexical_cast).getD deflt

/-! ## Numbers and names in C strings -/

/-- `strncmp(at, s, n) == 0`. -/
def strncmpEq (a s : Bytes) : Nat → Bool
  | 0 => true
  | n + 1 =>
      match a, s with
      | [], [] => true
      | [], b :: _ => b == 0
      | a :: _, [] => a == 0
      | a :: as, b :: bs => a == b && (a == 0 || strncmpEq as bs n)

def digit (base : Nat) (c : UInt8) : Option Nat :=
  let v :=
    if 48 ≤ c ∧ c ≤ 57 then some (c.toNat - 48)
    else if 65 ≤ c ∧ c ≤ 90 then some (c.toNat - 55)
    else if 97 ≤ c ∧ c ≤ 122 then some (c.toNat - 87)
    else none
  v.filter fun d => d < base

/-- The number the digits at the front stand for. -/
def digitsValue (base : Nat) : Bytes → Nat → Nat
  | [], acc => acc
  | c :: s, acc =>
      match digit base c with
      | some d => digitsValue base s (acc * base + d)
      | none => acc

def isspace (c : UInt8) : Bool := (9 ≤ c && c ≤ 13) || c == 32

/-- What follows the optional `0x` of a hexadecimal number. -/
def skipHexPrefix (base : Nat) : Bytes → Bytes
  | 48 :: x :: d :: s => if base = 16 ∧ (x = 120 ∨ x = 88) ∧ (digit 16 d).isSome then d :: s else 48 :: x :: d :: s
  | s => s

/-- `strtol(at, NULL, base)`: it saturates at the bounds of `long`. -/
def strtol (at_ : Bytes) (base : Nat) : Int :=
  let max : Int := 2 ^ 63 - 1
  match at_.dropWhile isspace with
  | 45 :: s => - min (max + 1) (digitsValue base (skipHexPrefix base s) 0 : Int)
  | 43 :: s => min max (digitsValue base (skipHexPrefix base s) 0 : Int)
  | s => min max (digitsValue base (skipHexPrefix base s) 0 : Int)

def atoi (at_ : Bytes) : Int := toInt32 (strtol at_ 10)

end Mingfwq.Http
