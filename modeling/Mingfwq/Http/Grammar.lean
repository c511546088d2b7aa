import Mingfwq.Lib.UriSyntax
import Mingfwq.Http.Http

/-!
# The grammar of http11_parser.rl

Its character classes, and which paths a request line can carry.
-/

namespace Mingfwq.Http

open Lib

def more_delims (uri_relaxed : Bool) : CharClass := if uri_relaxed then [(94, 94), (123, 123), (125, 125)] else []

/-- The characters of `reg_name`. -/
def reg_char (uri_relaxed : Bool) : CharClass := .unreserved ++ .sub_delims ++ more_delims uri_relaxed

def pchar (uri_relaxed : Bool) : CharClass := reg_char uri_relaxed ++ [(58, 58), (64, 64)]

/-- The characters of `path`: its forms together are all words of segments and slashes. -/
def path_char (uri_relaxed : Bool) : CharClass := pchar uri_relaxed ++ [(47, 47)]

/-- The characters of `query` and of `fragment`. -/
def query_char (uri_relaxed : Bool) : CharClass := pchar uri_relaxed ++ [(47, 47), (63, 63)]

/-- The characters of `token`: no control bytes and none of `HTTP_separator`. -/
def token : CharClass :=
  [(33, 33), (35, 39), (42, 43), (45, 46), (48, 57), (65, 90), (94, 122), (124, 124), (126, 126)]

/-- No control bytes. -/
def value_char : CharClass := [(32, 126), (128, 255)]

/-! ## Paths -/

/-- The bytes up to the first slash. -/
def segment (path : Bytes) : Bytes := path.takeWhile (· != 47)

/-- `host ( ":" port )?`, of the characters of a segment. -/
def host_port (s : Bytes) : Bool := !s.contains 64 && (s.dropWhile (· != 58)).tail.all CharClass.digit.has

/-- `( userinfo "@" )? host ( ":" port )?`, of the characters of a segment. -/
def authority (s : Bytes) : Bool := host_port (if s.contains 64 then (s.dropWhile (· != 64)).tail else s)

/-- The path is a `relative_part`: what stands behind two slashes is an authority, and a path without a slash in front
has no colon in its first segment. -/
def relative_part (path : Bytes) : Bool :=
  if path.take 2 = [47, 47] then authority (segment (path.drop 2))
  else path.head? == some 47 || !(segment path).contains 58

end Mingfwq.Http
