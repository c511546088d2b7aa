import Mingfwq.Lib.UriSyntax
import Mingfwq.Uri.Model

/-!
# The grammar of uri.rl

The components of a URI with an authority, and its text. What a host is is left open: `reg_name` is one form of it.
-/

namespace Mingfwq.Uri

open Lib Http

def scheme_char : CharClass := CharClass.alpha ++ CharClass.digit ++ [(43, 43), (45, 45), (46, 46)]

/-- The characters of `reg_name`. -/
def reg_char : CharClass := CharClass.unreserved ++ CharClass.sub_delims

def userinfo_char : CharClass := reg_char ++ [(58, 58)]

/-- The characters of `userinfo` other than digits. -/
def userinfo_rest : CharClass :=
  CharClass.alpha ++ [(45, 45), (46, 46), (95, 95), (126, 126)] ++ CharClass.sub_delims ++ [(58, 58)]

def pchar : CharClass := reg_char ++ [(58, 58), (64, 64), (128, 255)]

/-- The characters of `path_abempty`. -/
def path_char : CharClass := pchar ++ [(47, 47)]

/-- The characters of `query` and of `fragment`. -/
def query_char : CharClass := pchar ++ [(47, 47), (63, 63)]

def IsScheme (xs : Bytes) : Prop :=
  ∃ c ys, xs = c :: ys ∧ CharClass.alpha.has c = true ∧ ∀ d ∈ ys, scheme_char.has d = true

def IsPort (xs : Bytes) : Prop := xs ≠ [] ∧ ∀ d ∈ xs, CharClass.digit.has d = true

def IsPath (xs : Bytes) : Prop := Coded path_char xs ∧ ∀ c ∈ xs.head?, c = 47

/-- What Create keeps of a userinfo: if a digit follows the first colon, what stands in front of it is lost. -/
def kept (userinfo : Bytes) : Bytes :=
  match userinfo.dropWhile (· ≠ 58) with
  | _ :: d :: xs => if CharClass.digit.has d then d :: xs else userinfo
  | _ => userinfo

/-- The bytes behind which an authority has ended. -/
def authority_end : CharClass := [(35, 35), (47, 47), (63, 63)]

/-- The delimiters, of which a colon comes first if there is a scheme. -/
def scheme_end : CharClass := (58, 58) :: authority_end

structure Parts where
  scheme : Bytes
  userinfo : Option Bytes
  host : Bytes
  port : Option Bytes
  path : Bytes
  query : Option Bytes
  fragment : Option Bytes

/-- `[ "?" query ] [ "#" fragment ]` -/
def tail (query fragment : Option Bytes) : Bytes := query.elim [] (63 :: ·) ++ fragment.elim [] (35 :: ·)

/-- `[ ":" port ]` -/
def portText (port : Option Bytes) : Bytes := port.elim [] (58 :: ·)

namespace Parts

variable (parts : Parts)

/-- `[ userinfo "@" ] host [ ":" port ]` -/
def authority : Bytes := parts.userinfo.elim [] (· ++ [64]) ++ (parts.host ++ portText parts.port)

/-- `scheme "://" authority path [ "?" query ] [ "#" fragment ]` -/
def text : Bytes :=
  parts.scheme ++ ascii "://" ++ (parts.authority ++ (parts.path ++ tail parts.query parts.fragment))

structure Valid (Host : Bytes → Prop) : Prop where
  scheme : IsScheme parts.scheme
  userinfo : ∀ u ∈ parts.userinfo, Coded userinfo_char u
  host : Host parts.host
  port : ∀ d ∈ parts.port, IsPort d
  path : IsPath parts.path
  query : ∀ q ∈ parts.query, Coded query_char q
  fragment : ∀ f ∈ parts.fragment, Coded query_char f

/-- The URI with these components, as far as they are kept. -/
def uri : Uri where
  m_scheme := parts.scheme
  m_userinfo := parts.userinfo.elim [] kept
  m_host := parts.host
  m_path := parts.path
  m_query := parts.query.getD []
  m_fragment := parts.fragment.getD []
  m_port := parts.port.elim 0 atoi

end Parts

end Mingfwq.Uri
