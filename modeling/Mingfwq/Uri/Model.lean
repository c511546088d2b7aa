import Mingfwq.Http.Http
import Mingfwq.Uri.UriTable

/-!
# URIs (uri.h, uri.rl, uri.rl.cpp)

A pointer into the string is its offset; of the locals of Create, `p` and `cs` are the position and the state of the
run.
-/

namespace Mingfwq

open Lib

open Http (ascii atoi)

structure Uri where
  m_scheme : Bytes
  m_userinfo : Bytes
  m_host : Bytes
  m_path : Bytes
  m_query : Bytes
  m_fragment : Bytes
  m_port : Int
  deriving DecidableEq, Repr

namespace Uri

/-- `Uri::Uri` -/
def new : Uri where
  m_scheme := []
  m_userinfo := []
  m_host := []
  m_path := []
  m_query := []
  m_fragment := []
  m_port := 0

def setScheme (uri : Uri) (v : Bytes) : Uri := { uri with m_scheme := v }
def setUserinfo (uri : Uri) (v : Bytes) : Uri := { uri with m_userinfo := v }
def setHost (uri : Uri) (v : Bytes) : Uri := { uri with m_host := v }
def setPath (uri : Uri) (v : Bytes) : Uri := { uri with m_path := v }
def setQuery (uri : Uri) (v : Bytes) : Uri := { uri with m_query := v }
def setFragment (uri : Uri) (v : Bytes) : Uri := { uri with m_fragment := v }
def setPort (uri : Uri) (v : Int) : Uri := { uri with m_port := v }

/-! ## Create -/

/-- `mark`, null or an offset, and `uri`. -/
structure Parser where
  mark : Option Nat
  uri : Uri
  deriving DecidableEq, Repr

/-- `std::string(mark, fpc - mark)`, which throws if `mark` is null. -/
def marked (uristr : Bytes) (mark : Option Nat) (p : Nat) : Option Bytes :=
  mark.map fun mark => (uristr.drop mark).take (p - mark)

/-- The actions of uri.rl, at the offset `p`. -/
def run (uristr : Bytes) : Action → Nat → Parser → Option Parser
  | .marku, p, parser => some { parser with mark := some p }
  | .markh, p, parser => some { parser with mark := some p }
  | .save_scheme, p, ⟨mark, uri⟩ => (marked uristr mark p).map fun v => ⟨none, uri.setScheme v⟩
  | .save_port, p, ⟨mark, uri⟩ =>
      if some p ≠ mark then mark.map fun mark => ⟨none, uri.setPort (atoi (uristr.drop mark))⟩
      else some ⟨none, uri⟩
  | .save_userinfo, p, ⟨mark, uri⟩ =>
      if mark.isSome then (marked uristr mark p).map fun v => ⟨none, uri.setUserinfo v⟩ else some ⟨none, uri⟩
  | .save_host, p, ⟨mark, uri⟩ =>
      if mark ≠ none then (marked uristr mark p).map fun v => ⟨mark, uri.setHost v⟩ else some ⟨mark, uri⟩
  | .save_path, p, ⟨mark, uri⟩ => (marked uristr mark p).map fun v => ⟨none, uri.setPath v⟩
  | .save_query, p, ⟨mark, uri⟩ => (marked uristr mark p).map fun v => ⟨none, uri.setQuery v⟩
  | .save_fragment, p, ⟨mark, uri⟩ => (marked uristr mark p).map fun v => ⟨none, uri.setFragment v⟩

def uri_parser_next (cs : Nat) (c : UInt8) : Option (Edge Action) := uri_parser_table.next cs c

/-- The actions at the end of the input. -/
def eofActions (cs : Nat) : List Action :=
  match uri_parser_eof.find? fun (states, _) => states.contains cs with
  | some (_, acts) => acts
  | none => []

/-- What Create returns after the run, where nothing throws; null is none. -/
def finish (uristr : Bytes) : Run Parser → Option (Option Uri)
  | .live cs parser => (runActs (run uristr) (eofActions cs) uristr.length parser).map fun parser =>
      if uri_parser_first_final ≤ cs then some parser.uri else none
  | .err _ _ => some none
  | .stop _ cs parser => some (if uri_parser_first_final ≤ cs then some parser.uri else none)
  | .fault => none

def Create (uristr : Bytes) : Option (Option Uri) :=
  finish uristr (scan uri_parser_next (fun _ => false) (run uristr) 0 uristr uri_parser_start ⟨none, new⟩)

/-! ## What is read of a URI -/

variable (uri : Uri)

def getScheme : Bytes := uri.m_scheme
def getUserinfo : Bytes := uri.m_userinfo
def getHost : Bytes := uri.m_host
def getQuery : Bytes := uri.m_query
def getFragment : Bytes := uri.m_fragment

def isDefaultPort : Bool :=
  if uri.m_port = 0 then true
  else if uri.m_scheme = ascii "http" ∨ uri.m_scheme = ascii "ws" then uri.m_port = 80
  else if uri.m_scheme = ascii "https" ∨ uri.m_scheme = ascii "wss" then uri.m_port = 443
  else false

def getPath : Bytes := if uri.m_path.isEmpty then ascii "/" else uri.m_path

def getPort : Int :=
  if uri.m_port ≠ 0 then uri.m_port
  else if uri.m_scheme = ascii "http" ∨ uri.m_scheme = ascii "ws" then 80
  else if uri.m_scheme = ascii "https" ∨ uri.m_scheme = ascii "wss" then 443
  else uri.m_port

def dump : Bytes :=
  uri.m_scheme ++ ascii "://" ++ uri.m_userinfo ++ (if uri.m_userinfo.isEmpty then [] else ascii "@") ++ uri.m_host ++
    (if uri.isDefaultPort then [] else ascii ":" ++ ascii (toString uri.m_port)) ++ uri.getPath ++
    (if uri.m_query.isEmpty then [] else ascii "?") ++ uri.m_query ++
    (if uri.m_fragment.isEmpty then [] else ascii "#") ++ uri.m_fragment

def toString : Bytes := uri.dump

end Uri

end Mingfwq
