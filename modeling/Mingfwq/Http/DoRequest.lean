import Mingfwq.Http.Http

/-!
# The requests of a client (http_connection.cpp)

DoRequest and doRequest build a request from the caller's headers, a `std::map<std::string, std::string>` in its order,
and pass it on to the overloads that send it.
-/

namespace Mingfwq.Http

/-- What DoRequest reads of a `Uri`. -/
structure Uri where
  m_host : Bytes
  m_path : Bytes
  m_query : Bytes
  m_fragment : Bytes
  deriving DecidableEq, Repr

def Uri.getHost (uri : Uri) : Bytes := uri.m_host
def Uri.getPath (uri : Uri) : Bytes := if uri.m_path.isEmpty then ascii "/" else uri.m_path
def Uri.getQuery (uri : Uri) : Bytes := uri.m_query
def Uri.getFragment (uri : Uri) : Bytes := uri.m_fragment

namespace HttpRequest

def setMethod (req : HttpRequest) (v : HttpMethod) : HttpRequest := { req with m_method := v }
def setPath (req : HttpRequest) (v : Bytes) : HttpRequest := { req with m_path := v }
def setQuery (req : HttpRequest) (v : Bytes) : HttpRequest := { req with m_query := v }
def setFragment (req : HttpRequest) (v : Bytes) : HttpRequest := { req with m_fragment := v }
def setBody (req : HttpRequest) (v : Bytes) : HttpRequest := { req with m_body := v }
def setClose (req : HttpRequest) (v : Bool) : HttpRequest := { req with m_close := v }

def setHeader (req : HttpRequest) (key val : Bytes) : HttpRequest :=
  { req with m_headers := req.m_headers.set key val }

end HttpRequest

/-- One round of the loop over the headers, which is the same in DoRequest and in doRequest; the flag is `has_host`. -/
def addHeader (acc : HttpRequest × Bool) (i : Bytes × Bytes) : HttpRequest × Bool :=
  let (req, has_host) := acc
  if strcasecmp i.1 (ascii "connection") = .eq then
    if strcasecmp i.1 (ascii "keep-alive") = .eq then (req.setClose false, has_host) else (req, has_host)
  else
    let has_host := if !has_host || strcasecmp i.1 (ascii "host") = .eq then !i.2.isEmpty else has_host
    (req.setHeader i.1 i.2, has_host)

/-- HttpConnection::DoRequest of a `Uri::ptr`. -/
def HttpConnection.DoRequest (method : HttpMethod) (uri : Uri) (headers : List (Bytes × Bytes)) (body : Bytes) :
    HttpRequest :=
  let req :=
    (((HttpRequest.new.setPath uri.getPath).setQuery uri.getQuery).setFragment uri.getFragment).setMethod method
  let (req, has_host) := headers.foldl addHeader (req, false)
  let req := if !has_host then req.setHeader (ascii "Host") uri.getHost else req
  req.setBody body

/-- HttpConnectionPool::doRequest of a URL. -/
def HttpConnectionPool.doRequest (m_host m_vhost : Bytes) (method : HttpMethod) (url : Bytes)
    (headers : List (Bytes × Bytes)) (body : Bytes) : HttpRequest :=
  let req := ((HttpRequest.new.setPath url).setMethod method).setClose false
  let (req, has_host) := headers.foldl addHeader (req, false)
  let req :=
    if !has_host then
      if m_vhost.isEmpty then req.setHeader (ascii "host") m_host else req.setHeader (ascii "host") m_vhost
    else req
  req.setBody body

end Mingfwq.Http
