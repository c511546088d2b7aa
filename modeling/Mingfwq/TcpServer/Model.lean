import Mingfwq.Address.Model
import Mingfwq.Socket.Model

/-!
# Binding a server (tcp_server.h, tcp_server.cpp)
-/

namespace Mingfwq

/-- What the system answers while one address is bound: the descriptor, whether a unix address is taken, and the
results of `::bind` and `::listen`. -/
structure Attempt where
  addr : Address
  fd : Int
  taken : Bool
  bindRt : Int
  listenRt : Int
  deriving DecidableEq, Repr

/-- `Socket::CreateTCP` -/
def Socket.CreateTCP (address : Address) : Socket := .new address.getFamily.toNat

structure TcpServer where
  m_socks : List Socket
  deriving DecidableEq, Repr

namespace TcpServer

/-- The loop of bind, over the sockets and the addresses that fail. -/
def bindLoop : List Attempt → List Socket → List Address → List Socket × List Address
  | [], m_socks, fails => (m_socks, fails)
  | t :: rest, m_socks, fails =>
      let sock := Socket.CreateTCP t.addr
      match sock.bind t.addr.getFamily.toNat t.fd t.taken t.bindRt with
      | (false, _) => bindLoop rest m_socks (fails ++ [t.addr])
      | (true, sock) =>
          match sock.listen t.listenRt with
          | (false, _) => bindLoop rest m_socks (fails ++ [t.addr])
          | (true, sock) => bindLoop rest (m_socks ++ [sock]) fails

/-- What is returned, the server, and `fails`. -/
def bind (server : TcpServer) (addrs : List Attempt) (fails : List Address) : Bool × TcpServer × List Address :=
  let (m_socks, fails) := bindLoop addrs server.m_socks fails
  if !fails.isEmpty then (false, { server with m_socks := [] }, fails)
  else (true, { server with m_socks }, fails)

end TcpServer

end Mingfwq
