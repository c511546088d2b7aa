import Mingfwq.TcpServer.Model

/-!
# What a call of bind leaves of the sockets before it

A call that fails takes back more than it has added: all sockets are dropped, and with the last pointer to one its
destructor closes it.
-/

namespace Mingfwq.TcpServer

variable {server : TcpServer} {addrs : List Attempt} {fails : List Address} {socks : List Socket} {t : Attempt}

/-- The listening socket for an address, if it can be bound and listened at. -/
def listening (t : Attempt) : Option Socket :=
  match (Socket.CreateTCP t.addr).bind t.addr.getFamily.toNat t.fd t.taken t.bindRt with
  | (false, _) => none
  | (true, sock) =>
      match sock.listen t.listenRt with
      | (false, _) => none
      | (true, sock) => some sock

/-- The addresses that cannot. -/
def failing (addrs : List Attempt) : List Address := (addrs.filter (listening · |>.isNone)).map Attempt.addr

/-- A call that returns true adds a listening socket for each address, in their order; one that returns false names the
addresses that fail and leaves the sockets as they were. -/
structure Atomic (server : TcpServer) (addrs : List Attempt) (rt : Bool) (server' : TcpServer)
    (fails : List Address) : Prop where
  bound : rt = true → ∃ socks, server'.m_socks = server.m_socks ++ socks ∧
    List.Forall₂ (fun t sock => listening t = some sock) addrs socks
  refused : rt = false → fails = failing addrs ∧ server'.m_socks = server.m_socks

end Mingfwq.TcpServer
