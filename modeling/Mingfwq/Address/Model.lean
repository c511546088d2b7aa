import Mathlib.Data.List.Basic
import Mingfwq.Lib.ByteOrder
import Mingfwq.Lib.Lexicographic

/-!
# Network addresses (address.h, address.cpp)

An address is a `sockaddr` of some kind. Its fields lie in memory in the order of the machine; what the network sees of
a port or an address has been swapped on a machine whose order is little.
-/

namespace Mingfwq

open Lib

structure sockaddr where
  sa_family : UInt16
  sa_data : Vector UInt8 14
  deriving DecidableEq, Repr

structure sockaddr_in where
  sin_family : UInt16
  sin_port : UInt16
  sin_addr : UInt32
  sin_zero : Vector UInt8 8
  deriving DecidableEq, Repr

/-- `sin6_addr` is the `in6_addr` by its bytes. -/
structure sockaddr_in6 where
  sin6_family : UInt16
  sin6_port : UInt16
  sin6_flowinfo : UInt32
  sin6_addr : Vector UInt8 16
  sin6_scope_id : UInt32
  deriving DecidableEq, Repr

structure sockaddr_un where
  sun_family : UInt16
  sun_path : Vector UInt8 108
  deriving DecidableEq, Repr

section Bytes

variable (o : ByteOrder)

def sockaddr.bytes (a : sockaddr) : List UInt8 := o.bytes 2 a.sa_family.toNat ++ a.sa_data.toList

def sockaddr_in.bytes (a : sockaddr_in) : List UInt8 :=
  o.bytes 2 a.sin_family.toNat ++ o.bytes 2 a.sin_port.toNat ++ o.bytes 4 a.sin_addr.toNat ++ a.sin_zero.toList

def sockaddr_in6.bytes (a : sockaddr_in6) : List UInt8 :=
  o.bytes 2 a.sin6_family.toNat ++ o.bytes 2 a.sin6_port.toNat ++ o.bytes 4 a.sin6_flowinfo.toNat ++
    a.sin6_addr.toList ++ o.bytes 4 a.sin6_scope_id.toNat

def sockaddr_un.bytes (a : sockaddr_un) : List UInt8 := o.bytes 2 a.sun_family.toNat ++ a.sun_path.toList

end Bytes

/-- `byteswapOnLittleEndian` of endian.h, for a type of `n` bytes. -/
def byteswapOnLittleEndian (MINGFWQ_BYTE_ORDER : ByteOrder) (n t : Nat) : Nat :=
  match MINGFWQ_BYTE_ORDER with
  | .little => ByteOrder.swap n t
  | .big => t

/-- The length of a unix address is set by its user, within the `sockaddr_un`. -/
inductive Address where
  | IPv4Address (m_addr : sockaddr_in)
  | IPv6Address (m_addr : sockaddr_in6)
  | UnixAddress (m_addr : sockaddr_un) (m_length : Nat) (inside : m_length ≤ 110)
  | UnknowAddress (m_addr : sockaddr)
  deriving DecidableEq, Repr

namespace Address

def getFamily : Address → UInt16
  | .IPv4Address m_addr => m_addr.sin_family
  | .IPv6Address m_addr => m_addr.sin6_family
  | .UnixAddress m_addr _ _ => m_addr.sun_family
  | .UnknowAddress m_addr => m_addr.sa_family

/-- The memory that `getAddr` points to. -/
def getAddr (o : ByteOrder) : Address → List UInt8
  | .IPv4Address m_addr => m_addr.bytes o
  | .IPv6Address m_addr => m_addr.bytes o
  | .UnixAddress m_addr _ _ => m_addr.bytes o
  | .UnknowAddress m_addr => m_addr.bytes o

def getAddrLen : Address → Nat
  | .IPv4Address _ => 16
  | .IPv6Address _ => 28
  | .UnixAddress _ m_length _ => m_length
  | .UnknowAddress _ => 16

/-- `operator<` -/
def lt (o : ByteOrder) (a rhs : Address) : Bool :=
  let minlen := min a.getAddrLen rhs.getAddrLen
  match memcmp minlen (a.getAddr o) (rhs.getAddr o) with
  | .lt => true
  | .gt => false
  | .eq => a.getAddrLen < rhs.getAddrLen

/-- `operator==`: what memcmp returns is converted to `bool`. -/
def eq (o : ByteOrder) (a rhs : Address) : Bool :=
  a.getAddrLen = rhs.getAddrLen && memcmp a.getAddrLen (a.getAddr o) (rhs.getAddr o) ≠ .eq

/-- `operator!=` -/
def ne (o : ByteOrder) (a rhs : Address) : Bool := !a.eq o rhs

end Address

end Mingfwq
