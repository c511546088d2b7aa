import Mingfwq.Address.Model

/-!
# Network, broadcast address and mask (address.cpp)
-/

namespace Mingfwq

open Lib

/-- What the language leaves undefined: a shift by more than the bits of an `int`, and a word that an array does not
have. -/
inductive Undefined where
  | shift (amount : UInt64)
  | index (i : Nat)
  deriving DecidableEq, Repr

/-- `CreateMask<uint32_t>`; as `sizeof` is, the amount of the shift is a `size_t`. -/
def CreateMask (bits : UInt32) : Except Undefined UInt32 :=
  let amount : UInt64 := 4 * 8 - bits.toUInt64 - 1
  if amount < 32 then .ok (1 <<< amount.toUInt32) else .error (.shift amount)

def AF_INET : UInt16 := 2

def AF_INET6 : UInt16 := 10

/-- `byteswapOnLittleEndian` of a `uint32_t`. -/
def byteswap32 (o : ByteOrder) (t : UInt32) : UInt32 := UInt32.ofNat (byteswapOnLittleEndian o 4 t.toNat)

section Netmask

variable (o : ByteOrder)

namespace IPv4Address

/-- Null is none. -/
def broadcastAddress (m_addr : sockaddr_in) (prefix_len : UInt32) : Except Undefined (Option sockaddr_in) := do
  if prefix_len > 32 then
    return none
  let mask ← CreateMask prefix_len
  return some { m_addr with sin_addr := m_addr.sin_addr ||| byteswap32 o mask }

def networdAddress (m_addr : sockaddr_in) (prefix_len : UInt32) : Except Undefined (Option sockaddr_in) := do
  if prefix_len > 32 then
    return none
  let mask ← CreateMask prefix_len
  return some { m_addr with sin_addr := m_addr.sin_addr &&& byteswap32 o mask }

def subnetMask (prefix_len : UInt32) : Except Undefined (Option sockaddr_in) := do
  let mask ← CreateMask prefix_len
  return some ⟨AF_INET, 0, ~~~byteswap32 o mask, Vector.replicate 8 0⟩

end IPv4Address

namespace IPv6Address

/-- `__u6_addr32[i]` -/
def u6_addr32 (addr : Vector UInt8 16) (i : Nat) : Except Undefined UInt32 :=
  if i < 4 then .ok (UInt32.ofNat (o.value ((addr.toList.drop (4 * i)).take 4))) else .error (.index i)

/-- `__u6_addr32[i] = w` -/
def setU6_addr32 (addr : Vector UInt8 16) (i : Nat) (w : UInt32) : Except Undefined (Vector UInt8 16) :=
  if i < 4 then
    .ok (Vector.ofFn fun j => if j.val / 4 = i then (o.bytes 4 w.toNat).getD (j.val % 4) 0 else addr[j])
  else .error (.index i)

/-- `__u6_addr32[i] = 0xff` for all `i` in a row. -/
def fill (indices : List Nat) (addr : Vector UInt8 16) : Except Undefined (Vector UInt8 16) :=
  indices.foldlM (fun addr i => setU6_addr32 o addr i 0xff) addr

def broadcastAddress (m_addr : sockaddr_in6) (prefix_len : UInt32) : Except Undefined sockaddr_in6 := do
  let mask ← CreateMask (prefix_len % 8)
  let i := (prefix_len / 8).toNat
  let word ← u6_addr32 o m_addr.sin6_addr i
  let addr ← setU6_addr32 o m_addr.sin6_addr i (word ||| mask)
  let addr ← fill o (List.range' (i + 1) (16 - (i + 1))) addr
  return { m_addr with sin6_addr := addr }

def networdAddress (m_addr : sockaddr_in6) (prefix_len : UInt32) : Except Undefined sockaddr_in6 := do
  let mask ← CreateMask (prefix_len % 8)
  let i := (prefix_len / 8).toNat
  let word ← u6_addr32 o m_addr.sin6_addr i
  let addr ← setU6_addr32 o m_addr.sin6_addr i (word &&& mask)
  return { m_addr with sin6_addr := addr }

def subnetMask (prefix_len : UInt32) : Except Undefined sockaddr_in6 := do
  let mask ← CreateMask (prefix_len % 8)
  let i := (prefix_len / 8).toNat
  let addr ← setU6_addr32 o (Vector.replicate 16 0) i (~~~mask)
  let addr ← fill o (List.range i) addr
  return ⟨AF_INET6, 0, 0, addr, 0⟩

end IPv6Address

end Netmask

end Mingfwq
