import Mingfwq.Address.Model

/-!
# The node and the service of a lookup (address.cpp)

A pointer into the host is a position in it. What `c_str` points to are the bytes of the host and a terminator.
-/

namespace Mingfwq.Address

/-- `memchr` over the `n` bytes from `start`. Here and below the outer none is an access outside of the string. -/
def memchr (memory : List UInt8) (start : Nat) (c : UInt8) (n : Nat) : Option (Option Nat) :=
  if start + n ≤ memory.length then some ((((memory.drop start).take n).idxOf? c).map (start + ·)) else none

/-- `std::string::substr` -/
def substr (host : List UInt8) (pos n : Nat) : List UInt8 := (host.drop pos).take n

/-- The check for an IPv6 address in brackets: `node` and `service`. -/
def lookupBrackets (host : List UInt8) : Option (List UInt8 × Option Nat) :=
  let c_str := host ++ [0]
  if host.head? = some 91 then
    (memchr c_str 1 93 (host.length - 1)).bind fun
      | some endipv6 =>
          c_str[endipv6 + 1]?.map fun c =>
            (substr host 1 (endipv6 - 1), if c = 58 then some (endipv6 + 2) else none)
      | none => some ([], none)
  else some ([], none)

/-- The check for a service behind a colon, where there is no `node` yet. -/
def lookupService (host node : List UInt8) (service : Option Nat) : Option (List UInt8 × Option Nat) :=
  let c_str := host ++ [0]
  if node = [] then
    (memchr c_str 0 58 host.length).bind fun
      | some service =>
          (memchr c_str (service + 1) 58 (host.length - service - 1)).map fun
            | some _ => (node, some service)
            | none => (substr host 0 service, some (service + 1))
      | none => some (node, none)
  else some (node, service)

/-- What `getaddrinfo` is passed, the service as the string that begins where the pointer points. -/
def lookupArgs (host : List UInt8) : Option (List UInt8 × Option (List UInt8)) :=
  (lookupBrackets host).bind fun (node, service) =>
    (lookupService host node service).bind fun (node, service) =>
      let node := if node = [] then host else node
      match service with
      | none => some (node, none)
      | some service => if service ≤ host.length then some (node, some (host.drop service)) else none

/-- `getaddrinfo` gives the addresses made of its results, or none for an error. -/
def Lookup (getaddrinfo : List UInt8 → Option (List UInt8) → Option (List Address)) (result : List Address)
    (host : List UInt8) : Option (Bool × List Address) :=
  (lookupArgs host).map fun (node, service) =>
    match getaddrinfo node service with
    | none => (false, result)
    | some addrs => (true, result ++ addrs)

end Mingfwq.Address
