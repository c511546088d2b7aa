import Mingfwq.Address.Model
import Mingfwq.Lib.Joined

/-!
# An IPv6 address as text (address.cpp)

`insert` prints what `inet_pton` is to read.
-/

namespace Mingfwq

open Lib

namespace IPv6Address

section Insert

variable (o : ByteOrder)

/-- `__u6_addr16`, as the machine reads it. -/
def u6_addr16 (addr : Vector UInt8 16) : List Nat :=
  (List.range 8).map fun i => o.value ((addr.toList.drop (2 * i)).take 2)

/-- The loop over `addr`, with the text and `used_zeros`; `previous` is `addr[i - 1]`, and none in front. -/
def insertLoop (previous : Option Nat) (addr : List Nat) (os : List Char) (used_zeros : Bool) : List Char × Bool :=
  match addr with
  | [] => (os, used_zeros)
  | group :: rest =>
      if group = 0 && !used_zeros then insertLoop (some group) rest os used_zeros
      else
        let (os, used_zeros) := if previous = some 0 && !used_zeros then (os ++ [':'], true) else (os, used_zeros)
        let os := if previous.isSome then os ++ [':'] else os
        insertLoop (some group) rest (os ++ Nat.toDigits 16 (byteswapOnLittleEndian o 2 group)) used_zeros

def insert (m_addr : sockaddr_in6) : List Char :=
  let addr := u6_addr16 o m_addr.sin6_addr
  let (os, used_zeros) := insertLoop o none addr ['['] false
  let os := if !used_zeros && addr[7]? = some 0 then os ++ [':', ':'] else os
  os ++ [']', ':'] ++ Nat.toDigits 10 (byteswapOnLittleEndian o 2 m_addr.sin6_port.toNat)

end Insert

end IPv6Address

/-! ## Reading the text -/

def hexDigit (c : Char) : Option Nat :=
  if '0' ≤ c ∧ c ≤ '9' then some (c.toNat - 48)
  else if 'a' ≤ c ∧ c ≤ 'f' then some (c.toNat - 87)
  else if 'A' ≤ c ∧ c ≤ 'F' then some (c.toNat - 55)
  else none

/-- One to four hexadecimal digits. -/
def hexGroup (s : List Char) : Option Nat :=
  if s = [] ∨ 4 < s.length then none else s.foldlM (fun n c => (hexDigit c).map (16 * n + ·)) 0

/-- A number up to 255, without a zero in front. -/
def decimalByte (s : List Char) : Option Nat :=
  if s = [] ∨ ¬ s.all Char.isDigit ∨ (s.head? = some '0' ∧ 1 < s.length) ∨ 255 < Nat.ofDigitChars 10 s 0 then none
  else some (Nat.ofDigitChars 10 s 0)

/-- Four such numbers are two groups. -/
def dottedQuad (s : List Char) : Option (List Nat) :=
  match (s.splitOn '.').mapM decimalByte with
  | some [a, b, c, d] => some [256 * a + b, 256 * c + d]
  | _ => none

/-- The groups between the colons; the last may be a dotted quad where `quad` holds. -/
def readGroups (quad : Bool) : List (List Char) → Option (List Nat)
  | [] => some []
  | [s] =>
      match hexGroup s with
      | some group => some [group]
      | none => if quad then dottedQuad s else none
  | s :: rest => do
      let group ← hexGroup s
      let groups ← readGroups quad rest
      return group :: groups

/-- The groups of one side of a double colon. -/
def readSide (quad : Bool) (s : List Char) : Option (List Nat) :=
  if s = [] then some [] else readGroups quad (s.splitOn ':')

/-- `inet_pton` of `AF_INET6`: eight groups, or fewer with a double colon for those that are left out. -/
def inet_pton (s : List Char) : Option (List Nat) :=
  match cutDoubled ':' s with
  | none => (readSide true s).filter (·.length = 8)
  | some (front, back) => do
      let xs ← readSide false front
      let ys ← readSide true back
      if xs.length + ys.length < 8 then
        some (xs ++ List.replicate (8 - (xs.length + ys.length)) 0 ++ ys)
      else none

end Mingfwq
