import Mingfwq.Lib.Delimiter
import Mingfwq.Uri.Grammar

/-!
# URIs cut at their delimiters

The components of a URI as the first of each delimiter separates them, without regard to the characters between.
-/

namespace Mingfwq.Uri

open Lib

/-- The scheme and what follows its colon. -/
def splitScheme (s : Bytes) : Option (Bytes × Bytes) :=
  match s.dropWhile (! scheme_end.has ·) with
  | 58 :: rest => some (s.takeWhile (! scheme_end.has ·), rest)
  | _ => none

/-- The authority behind two slashes, and what follows it. -/
def splitAuthority (rest : Bytes) : Option (Bytes × Bytes) :=
  match rest with
  | 47 :: 47 :: xs => some (xs.takeWhile (! authority_end.has ·), xs.dropWhile (! authority_end.has ·))
  | _ => none

/-- The userinfo, and what follows its delimiter. -/
def splitUserinfo (authority : Bytes) : Option Bytes × Bytes :=
  match authority.dropWhile (· ≠ 64) with
  | _ :: rest => (some (authority.takeWhile (· ≠ 64)), rest)
  | [] => (none, authority)

/-- The host, and the digits at the end if a colon is in front of them. -/
def splitPort (hostPort : Bytes) : Bytes × Option Bytes :=
  if (hostPort.rdropWhile CharClass.digit.has).getLast? = some 58 then
    ((hostPort.rdropWhile CharClass.digit.has).dropLast, some (hostPort.rtakeWhile CharClass.digit.has))
  else (hostPort, none)

def pathPart (rest : Bytes) : Bytes := rest.takeWhile fun c => c ≠ 63 && c ≠ 35

/-- The query, and what follows it. -/
def splitQuery (rest : Bytes) : Option Bytes × Bytes :=
  match rest.dropWhile fun c => c ≠ 63 && c ≠ 35 with
  | 63 :: xs => (some (xs.takeWhile (· ≠ 35)), xs.dropWhile (· ≠ 35))
  | xs => (none, xs)

def fragmentPart (rest : Bytes) : Option Bytes :=
  match rest with
  | 35 :: xs => some xs
  | _ => none

/-- The components of a string with a scheme and an authority. -/
def split (s : Bytes) : Option Parts :=
  (splitScheme s).bind fun (scheme, rest) => (splitAuthority rest).map fun (authority, rest) =>
    { scheme
      userinfo := (splitUserinfo authority).1
      host := (splitPort (splitUserinfo authority).2).1
      port := (splitPort (splitUserinfo authority).2).2
      path := pathPart rest
      query := (splitQuery rest).1
      fragment := fragmentPart (splitQuery rest).2 }

/-- The path part of any string. -/
def pathOf (s : Bytes) : Bytes :=
  let rest := (splitScheme s).elim s (·.2)
  pathPart ((splitAuthority rest).elim rest (·.2))

end Mingfwq.Uri
