import Mathlib.Data.List.Basic

/-!
# Patterns of a log line (log.h, log.cpp)

`%xxx`, `%xxx{xxx}` and `%%`.
-/

namespace Mingfwq

namespace LogFormatter

/-- `m_pattern.substr(pos, count)`. -/
def substr (pattern : List Char) (pos count : Nat) : String := .ofList ((pattern.drop pos).take count)

/-- The variables of the inner loop. -/
structure Scan where
  n : Nat
  fmt_status : Nat
  fmt_begin : Nat
  str : String
  fmt : String
  deriving DecidableEq, Repr

/-- The inner loop; every round but the last moves `n` on, so as many rounds as there are characters are enough. -/
def scan (pattern : List Char) (i : Nat) : Nat → Scan → Scan
  | 0, s => s
  | rounds + 1, s =>
      match pattern[s.n]? with
      | none => s
      | some c =>
          if s.fmt_status = 0 ∧ !c.isAlpha ∧ c ≠ '{' ∧ c ≠ '}' then
            { s with str := substr pattern (i + 1) (s.n - i - 1) }
          else if s.fmt_status = 0 ∧ c = '{' then
            scan pattern i rounds { s with
              str := substr pattern (i + 1) (s.n - i - 1)
              fmt_status := 1
              fmt_begin := s.n
              n := s.n + 1 }
          else if s.fmt_status = 1 ∧ c = '}' then
            { s with
              fmt := substr pattern (s.fmt_begin + 1) (s.n - s.fmt_begin - 1)
              fmt_status := 0
              n := s.n + 1 }
          else if s.n + 1 = pattern.length ∧ s.str.isEmpty then
            scan pattern i rounds { s with
              n := s.n + 1
              str := substr pattern (i + 1) pattern.length }
          else scan pattern i rounds { s with n := s.n + 1 }

/-- The variables of the outer loop: an item of `vec` is str, format and type. -/
structure Parse where
  i : Nat
  nstr : String
  vec : List (String × String × Nat)
  m_error : Bool
  deriving DecidableEq, Repr

/-- A round moves `i` on, so as many rounds as there are characters are enough. -/
def parse (pattern : List Char) : Nat → Parse → Parse
  | 0, p => p
  | rounds + 1, p =>
      match pattern[p.i]? with
      | none => p
      | some c =>
          if c ≠ '%' then parse pattern rounds { p with i := p.i + 1, nstr := p.nstr.push c }
          else if pattern[p.i + 1]? = some '%' then
            parse pattern rounds { p with i := p.i + 1, nstr := p.nstr.push '%' }
          else
            let s := scan pattern p.i pattern.length ⟨p.i + 1, 0, 0, "", ""⟩
            if s.fmt_status = 0 then
              parse pattern rounds { p with
                i := s.n
                nstr := ""
                vec := (if p.nstr.isEmpty then p.vec else p.vec ++ [(p.nstr, "", 0)]) ++ [(s.str, s.fmt, 1)] }
            else
              parse pattern rounds { p with
                i := p.i + 1
                vec := p.vec ++ [("<pattern_error>", s.fmt, 0)]
                m_error := true }

/-- The keys of s_format_items. -/
def s_format_items : List String := ["m", "p", "r", "c", "t", "n", "d", "f", "l", "T", "F", "N"]

/-- An item of a pattern: a text, or what the class under a key of s_format_items makes of a format. -/
inductive FormatItem where
  | StringFormatItem (str : String)
  | made (key fmt : String)
  deriving DecidableEq, Repr

/-- The item for an element of `vec`. -/
def item : String × String × Nat → FormatItem
  | (str, fmt, type) =>
      if type = 0 then .StringFormatItem str
      else if s_format_items.contains str then .made str fmt
      else .StringFormatItem ("<<error_format %" ++ str ++ ">>")

/-- m_items after init. -/
def m_items (m_pattern : String) : List FormatItem :=
  let p := parse m_pattern.toList m_pattern.length ⟨0, "", [], false⟩
  (if p.nstr.isEmpty then p.vec else p.vec ++ [(p.nstr, "", 0)]).map item

/-- m_error after init. -/
def init (m_pattern : String) : Bool :=
  let p := parse m_pattern.toList m_pattern.length ⟨0, "", [], false⟩
  let vec := if p.nstr.isEmpty then p.vec else p.vec ++ [(p.nstr, "", 0)]
  p.m_error || vec.any fun (str, _, type) => type ≠ 0 && !s_format_items.contains str

end LogFormatter

/-- The items of the pattern are left out; they are those of `m_items`. -/
structure LogFormatter where
  m_pattern : String
  m_error : Bool
  deriving DecidableEq, Repr

namespace LogFormatter

def new (pattern : String) : LogFormatter where
  m_pattern := pattern
  m_error := init pattern

def isError (formatter : LogFormatter) : Bool := formatter.m_error

def getPattern (formatter : LogFormatter) : String := formatter.m_pattern

end LogFormatter

end Mingfwq
