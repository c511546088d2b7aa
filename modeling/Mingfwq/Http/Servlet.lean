import Mathlib.Data.List.AList
import Mingfwq.Http.Http
import Mingfwq.Lib.System

/-!
# The dispatcher of the server (servlet.h, servlet.cpp)

A `Servlet::ptr` is none where it is null. Every call holds the lock for as long as it runs, so the calls come one
after the other; those that take a callback make a servlet of it first.
-/

namespace Mingfwq.Http

open Lib

/-- `fnmatch(pattern, string, 0) == 0`, of C strings. -/
abbrev Fnmatch := Bytes → Bytes → Bool

def c_str (s : Bytes) : Bytes := s.takeWhile (· != 0)

variable {σ : Type}

structure ServletDispath (σ : Type) where
  m_datas : AList fun _ : Bytes => Option σ
  m_globs : List (Bytes × Option σ)
  m_default : Option σ

namespace ServletDispath

/-- The constructor, which makes a `NotFoundServlet`. -/
def new (notFound : σ) : ServletDispath σ where
  m_datas := ∅
  m_globs := []
  m_default := some notFound

def addServlet (d : ServletDispath σ) (uri : Bytes) (slt : Option σ) : ServletDispath σ :=
  { d with m_datas := d.m_datas.insert uri slt }

def delServlet (d : ServletDispath σ) (uri : Bytes) : ServletDispath σ := { d with m_datas := d.m_datas.erase uri }

def getServlet (d : ServletDispath σ) (uri : Bytes) : Option σ := (d.m_datas.lookup uri).getD none

def getGlobServlet (d : ServletDispath σ) (uri : Bytes) : Option σ :=
  match d.m_globs.find? (fun it => it.1 == uri) with
  | some it => it.2
  | none => none

def getMatchedServlet (d : ServletDispath σ) (uri : Bytes) : Option σ :=
  match d.m_datas.lookup uri with
  | some slt => slt
  | none =>
      match d.m_globs.find? (fun it => it.1 == uri) with
      | some it => it.2
      | none => d.m_default

section Glob

variable (fnmatch : Fnmatch)

/-- The test of addGlobServlet and of delGlobServlet. -/
def globMatches (uri : Bytes) (it : Bytes × Option σ) : Bool := fnmatch (c_str it.1) (c_str uri)

def addGlobServlet (d : ServletDispath σ) (uri : Bytes) (slt : Option σ) : ServletDispath σ :=
  { d with m_globs := d.m_globs.eraseP (globMatches fnmatch uri) ++ [(uri, slt)] }

def delGlobServlet (d : ServletDispath σ) (uri : Bytes) : ServletDispath σ :=
  { d with m_globs := d.m_globs.eraseP (globMatches fnmatch uri) }

end Glob

/-! ## Any sequence of calls -/

inductive Call (σ : Type) where
  | addServlet (uri : Bytes) (slt : Option σ)
  | addGlobServlet (uri : Bytes) (slt : Option σ)
  | delServlet (uri : Bytes)
  | delGlobServlet (uri : Bytes)

def call (fnmatch : Fnmatch) (d : ServletDispath σ) : Call σ → ServletDispath σ
  | .addServlet uri slt => d.addServlet uri slt
  | .addGlobServlet uri slt => d.addGlobServlet fnmatch uri slt
  | .delServlet uri => d.delServlet uri
  | .delGlobServlet uri => d.delGlobServlet fnmatch uri

def system (fnmatch : Fnmatch) (notFound : σ) : System (ServletDispath σ) (Call σ) Empty where
  init := new notFound
  step d c := .next (d.call fnmatch c)

end ServletDispath

end Mingfwq.Http
