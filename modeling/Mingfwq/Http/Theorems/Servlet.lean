import Mingfwq.Http.Servlet
import Mingfwq.Lib.KeyedList

/-!
# The registrations of a dispatcher

The calls that change the globs look for the pattern with `fnmatch`, those that read them compare strings.
-/

namespace Mingfwq.Http.ServletDispath

open Lib

variable {σ : Type} {fnmatch : Fnmatch} {d d' : ServletDispath σ} {c : Call σ} {uri : Bytes} {slt : Option σ}

/-! ## The globs as a map -/

/-- A call leaves the globs that an ordered map under the pattern would have: an added pattern is there once, with its
servlet, a deleted one is gone, and the others are as they were. -/
def Mapped (fnmatch : Fnmatch) (d : ServletDispath σ) (c : Call σ) : Prop :=
  match c with
  | .addGlobServlet uri slt =>
      (d.call fnmatch c).getGlobServlet uri = slt ∧ (d.call fnmatch c).m_globs.countP (·.1 == uri) = 1 ∧
        (d.call fnmatch c).m_globs.filter (·.1 != uri) = d.m_globs.filter (·.1 != uri)
  | .delGlobServlet uri =>
      (d.call fnmatch c).getGlobServlet uri = none ∧ (d.call fnmatch c).m_globs.countP (·.1 == uri) = 0 ∧
        (d.call fnmatch c).m_globs.filter (·.1 != uri) = d.m_globs.filter (·.1 != uri)
  | _ => (d.call fnmatch c).m_globs = d.m_globs

/-- The first pattern that matches `uri`, taken for a string, is `uri`; and none matches if it is
not among the globs. -/
def FindsOwn (fnmatch : Fnmatch) (d : ServletDispath σ) (uri : Bytes) : Prop :=
  d.m_globs.find? (globMatches fnmatch uri) = d.m_globs.find? (·.1 == uri)

def FirstOwn (fnmatch : Fnmatch) (d : ServletDispath σ) : Call σ → Prop
  | .addGlobServlet uri _ => FindsOwn fnmatch d uri
  | .delGlobServlet uri => FindsOwn fnmatch d uri
  | _ => True

/-- No pattern is there twice. -/
def Distinct (d : ServletDispath σ) : Prop := (d.m_globs.map Prod.fst).Nodup

theorem countP_eq_zero_iff {l : List (Bytes × Option σ)} :
    l.countP (·.1 == uri) = 0 ↔ l.filter (·.1 != uri) = l := by
  rw [List.countP_eq_zero, List.filter_eq_self]
  simp

/-- What is erased is the entry under the pattern, and nothing else. -/
theorem erased_iff (h : Distinct d) : FindsOwn fnmatch d uri ↔
    (d.m_globs.eraseP (globMatches fnmatch uri)).countP (·.1 == uri) = 0 ∧
      (d.m_globs.eraseP (globMatches fnmatch uri)).filter (·.1 != uri) = d.m_globs.filter (·.1 != uri) := by
  rw [FindsOwn, ← eraseP_eq_filter_iff h, countP_eq_zero_iff]
  constructor
  · intro heq
    simp [heq]
  · rintro ⟨hgone, hothers⟩
    exact hgone.symm.trans hothers

theorem FindsOwn.eraseP_eq (h : Distinct d) (hown : FindsOwn fnmatch d uri) :
    d.m_globs.eraseP (globMatches fnmatch uri) = d.m_globs.filter (·.1 != uri) :=
  (eraseP_eq_filter_iff h).mpr hown

theorem getGlobServlet_eq (h : d.m_globs.find? (·.1 == uri) = some (uri, slt)) : d.getGlobServlet uri = slt := by
  rw [getGlobServlet, h]

theorem getGlobServlet_eq_none (h : d.m_globs.countP (·.1 == uri) = 0) : d.getGlobServlet uri = none := by
  rw [getGlobServlet, List.find?_eq_none.mpr fun e he => List.countP_eq_zero.mp h e he]

theorem mapped_iff (h : Distinct d) : Mapped fnmatch d c ↔ FirstOwn fnmatch d c := by
  cases c with
  | addServlet uri slt => simp [Mapped, FirstOwn, call, addServlet]
  | delServlet uri => simp [Mapped, FirstOwn, call, delServlet]
  | addGlobServlet uri slt =>
      have hcount : (d.addGlobServlet fnmatch uri slt).m_globs.countP (·.1 == uri) =
          (d.m_globs.eraseP (globMatches fnmatch uri)).countP (·.1 == uri) + 1 := by
        simp [addGlobServlet, List.countP_append]
      have hfilter : (d.addGlobServlet fnmatch uri slt).m_globs.filter (·.1 != uri) =
          (d.m_globs.eraseP (globMatches fnmatch uri)).filter (·.1 != uri) := by
        simp [addGlobServlet, List.filter_append]
      simp only [Mapped, FirstOwn, call, hcount, hfilter, Nat.add_eq_right]
      constructor
      · rintro ⟨-, herased⟩
        exact (erased_iff h).mpr herased
      · intro hown
        refine ⟨getGlobServlet_eq ?_, (erased_iff h).mp hown⟩
        rw [addGlobServlet, hown.eraseP_eq h]
        exact filter_key_append
  | delGlobServlet uri =>
      simp only [Mapped, FirstOwn, call]
      constructor
      · rintro ⟨-, herased⟩
        exact (erased_iff h).mpr herased
      · intro hown
        have herased := (erased_iff h).mp hown
        exact ⟨getGlobServlet_eq_none herased.1, herased⟩

theorem Distinct.filter (h : Distinct d) (uri : Bytes) : ((d.m_globs.filter (·.1 != uri)).map Prod.fst).Nodup :=
  h.sublist (List.filter_sublist.map _)

theorem Distinct.call (h : Distinct d) (hown : FirstOwn fnmatch d c) : Distinct (d.call fnmatch c) := by
  cases c with
  | addServlet uri slt => exact h
  | delServlet uri => exact h
  | addGlobServlet uri slt =>
      rw [Distinct, ServletDispath.call, addGlobServlet, FindsOwn.eraseP_eq h hown, List.map_append]
      refine (h.filter uri).append (List.nodup_singleton _) ?_
      simp [List.disjoint_singleton]
  | delGlobServlet uri =>
      rw [Distinct, ServletDispath.call, delGlobServlet, FindsOwn.eraseP_eq h hown]
      exact h.filter uri

theorem distinct_new {notFound : σ} : Distinct (new notFound) := List.nodup_nil

/-- The globs are such a map in every step exactly when every call finds its own pattern first. -/
theorem mapped_run_iff (fnmatch : Fnmatch) (notFound : σ) (calls : List (Call σ)) :
    (∀ q ∈ (system fnmatch notFound).trace (new notFound) calls, Mapped fnmatch q.1 q.2) ↔
      ∀ q ∈ (system fnmatch notFound).trace (new notFound) calls, FirstOwn fnmatch q.1 q.2 := by
  have hgood : ∀ (d : ServletDispath σ) (c : Call σ), Distinct d → (system fnmatch notFound).step d c ≠ .blocked →
      (Mapped fnmatch d c ↔ FirstOwn fnmatch d c) := fun d c h _ => mapped_iff h
  refine System.trace_iff hgood (fun d c d' h hown hstep => ?_) distinct_new calls
  cases hstep
  exact h.call hown

/-- A star that matches every string. -/
def star (pattern string : Bytes) : Bool := pattern == ascii "/*" || pattern == string

/-- The star matches another pattern and is lost when that is added. -/
theorem not_mapped_star : ¬ ∀ (fnmatch : Fnmatch) (calls : List (Call Nat)),
    ∀ q ∈ (system fnmatch 0).trace (new 0) calls, Mapped fnmatch q.1 q.2 := by
  intro h
  have hmapped := h star
    [.addGlobServlet (ascii "/*") (some 1), .addGlobServlet (ascii "/a") (some 2)]
    (({ new 0 with m_globs := [(ascii "/*", some 1)] } : ServletDispath Nat), .addGlobServlet (ascii "/a") (some 2))
    (.tail _ (.head _))
  exact absurd hmapped.2.2 (by decide)

/-! ## What a path is served by -/

/-- The servlets that are registered, as the calls register them. -/
structure Registry (σ : Type) where
  exact : Bytes → Option (Option σ)
  globs : List (Bytes × Option σ)

namespace Registry

def empty : Registry σ := ⟨fun _ => none, []⟩

def register (r : Registry σ) : Call σ → Registry σ
  | .addServlet uri slt => { r with exact := Function.update r.exact uri (some slt) }
  | .delServlet uri => { r with exact := Function.update r.exact uri none }
  | .addGlobServlet uri slt => { r with globs := r.globs.filter (·.1 != uri) ++ [(uri, slt)] }
  | .delGlobServlet uri => { r with globs := r.globs.filter (·.1 != uri) }

/-- The servlet for a path: the one that is registered for it, or that of the first glob that matches it. -/
def servlet (fnmatch : Fnmatch) (r : Registry σ) (uri : Bytes) : Option (Option σ) :=
  match r.exact uri with
  | some slt => some slt
  | none => (r.globs.find? (globMatches fnmatch uri)).map Prod.snd

/-- The path is registered itself. Or the servlet of the first glob that matches it is also registered for the glob that
is spelled like the path (the default servlet where there is no such glob). Or none matches it, and none is spelled like
it either, unless with the default servlet. -/
def Settled (fnmatch : Fnmatch) (r : Registry σ) (m_default : Option σ) (uri : Bytes) : Prop :=
  (r.exact uri).isSome ∨
    match r.globs.find? (globMatches fnmatch uri) with
    | some (_, slt) => (uri, slt) ∈ r.globs ∨ slt = m_default ∧ ∀ e ∈ r.globs, e.1 ≠ uri
    | none => ∀ slt, (uri, slt) ∈ r.globs → slt = m_default

end Registry

/-- What is done with a dispatcher: a registration, or a request for a path. -/
inductive Use (σ : Type) where
  | call (c : Call σ)
  | request (uri : Bytes)

/-- A dispatcher, and what is registered with it. -/
def serving (fnmatch : Fnmatch) (notFound : σ) : System (ServletDispath σ × Registry σ) (Use σ) Empty where
  init := (new notFound, .empty)
  step q
    | .call c => .next (q.1.call fnmatch c, q.2.register c)
    | .request _ => .next q

/-- The dispatcher holds what is registered. -/
structure Holds (d : ServletDispath σ) (r : Registry σ) : Prop where
  datas : ∀ uri, d.m_datas.lookup uri = r.exact uri
  globs : d.m_globs = r.globs

/-- After a registration the dispatcher holds what is registered, and a request gets the servlet that is registered for
it, or the default. -/
def Served (fnmatch : Fnmatch) (notFound : σ) (q : ServletDispath σ × Registry σ) : Use σ → Prop
  | .call c => Holds (q.1.call fnmatch c) (q.2.register c)
  | .request uri => q.1.getMatchedServlet uri = (q.2.servlet fnmatch uri).getD (some notFound)

/-- A registration finds its own pattern first, and the path of a request is settled. -/
def Meets (fnmatch : Fnmatch) (notFound : σ) (q : ServletDispath σ × Registry σ) : Use σ → Prop
  | .call c => FirstOwn fnmatch q.1 c
  | .request uri => q.2.Settled fnmatch (some notFound) uri

theorem Holds.call_iff {r : Registry σ} (h : Holds d r) (hdistinct : Distinct d) :
    Holds (d.call fnmatch c) (r.register c) ↔ FirstOwn fnmatch d c := by
  cases c with
  | addServlet uri slt =>
      refine iff_of_true ⟨fun uri' => ?_, h.globs⟩ trivial
      by_cases heq : uri' = uri
      · subst heq
        simp [ServletDispath.call, addServlet, Registry.register]
      · simp [ServletDispath.call, addServlet, Registry.register, heq, h.datas]
  | delServlet uri =>
      refine iff_of_true ⟨fun uri' => ?_, h.globs⟩ trivial
      by_cases heq : uri' = uri
      · subst heq
        simp [ServletDispath.call, delServlet, Registry.register]
      · simp [ServletDispath.call, delServlet, Registry.register, heq, h.datas]
  | addGlobServlet uri slt =>
      rw [FirstOwn, FindsOwn, ← eraseP_eq_filter_iff hdistinct]
      constructor
      · intro hholds
        have hglobs := hholds.globs
        rw [ServletDispath.call, addGlobServlet, Registry.register, ← h.globs] at hglobs
        exact List.append_cancel_right hglobs
      · intro herased
        refine ⟨h.datas, ?_⟩
        rw [ServletDispath.call, addGlobServlet, Registry.register, ← h.globs, herased]
  | delGlobServlet uri =>
      rw [FirstOwn, FindsOwn, ← eraseP_eq_filter_iff hdistinct]
      constructor
      · intro hholds
        have hglobs := hholds.globs
        rwa [ServletDispath.call, delGlobServlet, Registry.register, ← h.globs] at hglobs
      · intro herased
        refine ⟨h.datas, ?_⟩
        rw [ServletDispath.call, delGlobServlet, Registry.register, ← h.globs, herased]

/-- The glob that is spelled like the path is the only one, so it is the one that is found. -/
theorem Holds.request_iff {r : Registry σ} (h : Holds d r) (hdistinct : Distinct d) {notFound : σ}
    (hdefault : d.m_default = some notFound) :
    d.getMatchedServlet uri = (r.servlet fnmatch uri).getD (some notFound) ↔
      r.Settled fnmatch (some notFound) uri := by
  rw [getMatchedServlet, Registry.servlet, Registry.Settled, h.datas, hdefault, ← h.globs]
  cases r.exact uri with
  | some slt => simp
  | none =>
      simp only [Option.isSome_none, Bool.false_eq_true, false_or]
      cases hspelled : d.m_globs.find? (·.1 == uri) with
      | none =>
          have hnone := find?_key_eq_none.mp hspelled
          cases d.m_globs.find? (globMatches fnmatch uri) with
          | none =>
              refine iff_of_true rfl fun slt hmem => ?_
              exact absurd rfl (hnone _ hmem)
          | some it =>
              constructor
              · intro heq
                exact .inr ⟨heq.symm, hnone⟩
              · rintro (hmem | ⟨heq, -⟩)
                · exact absurd rfl (hnone _ hmem)
                · exact heq.symm
      | some it =>
          obtain ⟨p, slt⟩ := it
          obtain rfl : p = uri := by simpa using List.find?_some hspelled
          have hit := List.mem_of_find?_eq_some hspelled
          have honly : ∀ slt', (p, slt') ∈ d.m_globs → slt' = slt := by
            intro slt' hmem
            have hfound := find?_key_of_mem hdistinct hmem
            cases hspelled.symm.trans hfound
            rfl
          cases d.m_globs.find? (globMatches fnmatch p) with
          | none =>
              constructor
              · rintro heq slt' hmem
                exact (honly slt' hmem).trans heq
              · intro hall
                exact hall slt hit
          | some it =>
              constructor
              · rintro rfl
                exact .inl hit
              · rintro (hmem | ⟨-, hnone⟩)
                · exact (honly _ hmem).symm
                · exact absurd rfl (hnone _ hit)

/-- What is kept in a run that meets the condition. -/
structure Kept (notFound : σ) (q : ServletDispath σ × Registry σ) : Prop where
  holds : Holds q.1 q.2
  distinct : Distinct q.1
  m_default : q.1.m_default = some notFound

theorem kept_new {notFound : σ} : Kept notFound (new notFound, .empty) := ⟨⟨fun _ => rfl, rfl⟩, distinct_new, rfl⟩

section Serving

variable {notFound : σ} {q q' : ServletDispath σ × Registry σ} {u : Use σ}

theorem Kept.served_iff (h : Kept notFound q) : Served fnmatch notFound q u ↔ Meets fnmatch notFound q u := by
  cases u with
  | call c => exact h.holds.call_iff h.distinct
  | request uri => exact h.holds.request_iff h.distinct h.m_default

theorem Kept.step (h : Kept notFound q) (hmeets : Meets fnmatch notFound q u)
    (hstep : (serving fnmatch notFound).step q u = .next q') : Kept notFound q' := by
  cases u with
  | call c =>
      cases hstep
      refine ⟨(h.holds.call_iff h.distinct).mpr hmeets, h.distinct.call hmeets, ?_⟩
      cases c <;> exact h.m_default
  | request uri =>
      cases hstep
      exact h

end Serving

/-- In a run of registrations and requests every registration is kept and every request gets the servlet registered for
it exactly when every registration finds its own pattern first and the path of every request is settled. -/
theorem served_run_iff (fnmatch : Fnmatch) (notFound : σ) (uses : List (Use σ)) :
    (∀ q ∈ (serving fnmatch notFound).trace (new notFound, .empty) uses, Served fnmatch notFound q.1 q.2) ↔
      ∀ q ∈ (serving fnmatch notFound).trace (new notFound, .empty) uses, Meets fnmatch notFound q.1 q.2 := by
  have hgood : ∀ q u, Kept notFound q → (serving fnmatch notFound).step q u ≠ .blocked →
      (Served fnmatch notFound q u ↔ Meets fnmatch notFound q u) := fun q u hq _ => hq.served_iff
  exact System.trace_iff hgood (fun q u q' hq hmeets hstep => hq.step hmeets hstep) kept_new uses

/-- The star does not serve a path it matches. -/
theorem not_served_a : ¬ ∀ (fnmatch : Fnmatch) (notFound : Nat) (uses : List (Use Nat)),
    ∀ q ∈ (serving fnmatch notFound).trace (new notFound, .empty) uses, ∀ uri, q.2 = .request uri →
      q.1.1.getMatchedServlet uri = (q.1.2.servlet fnmatch uri).getD (some notFound) := by
  intro h
  have hserved := h star 0 [.call (.addGlobServlet (ascii "/*") (some 1)), .request (ascii "/a")] _
    (.tail _ (.head _)) (ascii "/a") rfl
  exact absurd hserved (by decide)

end Mingfwq.Http.ServletDispath
