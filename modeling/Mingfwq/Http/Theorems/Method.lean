import Mathlib.Data.List.TakeWhile
import Mingfwq.Http.Lemmas.Agree

/-!
# The method of a request

The lookup that the parser uses compares only as many bytes as a name has, so what stands behind a name is not seen.
-/

namespace Mingfwq.Http

open Lib

variable {t rest : Bytes} {parsed : Parsed HttpRequest}

/-- `Method` of http11_parser.rl: 1 to 20 upper-case letters and digits. -/
structure Method (t : Bytes) : Prop where
  pos : 1 ≤ t.length
  le : t.length ≤ 20
  chars : ∀ c ∈ t, 65 ≤ c ∧ c ≤ 90 ∨ 48 ≤ c ∧ c ≤ 57

/-- The parser takes the token for what the exact lookup takes it for, and any other for an error. -/
def Classified (t rest : Bytes) (parsed : Parsed HttpRequest) : Prop :=
  CharsToHttpMethod (t ++ 32 :: rest) = StringToHttpMethod t ∧
    on_request_method parsed (t ++ 32 :: rest) t.length = some
      (if StringToHttpMethod t = .INVALID_METHOD then { parsed with m_error := 1000 }
      else { parsed with m_data := { parsed.m_data with m_method := StringToHttpMethod t } })

/-- The token is a name with further letters or digits. -/
def Extends (t : Bytes) : Prop := ∃ m ∈ HTTP_METHOD_MAP, ascii m.2 <+: t ∧ ascii m.2 ≠ t

theorem names_blank : ∀ m ∈ HTTP_METHOD_MAP, 32 ∉ ascii m.2 := by decide

theorem names_apart : ∀ m ∈ HTTP_METHOD_MAP, ∀ m' ∈ HTTP_METHOD_MAP, (ascii m.2).isPrefixOf (ascii m'.2) = true →
    m = m' := by
  decide +kernel

theorem methods_valid : ∀ m ∈ HTTP_METHOD_MAP, m.1 ≠ .INVALID_METHOD := by decide

theorem CharsToHttpMethod_eq : CharsToHttpMethod (t ++ 32 :: rest) =
    ((HTTP_METHOD_MAP.find? fun m => (ascii m.2).isPrefixOf t).map (·.1)).getD .INVALID_METHOD := by
  have hfind : HTTP_METHOD_MAP.find? (fun m => (ascii m.2).isPrefixOf (t ++ 32 :: rest)) =
      HTTP_METHOD_MAP.find? fun m => (ascii m.2).isPrefixOf t := by
    rw [← List.head?_filter, ← List.head?_filter]
    congr 1
    exact List.filter_congr fun m hm => isPrefixOf_blank (names_blank m hm)
  rw [CharsToHttpMethod, hfind]
  cases HTTP_METHOD_MAP.find? fun m => (ascii m.2).isPrefixOf t with
  | none => rfl
  | some m => rfl

theorem Method.takeWhile (h : Method t) : t.takeWhile (· != 0) = t := by
  refine List.takeWhile_eq_self_iff.mpr fun c hc => ?_
  rcases h.chars c hc with h | h
  · have hne : c ≠ 0 := by
      rintro rfl
      exact absurd h.1 (by decide)
    simpa using hne
  · have hne : c ≠ 0 := by
      rintro rfl
      exact absurd h.1 (by decide)
    simpa using hne

theorem StringToHttpMethod_eq (h : Method t) : StringToHttpMethod t =
    ((HTTP_METHOD_MAP.find? fun m => ascii m.2 == t).map (·.1)).getD .INVALID_METHOD := by
  rw [StringToHttpMethod, h.takeWhile]
  cases HTTP_METHOD_MAP.find? fun m => ascii m.2 == t with
  | none => rfl
  | some m => rfl

theorem lookup_eq (h : Method t) (hext : ¬Extends t) : CharsToHttpMethod (t ++ 32 :: rest) = StringToHttpMethod t := by
  have hfind : HTTP_METHOD_MAP.find? (fun m => (ascii m.2).isPrefixOf t) =
      HTTP_METHOD_MAP.find? fun m => ascii m.2 == t := by
    rw [← List.head?_filter, ← List.head?_filter]
    congr 1
    refine List.filter_congr fun m hm => Bool.eq_iff_iff.mpr ?_
    rw [List.isPrefixOf_iff_prefix, beq_iff_eq]
    constructor
    · intro hpre
      by_contra hne
      exact hext ⟨m, hm, hpre, hne⟩
    · rintro rfl
      exact List.prefix_refl _
  rw [CharsToHttpMethod_eq, StringToHttpMethod_eq h, hfind]

theorem lookup_ne (h : Method t) (hext : Extends t) : CharsToHttpMethod (t ++ 32 :: rest) ≠ StringToHttpMethod t := by
  obtain ⟨m, hm, hpre, hne⟩ := hext
  have hnone : HTTP_METHOD_MAP.find? (fun m => ascii m.2 == t) = none := by
    refine List.find?_eq_none.mpr fun m' hm' heq => hne ?_
    rw [beq_iff_eq] at heq
    have hsame := names_apart m hm m' hm' (List.isPrefixOf_iff_prefix.mpr (heq ▸ hpre))
    rw [hsame, heq]
  rw [CharsToHttpMethod_eq, StringToHttpMethod_eq h, hnone]
  cases hfind : HTTP_METHOD_MAP.find? fun m => (ascii m.2).isPrefixOf t with
  | none =>
      have hnot := List.find?_eq_none.mp hfind m hm
      exact absurd (List.isPrefixOf_iff_prefix.mpr hpre) hnot
  | some found =>
      obtain ⟨method, name⟩ := found
      exact methods_valid _ (List.mem_of_find?_eq_some hfind)

theorem on_request_method_eq : on_request_method parsed (t ++ 32 :: rest) t.length = some
    (if CharsToHttpMethod (t ++ 32 :: rest) = .INVALID_METHOD then { parsed with m_error := 1000 }
    else { parsed with m_data := { parsed.m_data with m_method := CharsToHttpMethod (t ++ 32 :: rest) } }) := by
  have hstring : stdString (t ++ 32 :: rest) t.length = some t := by
    rw [stdString, if_pos (by simp), List.take_left]
  rw [on_request_method, hstring]
  dsimp only
  split
  · rfl
  · rfl

/-- The fast lookup is the exact one on every token but the names with something appended. -/
theorem classified_iff (h : Method t) (rest : Bytes) (parsed : Parsed HttpRequest) :
    Classified t rest parsed ↔ ¬Extends t := by
  constructor
  · intro hclassified hext
    exact lookup_ne h hext hclassified.1
  · intro hext
    have heq : CharsToHttpMethod (t ++ 32 :: rest) = StringToHttpMethod t := lookup_eq h hext
    refine ⟨heq, ?_⟩
    rw [on_request_method_eq, heq]

/-- `GET` and its neighbours in the alphabet. -/
theorem classified_iff_ge : Classified (ascii "GE") [] ⟨.new, 0⟩ :=
  (classified_iff ⟨by decide, by decide, forall_mem_of_all (by decide)⟩ _ _).mpr (by unfold Extends; decide)

/-- `GETX` is taken for `GET`. -/
theorem not_classified_getx :
    ¬ ∀ (t rest : Bytes) (parsed : Parsed HttpRequest), Method t → Classified t rest parsed := by
  intro h
  have hclassified := (h (ascii "GETX") [] ⟨.new, 0⟩
    ⟨by decide, by decide, forall_mem_of_all (by decide)⟩).1
  have hfast : CharsToHttpMethod (ascii "GETX" ++ [32]) = .GET := by decide +kernel
  have hexact : StringToHttpMethod (ascii "GETX") = .INVALID_METHOD := by decide +kernel
  rw [hfast, hexact] at hclassified
  cases hclassified

end Mingfwq.Http
