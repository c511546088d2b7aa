import Mathlib.Data.List.TakeWhile

/-!
# Ordered sets over a comparator

A set is a list, an iterator a position in it; the end is the length. The comparator `lt` is a strict order. It may
depend on a state that changes, so nothing here assumes that a list is sorted once and for all.
-/

namespace Mingfwq.Lib.OrderedSet

variable {α : Type} (lt : α → α → Bool)

/-- The first element that is not before `x`. -/
def lowerBound (l : List α) (x : α) : Nat := l.findIdx fun e => !lt e x

/-- The element equivalent to `x`, or the end. -/
def find (l : List α) (x : α) : Nat :=
  match l[lowerBound lt l x]? with
  | some e => if lt x e then l.length else lowerBound lt l x
  | none => l.length

/-- Where the element now is, and the set; an equivalent element stays and `x` is not inserted. -/
def insert (l : List α) (x : α) : Nat × List α :=
  let it := lowerBound lt l x
  match l[it]? with
  | some e => if lt x e then (it, l.take it ++ x :: l.drop it) else (it, l)
  | none => (it, l ++ [x])

abbrev Sorted (l : List α) : Prop := l.Pairwise (lt · ·)

variable {lt} {l : List α} {x : α}

theorem take_lowerBound : l.take (lowerBound lt l x) = l.takeWhile (lt · x) :=
  List.takeWhile_eq_take_findIdx_not.symm

theorem drop_lowerBound : l.drop (lowerBound lt l x) = l.dropWhile (lt · x) :=
  List.dropWhile_eq_drop_findIdx_not.symm

/-- Where `p` fails it goes on to fail. -/
theorem not_of_mem_dropWhile {p : α → Bool} (h : l.Pairwise fun a b => p b → p a) :
    ∀ e ∈ l.dropWhile p, p e = false := by
  induction l with
  | nil => simp
  | cons d l ih =>
      obtain ⟨hd, hl⟩ := List.pairwise_cons.mp h
      by_cases hp : p d
      · rw [List.dropWhile_cons_of_pos hp]
        exact ih hl
      · rw [List.dropWhile_cons_of_neg hp]
        intro e he
        rcases List.mem_cons.mp he with rfl | he
        · exact by simpa using hp
        · by_contra hpe
          exact hp (hd e he (by simpa using hpe))

/-- In a sorted set the elements from the lower bound on are not before `x`. -/
theorem not_lt_of_mem_dropWhile (htrans : ∀ a b c, lt a b → lt b c → lt a c) (h : Sorted lt l) :
    ∀ e ∈ l.dropWhile (lt · x), lt e x = false :=
  not_of_mem_dropWhile (h.imp fun hab hbx => htrans _ _ _ hab hbx)

/-- `find` finds an element of a sorted set. -/
theorem find_of_mem (hirrefl : ∀ a, lt a a = false) (h : Sorted lt l) (hx : x ∈ l) :
    ∃ a b, l = a ++ x :: b ∧ find lt l x = a.length := by
  obtain ⟨a, b, rfl⟩ := List.append_of_mem hx
  refine ⟨a, b, rfl, ?_⟩
  have hbefore : ∀ e ∈ a, (!lt e x) = false := by
    intro e he
    simp [(List.pairwise_append.mp h).2.2 e he x List.mem_cons_self]
  have hbound : lowerBound lt (a ++ x :: b) x = a.length := by
    rw [lowerBound, List.findIdx_append, if_neg (by simpa using hbefore), List.findIdx_cons]
    simp [hirrefl]
  rw [find, hbound, List.getElem?_append_right (Nat.le_refl _), Nat.sub_self]
  simp [hirrefl]

/-- `find` finds the element that is neither before `x` nor behind it. -/
theorem getElem?_find (hweak : ∀ a b c, lt a b → lt c b = false → lt a c) (h : Sorted lt l) {e : α} :
    l[find lt l x]? = some e ↔ e ∈ l ∧ lt e x = false ∧ lt x e = false := by
  constructor
  · intro hfind
    rw [find] at hfind
    split at hfind
    · next d hd =>
        split at hfind
        · simp at hfind
        · next hxd =>
            cases hd.symm.trans hfind
            obtain ⟨hlt, hget⟩ := List.getElem?_eq_some_iff.mp hd
            have hbound : (!lt l[lowerBound lt l x] x) = true := List.findIdx_getElem (w := hlt)
            rw [hget] at hbound
            exact ⟨List.mem_of_getElem? hd, by simpa using hbound, by simpa using hxd⟩
    · simp at hfind
  · rintro ⟨hmem, hex, hxe⟩
    obtain ⟨a, b, rfl⟩ := List.append_of_mem hmem
    have hbefore : ∀ d ∈ a, (!lt d x) = false := by
      intro d hd
      have hde := (List.pairwise_append.mp h).2.2 d hd e List.mem_cons_self
      simp [hweak d e x hde hxe]
    have hbound : lowerBound lt (a ++ e :: b) x = a.length := by
      rw [lowerBound, List.findIdx_append, if_neg (by simpa using hbefore), List.findIdx_cons]
      simp [hex]
    rw [find, hbound, List.getElem?_append_right (Nat.le_refl _), Nat.sub_self]
    simp [hxe]

theorem insert_of_equivalent (hweak : ∀ a b c, lt a b → lt c b = false → lt a c) (h : Sorted lt l) {e : α}
    (hmem : e ∈ l) (hex : lt e x = false) (hxe : lt x e = false) : (insert lt l x).2 = l := by
  have hfind := (getElem?_find hweak h).mpr ⟨hmem, hex, hxe⟩
  simp only [insert]
  rw [find] at hfind
  split at hfind
  · next d hd =>
      split at hfind
      · simp at hfind
      · next hxd => simp only [if_neg hxd]
  · simp at hfind

theorem insert_eq (h : ∀ e ∈ l, lt e x ∨ lt x e) :
    insert lt l x = (lowerBound lt l x, l.takeWhile (lt · x) ++ x :: l.dropWhile (lt · x)) := by
  have hsplit : l = l.takeWhile (lt · x) ++ l.dropWhile (lt · x) := List.takeWhile_append_dropWhile.symm
  have hget : l[lowerBound lt l x]? = (l.dropWhile (lt · x)).head? := by
    rw [← drop_lowerBound, List.head?_drop]
  simp only [insert, hget, take_lowerBound, drop_lowerBound]
  cases hrest : l.dropWhile (lt · x) with
  | nil =>
      rw [hrest, List.append_nil] at hsplit
      rw [← hsplit]
      simp
  | cons e b =>
      have hnot : ¬ lt e x := by
        have := List.head_dropWhile_not (lt · x) (l := l) (by simp [hrest])
        simpa [hrest] using this
      have hmem : e ∈ l := by
        rw [hsplit, hrest]
        simp
      have hlt : lt x e := (h e hmem).resolve_left hnot
      simp [hlt]

theorem insert_back (h : ∀ e ∈ l, lt e x) : (insert lt l x).2 = l ++ [x] := by
  rw [insert_eq fun e he => .inl (h e he), List.takeWhile_eq_self_iff.mpr h, List.dropWhile_eq_nil_iff.mpr h]

theorem mem_insert (h : ∀ e ∈ l, lt e x ∨ lt x e) {e : α} : e ∈ (insert lt l x).2 ↔ e = x ∨ e ∈ l := by
  have hsplit : e ∈ l ↔ e ∈ l.takeWhile (lt · x) ∨ e ∈ l.dropWhile (lt · x) := by
    rw [← List.mem_append, List.takeWhile_append_dropWhile]
  rw [insert_eq h, hsplit]
  simp only [List.mem_append, List.mem_cons]
  exact or_left_comm

theorem insert_perm (h : ∀ e ∈ l, lt e x ∨ lt x e) : (insert lt l x).2.Perm (x :: l) := by
  rw [insert_eq h]
  have hsplit : l.takeWhile (lt · x) ++ l.dropWhile (lt · x) = l := List.takeWhile_append_dropWhile
  exact List.perm_middle.trans (.of_eq (congrArg (x :: ·) hsplit))

theorem insert_sorted (htrans : ∀ a b c, lt a b → lt b c → lt a c) (h : ∀ e ∈ l, lt e x ∨ lt x e)
    (hl : Sorted lt l) : Sorted lt (insert lt l x).2 := by
  rw [insert_eq h]
  have hsplit := List.takeWhile_append_dropWhile (p := (lt · x)) (l := l)
  rw [← hsplit] at hl
  obtain ⟨htake, hdrop, hcross⟩ := List.pairwise_append.mp hl
  have hbefore : ∀ e ∈ l.takeWhile (lt · x), lt e x := fun e he =>
    List.mem_takeWhile_imp (p := (lt · x)) he
  have hafter : ∀ e ∈ l.dropWhile (lt · x), lt x e := by
    intro e he
    have hnot := not_lt_of_mem_dropWhile htrans (hsplit ▸ hl) e he
    have hmem : e ∈ l := List.dropWhile_subset _ he
    exact (h e hmem).resolve_left (by simp [hnot])
  apply List.pairwise_append.mpr
  refine ⟨htake, List.pairwise_cons.mpr ⟨hafter, hdrop⟩, ?_⟩
  intro e he e' he'
  rcases List.mem_cons.mp he' with rfl | he'
  · exact hbefore e he
  · exact hcross e he e' he'

theorem head?_insert (h : ∀ e ∈ l, lt e x ∨ lt x e) :
    (insert lt l x).2.head? = if (insert lt l x).1 = 0 then some x else l.head? := by
  rw [insert_eq h]
  cases l with
  | nil => rfl
  | cons d l =>
      by_cases hdx : lt d x
      · simp [lowerBound, List.findIdx_cons, hdx]
      · simp [lowerBound, List.findIdx_cons, hdx]

theorem insert_front (hirrefl : ∀ a, lt a a = false) (htrans : ∀ a b c, lt a b → lt b c → lt a c)
    (h : ∀ e ∈ l, lt e x ∨ lt x e) (hl : Sorted lt l) : (insert lt l x).1 = 0 ↔ ∀ e ∈ l, lt x e := by
  rw [insert_eq h]
  cases l with
  | nil => simp [lowerBound]
  | cons d l =>
      obtain ⟨hd, -⟩ := List.pairwise_cons.mp hl
      by_cases hdx : lt d x
      · have hnot : ¬ lt x d := by
          intro hxd
          have := htrans x d x hxd hdx
          rw [hirrefl] at this
          cases this
        simp [lowerBound, List.findIdx_cons, hdx, hnot]
      · have hxd : lt x d := (h d List.mem_cons_self).resolve_left hdx
        simpa [lowerBound, List.findIdx_cons, hdx, hxd] using fun e he => htrans x d e hxd (hd e he)

end Mingfwq.Lib.OrderedSet
