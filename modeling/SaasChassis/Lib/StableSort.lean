/-
  Where a stable sort puts two elements. Nothing here names a program.

  `[a, b].Sublist l` says that `a` stands before `b` in `l`. In a list without duplicates exactly
  one of two elements stands before the other (`before_or_before`, `not_before_of_before`), and
  the sorted list has `a` before `b` when `a` is below `b`, or level with it and before it already
  (`before_insertionSort_iff`). The `before_append` lemmas are for a list taken element by element.

  `insertionSort_cut`: where a predicate holds of elements below all others, sorting and cutting
  there is cutting and sorting each part.
-/
import Mathlib.Data.List.Sort

namespace SaasChassis.Lib

variable {α : Type} {l : List α} {a b : α}

theorem before_or_before (ha : a ∈ l) (hb : b ∈ l) (hne : a ≠ b) :
    [a, b].Sublist l ∨ [b, a].Sublist l := by
  induction l with
  | nil => cases ha
  | cons x l ih =>
    rcases List.mem_cons.mp ha with rfl | ha'
    · have hb' : b ∈ l := (List.mem_cons.mp hb).resolve_left hne.symm
      exact Or.inl ((List.singleton_sublist.mpr hb').cons_cons a)
    · rcases List.mem_cons.mp hb with rfl | hb'
      · exact Or.inr ((List.singleton_sublist.mpr ha').cons_cons b)
      · exact (ih ha' hb').imp (·.cons x) (·.cons x)

theorem not_before_of_before (hl : l.Nodup) (h : [a, b].Sublist l) : ¬[b, a].Sublist l := by
  induction l with
  | nil => cases h
  | cons x l ih =>
    obtain ⟨hx, hl⟩ := List.nodup_cons.mp hl
    intro h'
    cases h with
    | cons _ h =>
      cases h' with
      | cons _ h' => exact ih hl h h'
      | cons_cons _ _ => exact hx (h.subset (List.mem_cons_of_mem a (List.mem_singleton_self _)))
    | cons_cons _ h =>
      cases h' with
      | cons _ h' => exact hx (h'.subset (List.mem_cons_of_mem b (List.mem_singleton_self _)))
      | cons_cons _ _ => exact hx (List.singleton_sublist.mp h)

theorem before_append_of_ne {x : α} (h : b ≠ x) :
    [a, b].Sublist (l ++ [x]) ↔ [a, b].Sublist l := by
  constructor
  · intro hab
    obtain ⟨l₁, l₂, he, h₁, h₂⟩ := List.sublist_append_iff.mp hab
    rcases List.sublist_singleton.mp h₂ with rfl | rfl
    · rw [he, List.append_nil]
      exact h₁
    · have hlast := congrArg List.getLast? he
      rw [List.getLast?_concat] at hlast
      exact absurd (Option.some.inj hlast) h
  · exact fun hab => hab.trans (List.sublist_append_left l [x])

theorem before_append_self (h : b ∉ l) : [a, b].Sublist (l ++ [b]) ↔ a ∈ l := by
  constructor
  · intro hab
    obtain ⟨l₁, l₂, he, h₁, h₂⟩ := List.sublist_append_iff.mp hab
    rcases List.sublist_singleton.mp h₂ with rfl | rfl
    · rw [List.append_nil] at he
      exact absurd (h₁.subset (he ▸ List.mem_cons_of_mem a (List.mem_singleton_self b))) h
    · have hone : l₁ = [a] := (List.append_inj_left' he rfl).symm
      exact List.singleton_sublist.mp (hone ▸ h₁)
  · exact fun ha => (List.singleton_sublist.mpr ha).append (List.Sublist.refl [b])

variable {r : α → α → Prop} [DecidableRel r] [Std.Total r] [IsTrans α r]

/-- Sorted by `r`, `a` stands before `b` when it is below `b`, or level with it and before it
    already. -/
theorem before_insertionSort_iff (hl : l.Nodup) (ha : a ∈ l) (hb : b ∈ l) :
    [a, b].Sublist (l.insertionSort r) ↔ r a b ∧ (r b a → [a, b].Sublist l) := by
  have hnd : (l.insertionSort r).Nodup := (List.perm_insertionSort r l).nodup_iff.mpr hl
  have hsorted : ∀ {x y}, [x, y].Sublist (l.insertionSort r) → r x y :=
    List.pairwise_iff_forall_sublist.mp (List.pairwise_insertionSort r l)
  rcases eq_or_ne a b with rfl | hne
  · have hself : ∀ {l' : List α}, l'.Nodup → ¬[a, a].Sublist l' :=
      fun hl' h => not_before_of_before hl' h h
    exact iff_of_false (hself hnd) fun h => hself hl (h.2 h.1)
  · constructor
    · intro h
      refine ⟨hsorted h, fun hba => ?_⟩
      rcases before_or_before ha hb hne with hab | hba'
      · exact hab
      · exact absurd (List.pair_sublist_insertionSort hba hba') (not_before_of_before hnd h)
    · rintro ⟨hab, htie⟩
      rcases before_or_before ((List.mem_insertionSort r).mpr ha)
          ((List.mem_insertionSort r).mpr hb) hne with h | h
      · exact h
      · exact List.pair_sublist_insertionSort hab (htie (hsorted h))

/-! ## Cutting a sorted list -/

omit [Std.Total r] [IsTrans α r] in
theorem orderedInsert_append_left {x : α} {l₁ l₂ : List α} (h : ∀ y ∈ l₂, r x y) :
    (l₁ ++ l₂).orderedInsert r x = l₁.orderedInsert r x ++ l₂ := by
  induction l₁ with
  | nil =>
    cases l₂ with
    | nil => rfl
    | cons y l₂ => exact List.orderedInsert_cons_of_le r l₂ (h y List.mem_cons_self)
  | cons z l₁ ih =>
    by_cases hz : r x z
    · rw [List.cons_append, List.orderedInsert_cons_of_le r _ hz,
        List.orderedInsert_cons_of_le r _ hz]
      rfl
    · rw [List.cons_append, List.orderedInsert_of_not_le r _ hz,
        List.orderedInsert_of_not_le r _ hz, ih]
      rfl

omit [Std.Total r] [IsTrans α r] in
theorem orderedInsert_append_right {x : α} {l₁ l₂ : List α} (h : ∀ y ∈ l₁, ¬r x y) :
    (l₁ ++ l₂).orderedInsert r x = l₁ ++ l₂.orderedInsert r x := by
  induction l₁ with
  | nil => rfl
  | cons z l₁ ih =>
    rw [List.cons_append, List.orderedInsert_of_not_le r _ (h z List.mem_cons_self),
      ih fun y hy => h y (List.mem_cons_of_mem z hy)]
    rfl

omit [Std.Total r] [IsTrans α r] in
/-- Elements with `p` are below all others: the sorted list is the sorted part with `p`, then the
    sorted part without. -/
theorem insertionSort_cut {p : α → Bool} (h : ∀ x y, p x = true → p y = false → r x y ∧ ¬r y x)
    (l : List α) :
    l.insertionSort r =
      (l.filter p).insertionSort r ++ (l.filter fun x => !p x).insertionSort r := by
  induction l with
  | nil => rfl
  | cons x l ih =>
    have hsub : ∀ {q : α → Bool} {y}, y ∈ (l.filter q).insertionSort r → q y = true := fun hy =>
      (List.mem_filter.mp ((List.mem_insertionSort r).mp hy)).2
    rw [List.insertionSort_cons, ih]
    cases hx : p x with
    | true =>
      rw [List.filter_cons_of_pos hx, List.filter_cons_of_neg (by simp [hx]),
        List.insertionSort_cons, orderedInsert_append_left]
      exact fun y hy => (h x y hx (by simpa using hsub hy)).1
    | false =>
      rw [List.filter_cons_of_neg (by simp [hx]), List.filter_cons_of_pos (by simp [hx]),
        List.insertionSort_cons, orderedInsert_append_right]
      exact fun y hy => (h y x (hsub hy) hx).2

end SaasChassis.Lib
