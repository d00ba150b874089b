/-
  Tables as row lists with a key, in any row type. Nothing here names a program.

  `updateKey key k f` rewrites the rows whose key is `k`, as an `UPDATE ... WHERE key = k`
  does. With unique keys it changes one row, so a sum over the rows changes by that row's
  difference (`sum_map_updateKey`). `sum_map_filter` turns a sum over selected rows into a sum
  over all rows; `nodup_keys_inj` and `find?_key` read a key's row back, `find?_replaced` a row that
  was searched for and replaced; `countP_key` counts rows by their keys. `groupBy` is a grouping
  into an association list with one group per key (`lookup_groupBy`, `sum_groupBy`).
-/
import Mathlib.Algebra.BigOperators.Group.List.Basic
import Mathlib.Data.List.Nodup
import Mathlib.Tactic.Abel

namespace SaasChassis.Lib

variable {ρ κ M : Type}

section Keys

variable [DecidableEq κ]

/-- The table after `f` on the rows with key `k`. -/
def updateKey (key : ρ → κ) (k : κ) (f : ρ → ρ) (rows : List ρ) : List ρ :=
  rows.map fun r => if key r = k then f r else r

theorem mem_updateKey {key : ρ → κ} {k : κ} {f : ρ → ρ} {rows : List ρ} {r : ρ} :
    r ∈ updateKey key k f rows ↔
      (∃ q ∈ rows, key q = k ∧ r = f q) ∨ (r ∈ rows ∧ key r ≠ k) := by
  simp only [updateKey, List.mem_map]
  constructor
  · rintro ⟨q, hq, rfl⟩
    by_cases h : key q = k
    · exact Or.inl ⟨q, hq, h, if_pos h⟩
    · rw [if_neg h]
      exact Or.inr ⟨hq, h⟩
  · rintro (⟨q, hq, h, rfl⟩ | ⟨hr, h⟩)
    · exact ⟨q, hq, if_pos h⟩
    · exact ⟨r, hr, if_neg h⟩

/-- What becomes of a row. -/
theorem image_updateKey {key : ρ → κ} {f : ρ → ρ} {rows : List ρ} {r : ρ} (hr : r ∈ rows)
    (k : κ) : ∃ r' ∈ updateKey key k f rows, (key r = k ∧ r' = f r) ∨ (key r ≠ k ∧ r' = r) := by
  by_cases h : key r = k
  · exact ⟨f r, mem_updateKey.mpr (Or.inl ⟨r, hr, h, rfl⟩), Or.inl ⟨h, rfl⟩⟩
  · exact ⟨r, mem_updateKey.mpr (Or.inr ⟨hr, h⟩), Or.inr ⟨h, rfl⟩⟩

/-- A column that `f` does not write is read back unchanged. -/
theorem map_updateKey {β : Type} {key : ρ → κ} {k : κ} {f : ρ → ρ} (col : ρ → β)
    (h : ∀ r, col (f r) = col r) (rows : List ρ) :
    (updateKey key k f rows).map col = rows.map col := by
  rw [updateKey, List.map_map]
  refine List.map_congr_left fun r _ => ?_
  by_cases hk : key r = k <;> simp [hk, h]

/-- The keys stay if `f` keeps the one it is for. -/
theorem map_key_updateKey {key : ρ → κ} {k : κ} {f : ρ → ρ} (h : ∀ r, key r = k → key (f r) = k)
    (rows : List ρ) : (updateKey key k f rows).map key = rows.map key := by
  rw [updateKey, List.map_map]
  refine List.map_congr_left fun r _ => ?_
  by_cases hk : key r = k
  · simp [hk, h r hk]
  · simp [hk]

/-- A table seen through `col`, key and new values with it. -/
theorem map_updateKey_of {β : Type} {key : β → κ} {k : κ} {f : β → β} {g : ρ → ρ} (col : ρ → β)
    (h : ∀ r, col (g r) = f (col r)) (rows : List ρ) :
    (updateKey (fun r => key (col r)) k g rows).map col = updateKey key k f (rows.map col) := by
  rw [updateKey, updateKey, List.map_map, List.map_map]
  refine List.map_congr_left fun r _ => ?_
  by_cases hk : key (col r) = k <;> simp [hk, h]

omit [DecidableEq κ] in
/-- Unique keys: two rows with one key are the same row. -/
theorem nodup_keys_inj {key : ρ → κ} {rows : List ρ} (hnd : (rows.map key).Nodup) {r q : ρ}
    (hr : r ∈ rows) (hq : q ∈ rows) (h : key r = key q) : r = q :=
  List.inj_on_of_nodup_map hnd hr hq h

/-- Unique keys: looking a row's key up finds the row. -/
theorem find?_key {key : ρ → κ} {rows : List ρ} (hnd : (rows.map key).Nodup) {r : ρ}
    (hr : r ∈ rows) : rows.find? (key · = key r) = some r := by
  cases h : rows.find? (key · = key r) with
  | none => simpa using List.find?_eq_none.mp h r hr
  | some q =>
    have hq : key q = key r := by simpa using List.find?_some h
    rw [nodup_keys_inj hnd (List.mem_of_find?_eq_some h) hr hq]

omit [DecidableEq κ] in
/-- With unique keys, rows are counted by counting their keys. -/
theorem countP_key {key : ρ → κ} {rows : List ρ} (hnd : (rows.map key).Nodup) {ks : List κ}
    (hks : ks.Nodup) {p : ρ → Bool} {q : κ → Bool}
    (h : ∀ k, (∃ r ∈ rows, p r = true ∧ key r = k) ↔ k ∈ ks ∧ q k = true) :
    rows.countP p = ks.countP q := by
  have hperm : ((rows.filter p).map key).Perm (ks.filter q) := by
    refine (List.perm_ext_iff_of_nodup ?_ (hks.filter _)).mpr fun k => ?_
    · exact hnd.sublist (List.filter_sublist.map key)
    · rw [List.mem_map, List.mem_filter, ← h]
      simp only [List.mem_filter, and_assoc]
  rw [List.countP_eq_length_filter, List.countP_eq_length_filter, ← hperm.length_eq,
    List.length_map]

theorem updateKey_eq_self_iff {key : ρ → κ} {k : κ} {f : ρ → ρ} {rows : List ρ} :
    updateKey key k f rows = rows ↔ ∀ r ∈ rows, key r = k → f r = r := by
  have hid : updateKey key k f rows = rows ↔ ∀ r ∈ rows, (if key r = k then f r else r) = id r := by
    rw [← List.map_inj_left, List.map_id]
    rfl
  rw [hid]
  refine forall₂_congr fun r _ => ?_
  by_cases h : key r = k <;> simp [h]

theorem updateKey_of_notMem {key : ρ → κ} {k : κ} {f : ρ → ρ} {rows : List ρ}
    (h : ∀ r ∈ rows, key r ≠ k) : updateKey key k f rows = rows := by
  rw [updateKey]
  exact (List.map_congr_left fun r hr => if_neg (h r hr)).trans (List.map_id rows)

/-- With unique keys, rewriting the row `e` writes the one value `f e`. -/
theorem updateKey_const {key : ρ → κ} {f : ρ → ρ} {rows : List ρ} (hnd : (rows.map key).Nodup)
    {e : ρ} (he : e ∈ rows) :
    updateKey key (key e) f rows = updateKey key (key e) (fun _ => f e) rows := by
  refine List.map_congr_left fun r hr => ?_
  by_cases h : key r = key e
  · rw [nodup_keys_inj hnd hr he h]
  · rw [if_neg h, if_neg h]

/-- With unique keys, the columns a new row shares with the row `e` it replaces stay. -/
theorem map_updateKey_const {β : Type} {key : ρ → κ} {rows : List ρ} (hnd : (rows.map key).Nodup)
    {e e' : ρ} (he : e ∈ rows) {col : ρ → β} (h : col e' = col e) :
    (updateKey key (key e) (fun _ => e') rows).map col = rows.map col := by
  rw [updateKey, List.map_map]
  refine List.map_congr_left fun r hr => ?_
  by_cases hk : key r = key e
  · simp [h, nodup_keys_inj hnd hr he hk]
  · simp [hk]

/-- A search that `f` does not disturb finds the same row, rewritten if it has the key. -/
theorem find?_updateKey {key : ρ → κ} {k : κ} {f : ρ → ρ} {rows : List ρ} {p : ρ → Bool}
    (hp : ∀ r ∈ rows, key r = k → p (f r) = p r) :
    (updateKey key k f rows).find? p =
      (rows.find? p).map fun r => if key r = k then f r else r := by
  have hcongr : ∀ r ∈ rows, (p ∘ fun r => if key r = k then f r else r) r = p r := by
    intro r hr
    by_cases hk : key r = k
    · simp [hk, hp r hr hk]
    · simp [hk]
  rw [updateKey, List.find?_map]
  congr 1
  clear hp
  induction rows with
  | nil => rfl
  | cons r rows ih =>
    rw [List.forall_mem_cons] at hcongr
    rw [List.find?_cons, List.find?_cons, hcongr.1, ih hcongr.2]

/-- The row that was found is replaced by one the search takes, and that one is found. -/
theorem find?_replaced {key : ρ → κ} {rows : List ρ} {p : ρ → Bool} {e e' : ρ}
    (h : rows.find? p = some e) (he : p e' = true) :
    (updateKey key (key e) (fun _ => e') rows).find? p = some e' := by
  induction rows with
  | nil => exact nomatch h
  | cons r rows ih =>
    show ((if key r = key e then e' else r) :: updateKey key (key e) (fun _ => e') rows).find? p = _
    by_cases hk : key r = key e
    · rw [if_pos hk, List.find?_cons_of_pos he]
    · -- the row that was found is not the first one
      have hr : p r = false := by
        by_contra hr
        rw [List.find?_cons_of_pos (by simpa using hr)] at h
        exact hk (congrArg key (Option.some.inj h))
      rw [List.find?_cons_of_neg (by simp [hr])] at h
      rw [if_neg hk, List.find?_cons_of_neg (by simp [hr])]
      exact ih h

/-- With unique keys, the row `e` stands at one place, and it alone is rewritten. -/
theorem updateKey_split {key : ρ → κ} {rows : List ρ} (hnd : (rows.map key).Nodup) {e : ρ}
    (he : e ∈ rows) (f : ρ → ρ) : ∃ before after, rows = before ++ e :: after ∧
      updateKey key (key e) f rows = before ++ f e :: after ∧
      (∀ r ∈ before, key r ≠ key e) ∧ ∀ r ∈ after, key r ≠ key e := by
  obtain ⟨before, after, rfl⟩ := List.append_of_mem he
  rw [List.map_append, List.map_cons] at hnd
  obtain ⟨-, htail, hdisjoint⟩ := List.nodup_append.mp hnd
  have hbefore : ∀ r ∈ before, key r ≠ key e := fun r hr =>
    hdisjoint (key r) (List.mem_map_of_mem hr) (key e) List.mem_cons_self
  have hafter : ∀ r ∈ after, key r ≠ key e := fun r hr hkey =>
    (List.nodup_cons.mp htail).1 (hkey ▸ List.mem_map_of_mem hr)
  have hparts : updateKey key (key e) f (before ++ e :: after) =
      updateKey key (key e) f before ++
        (if key e = key e then f e else e) :: updateKey key (key e) f after := List.map_append
  rw [updateKey_of_notMem hbefore, updateKey_of_notMem hafter, if_pos rfl] at hparts
  exact ⟨before, after, rfl, hparts, hbefore, hafter⟩

/-- With unique keys, a sum over the rows moves by the difference of the one row updated. -/
theorem sum_map_updateKey [AddCommGroup M] {key : ρ → κ} {f : ρ → ρ} {rows : List ρ}
    (hnd : (rows.map key).Nodup) {e : ρ} (he : e ∈ rows) (g : ρ → M) :
    ((updateKey key (key e) f rows).map g).sum = (rows.map g).sum - g e + g (f e) := by
  obtain ⟨before, after, hrows, hupdated, -, -⟩ := updateKey_split hnd he f
  rw [hupdated, hrows]
  simp only [List.map_append, List.map_cons, List.sum_append, List.sum_cons]
  abel

/-- With unique keys, a count moves by the one row updated. -/
theorem countP_updateKey {key : ρ → κ} {f : ρ → ρ} {rows : List ρ} (hnd : (rows.map key).Nodup)
    {e : ρ} (he : e ∈ rows) (p : ρ → Bool) :
    (updateKey key (key e) f rows).countP p + (if p e then 1 else 0) =
      rows.countP p + if p (f e) then 1 else 0 := by
  obtain ⟨before, after, hrows, hupdated, -, -⟩ := updateKey_split hnd he f
  rw [hupdated, hrows, List.countP_append, List.countP_append, List.countP_cons, List.countP_cons]
  abel

/-- With unique keys, a selection that takes the updated row and no other one. -/
theorem filter_updateKey {key : ρ → κ} {f : ρ → ρ} {rows : List ρ} (hnd : (rows.map key).Nodup)
    {e : ρ} (he : e ∈ rows) {p : ρ → Bool} (hother : ∀ r ∈ rows, key r ≠ key e → p r = false)
    (hp : p (f e) = true) : (updateKey key (key e) f rows).filter p = [f e] := by
  obtain ⟨before, after, hrows, hupdated, hbefore, hafter⟩ := updateKey_split hnd he f
  have hnone (l : List ρ) (hsub : l ⊆ rows) (hkeys : ∀ r ∈ l, key r ≠ key e) : l.filter p = [] :=
    List.filter_eq_nil_iff.mpr fun r hr => by simp [hother r (hsub hr) (hkeys r hr)]
  rw [hupdated, List.filter_append, List.filter_cons_of_pos hp,
    hnone before (by simp [hrows]) hbefore, hnone after (by simp [hrows]) hafter]
  rfl

/-- A selection that takes rows with the key neither before nor after. -/
theorem filter_updateKey_other {key : ρ → κ} {k : κ} {f : ρ → ρ} {p : ρ → Bool}
    (h : ∀ r, key r = k → p r = false ∧ p (f r) = false) (rows : List ρ) :
    (updateKey key k f rows).filter p = rows.filter p := by
  induction rows with
  | nil => rfl
  | cons r rows ih =>
    have hcons : updateKey key k f (r :: rows) =
        (if key r = k then f r else r) :: updateKey key k f rows := rfl
    rw [hcons]
    by_cases hr : key r = k
    · obtain ⟨hold, hnew⟩ := h r hr
      rw [if_pos hr, List.filter_cons_of_neg (by simp [hnew]),
        List.filter_cons_of_neg (by simp [hold]), ih]
    · rw [if_neg hr, List.filter_cons, List.filter_cons, ih]

/-- A selection that takes a row after the update if it takes it before. -/
theorem filter_updateKey_same {key : ρ → κ} {k : κ} {f : ρ → ρ} {p : ρ → Bool} {rows : List ρ}
    (h : ∀ r ∈ rows, key r = k → p (f r) = p r) :
    (updateKey key k f rows).filter p = updateKey key k f (rows.filter p) := by
  unfold updateKey
  rw [List.filter_map]
  congr 1
  refine List.filter_congr fun r hmem => ?_
  by_cases hr : key r = k
  · simp only [Function.comp_apply, if_pos hr, h r hmem hr]
  · simp only [Function.comp_apply, if_neg hr]

omit [DecidableEq κ] in
/-- A row that is searched for is found in any selection that would take it. -/
theorem find?_filter_of {p q : ρ → Bool} {rows : List ρ}
    (h : ∀ r ∈ rows, q r = true → p r = true) : (rows.filter p).find? q = rows.find? q := by
  induction rows with
  | nil => rfl
  | cons r rows ih =>
    obtain ⟨hr, hrows⟩ := List.forall_mem_cons.mp h
    by_cases hq : q r = true
    · rw [List.filter_cons_of_pos (hr hq), List.find?_cons_of_pos hq, List.find?_cons_of_pos hq]
    · rw [List.find?_cons_of_neg hq, ← ih hrows, List.filter_cons]
      split
      · rw [List.find?_cons_of_neg hq]
      · rfl

end Keys

/-! ## Grouping -/

section Grouping

variable [DecidableEq κ]

/-- One group per key: the key with its rows in order. -/
def groupBy (key : ρ → κ) (rows : List ρ) : List (κ × List ρ) :=
  (rows.map key).eraseDups.map fun k => (k, rows.filter (key · = k))

theorem lookup_map_graph {β : Type} (f : κ → β) (ks : List κ) (k : κ) :
    (ks.map fun k => (k, f k)).lookup k = if k ∈ ks then some (f k) else none := by
  induction ks with
  | nil => rfl
  | cons j ks ih =>
    rw [List.map_cons, List.lookup_cons, ih]
    by_cases h : k = j
    · subst h
      simp
    · simp [h, beq_eq_false_iff_ne.mpr h]

/-- Looking a key up in the groups, each reduced by `f`. -/
theorem lookup_groupBy {β : Type} (key : ρ → κ) (f : List ρ → β) (rows : List ρ) (k : κ) :
    ((groupBy key rows).map fun g => (g.1, f g.2)).lookup k =
      if k ∈ rows.map key then some (f (rows.filter (key · = k))) else none := by
  have e : (groupBy key rows).map (fun g => (g.1, f g.2)) =
      (rows.map key).eraseDups.map fun k => (k, f (rows.filter (key · = k))) := by
    rw [groupBy, List.map_map]
    rfl
  rw [e, lookup_map_graph]
  simp only [List.mem_eraseDups]

theorem nodup_eraseDups (ks : List κ) : ks.eraseDups.Nodup := by
  match ks with
  | [] => exact List.nodup_nil
  | k :: ks =>
    rw [List.eraseDups_cons]
    refine List.nodup_cons.mpr ⟨?_, nodup_eraseDups _⟩
    simp [List.mem_eraseDups]
termination_by ks.length
decreasing_by exact Nat.lt_succ_of_le (List.length_filter_le _ _)

theorem sum_map_ite_mem [AddCommMonoid M] {ks : List κ} (hks : ks.Nodup) {k : κ} (hk : k ∈ ks)
    (x : M) : (ks.map fun j => if k = j then x else 0).sum = x := by
  induction ks with
  | nil => cases hk
  | cons j ks ih =>
    rw [List.nodup_cons] at hks
    rw [List.map_cons, List.sum_cons]
    rcases List.mem_cons.mp hk with rfl | hk'
    · have hzero : ∀ y ∈ ks.map fun j => if k = j then x else 0, y = 0 := by
        intro y hy
        obtain ⟨j, hj, rfl⟩ := List.mem_map.mp hy
        refine if_neg ?_
        rintro rfl
        exact hks.1 hj
      rw [if_pos rfl, List.sum_eq_zero hzero, add_zero]
    · have hne : k ≠ j := by
        rintro rfl
        exact hks.1 hk'
      rw [if_neg hne, ih hks.2 hk', zero_add]

/-- Group by group, every row is counted once. -/
theorem sum_groupBy [AddCommMonoid M] (key : ρ → κ) (f : ρ → M) (rows : List ρ) :
    ((groupBy key rows).map fun g => (g.2.map f).sum).sum = (rows.map f).sum := by
  have hsum : ∀ {ks : List κ}, ks.Nodup → ∀ {rows : List ρ}, (∀ r ∈ rows, key r ∈ ks) →
      (ks.map fun k => ((rows.filter (key · = k)).map f).sum).sum = (rows.map f).sum := by
    intro ks hks rows
    induction rows with
    | nil => simp
    | cons r rows ih =>
      intro hmem
      rw [List.forall_mem_cons] at hmem
      have hcons : ∀ k, (((r :: rows).filter (key · = k)).map f).sum =
          (if key r = k then f r else 0) + ((rows.filter (key · = k)).map f).sum := by
        intro k
        by_cases h : key r = k <;> simp [h]
      simp only [hcons]
      rw [List.sum_map_add, ih hmem.2, sum_map_ite_mem hks hmem.1, List.map_cons, List.sum_cons]
  rw [groupBy, List.map_map]
  exact hsum (nodup_eraseDups _) fun r hr => List.mem_eraseDups.mpr (List.mem_map_of_mem hr)

/-- Some keys: the rows that have one of them are counted once. -/
theorem sum_keys [AddCommMonoid M] (key : ρ → κ) (f : ρ → M) {ks : List κ} (hks : ks.Nodup)
    (rows : List ρ) : (ks.map fun k => ((rows.filter (key · = k)).map f).sum).sum =
      ((rows.filter (key · ∈ ks)).map f).sum := by
  induction rows with
  | nil => simp
  | cons r rows ih =>
    have hcons : ∀ k, (((r :: rows).filter (key · = k)).map f).sum =
        (if key r = k then f r else 0) + ((rows.filter (key · = k)).map f).sum := by
      intro k
      by_cases h : key r = k <;> simp [h]
    simp only [hcons]
    rw [List.sum_map_add, ih]
    by_cases h : key r ∈ ks
    · rw [sum_map_ite_mem hks h, List.filter_cons_of_pos (by simpa using h), List.map_cons,
        List.sum_cons]
    · have hzero : ∀ y ∈ ks.map fun k => if key r = k then f r else 0, y = 0 := by
        intro y hy
        obtain ⟨k, hk, rfl⟩ := List.mem_map.mp hy
        exact if_neg fun hrk : key r = k => h (hrk ▸ hk)
      rw [List.sum_eq_zero hzero, zero_add, List.filter_cons_of_neg (by simpa using h)]

end Grouping

/-! ## Sums over selected rows -/

theorem sum_map_filter [AddCommGroup M] (p : ρ → Bool) (g : ρ → M) (rows : List ρ) :
    ((rows.filter p).map g).sum = (rows.map fun r => if p r then g r else 0).sum := by
  induction rows with
  | nil => rfl
  | cons r rows ih => cases h : p r <;> simp [h, ih]

/-- Rows that contribute nothing can be dropped. -/
theorem sum_map_filter_of_zero [AddCommGroup M] (p : ρ → Bool) (g : ρ → M) (rows : List ρ)
    (h : ∀ r ∈ rows, p r = false → g r = 0) : ((rows.filter p).map g).sum = (rows.map g).sum := by
  rw [sum_map_filter]
  congr 1
  refine List.map_congr_left fun r hr => ?_
  cases hp : p r
  · rw [h r hr hp]
    rfl
  · rfl

/-- One place of a list changes, and a sum over the list by its difference. -/
theorem sum_map_set [AddCommGroup M] {rows : List ρ} {i : ℕ} {r : ρ} (h : rows[i]? = some r)
    (r' : ρ) (g : ρ → M) : ((rows.set i r').map g).sum = (rows.map g).sum - g r + g r' := by
  induction rows generalizing i with
  | nil => exact nomatch h
  | cons q rows ih =>
    cases i with
    | zero =>
      cases h
      rw [List.set_cons_zero, List.map_cons, List.sum_cons, List.map_cons, List.sum_cons]
      abel
    | succ i =>
      rw [List.set_cons_succ, List.map_cons, List.sum_cons, List.map_cons, List.sum_cons, ih h]
      abel

theorem sum_map_neg [AddCommGroup M] (g : ρ → M) (rows : List ρ) :
    (rows.map fun r => -g r).sum = -(rows.map g).sum := by
  rw [List.sum_neg, List.map_map]
  rfl

end SaasChassis.Lib
