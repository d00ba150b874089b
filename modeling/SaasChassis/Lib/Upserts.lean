/-
  Tables written by upserts only, in any row type. Nothing here names a program.

  `upsertRow` is `INSERT ... ON CONFLICT (key) DO UPDATE`: a new key gets a row at the end, a row
  with the key is merged with what comes. `upserts` is the table a log of them leaves.
  `upserts_eq`: it is the log grouped by key, every group folded into one row. So a column that
  the merge takes from the new row shows the last entry of its key (`folded_last`), and a sum over
  it adds up the last entry of every key (`sum_upserts`).
-/
import Mathlib.Data.List.Induction
import SaasChassis.Lib.KeyedRows

namespace SaasChassis.Lib

variable {ρ κ : Type} [DecidableEq κ] (key : ρ → κ) (merge : ρ → ρ → ρ)

/-! ## One upsert -/

def upsertRow (r : ρ) (rows : List ρ) : List ρ :=
  if rows.any (key · = key r) then updateKey key (key r) (merge · r) rows else rows ++ [r]

variable {key} {merge}

theorem any_key {rows : List ρ} {k : κ} : rows.any (key · = k) = true ↔ k ∈ rows.map key := by
  rw [List.any_eq_true, List.mem_map]
  exact exists_congr fun r => and_congr_right fun _ => decide_eq_true_iff

/-- The keys, in the order in which they came. -/
theorem map_key_upsertRow (hkey : ∀ e r, key (merge e r) = key e) (r : ρ) (rows : List ρ) :
    (upsertRow key merge r rows).map key =
      rows.map key ++ if key r ∈ rows.map key then [] else [key r] := by
  unfold upsertRow
  by_cases h : key r ∈ rows.map key
  · rw [if_pos (any_key.mpr h), if_pos h, List.append_nil, map_updateKey]
    exact fun e => hkey e r
  · rw [if_neg (mt any_key.mp h), if_neg h, List.map_append]
    rfl

/-- Only the row with the key of `r` changes. -/
theorem find?_upsertRow (hkey : ∀ e r, key (merge e r) = key e) (r : ρ) (rows : List ρ) (k : κ) :
    (upsertRow key merge r rows).find? (key · = k) =
      if key r = k then some (((rows.find? (key · = k)).map (merge · r)).getD r)
      else rows.find? (key · = k) := by
  unfold upsertRow
  split
  next hany =>
    rw [find?_updateKey fun e _ _ => by rw [hkey]]
    by_cases hk : key r = k
    · subst hk
      obtain ⟨e, he, hek⟩ := List.mem_map.mp (any_key.mp hany)
      have hsome : (rows.find? (key · = key r)).isSome := by
        rw [List.find?_isSome]
        exact ⟨e, he, by simpa using hek⟩
      obtain ⟨q, hq⟩ := Option.isSome_iff_exists.mp hsome
      have hqk : key q = key r := by simpa using List.find?_some hq
      simp [hq, hqk]
    · rw [if_neg hk]
      cases hf : rows.find? (key · = k) with
      | none => rfl
      | some q =>
        have hqk : key q = k := by simpa using List.find?_some hf
        rw [Option.map_some, if_neg fun h => hk (h.symm.trans hqk)]
  next hany =>
    rw [List.find?_append, List.find?_singleton]
    by_cases hk : key r = k
    · subst hk
      have hnone : rows.find? (key · = key r) = none := by
        rw [List.find?_eq_none]
        intro e he hek
        exact hany (any_key.mpr (List.mem_map.mpr ⟨e, he, by simpa using hek⟩))
      simp [hnone]
    · simp [hk]

/-! ## A log of upserts -/

variable (key) (merge)

/-- The table that the log leaves. -/
def upserts (log : List ρ) : List ρ := log.foldl (fun rows r => upsertRow key merge r rows) []

/-- One row from several with one key. -/
def folded : List ρ → Option ρ
  | [] => none
  | r :: rs => some (rs.foldl merge r)

variable {key} {merge}

theorem upserts_append (log : List ρ) (r : ρ) :
    upserts key merge (log ++ [r]) = upsertRow key merge r (upserts key merge log) := by
  unfold upserts
  rw [List.foldl_append]
  rfl

omit [DecidableEq κ] in
theorem folded_append (log : List ρ) (r : ρ) :
    folded merge (log ++ [r]) = some (((folded merge log).map (merge · r)).getD r) := by
  cases log with
  | nil => rfl
  | cons q log =>
    show some ((log ++ [r]).foldl merge q) = _
    rw [List.foldl_append]
    rfl

/-- A column that comes from the new row is that of the last. -/
theorem folded_last {β : Type} {col : ρ → β} {log : List ρ}
    (hcol : ∀ e, ∀ r ∈ log, col (merge e r) = col r) :
    (folded merge log).map col = log.getLast?.map col := by
  induction log using List.reverseRecOn with
  | nil => rfl
  | append_singleton log r _ =>
    rw [folded_append, List.getLast?_concat]
    cases folded merge log with
    | none => rfl
    | some e => exact congrArg some (hcol e r (List.mem_append_right _ (List.mem_singleton_self r)))

/-- Every key has its entries folded. -/
theorem find?_upserts (hkey : ∀ e r, key (merge e r) = key e) (log : List ρ) (k : κ) :
    (upserts key merge log).find? (key · = k) = folded merge (log.filter (key · = k)) := by
  induction log using List.reverseRecOn with
  | nil => rfl
  | append_singleton log r ih =>
    rw [upserts_append, find?_upsertRow hkey, ih, List.filter_append]
    by_cases hk : key r = k
    · rw [if_pos hk, List.filter_cons_of_pos (by simpa using hk), List.filter_nil, folded_append]
    · rw [if_neg hk, List.filter_cons_of_neg (by simpa using hk), List.filter_nil,
        List.append_nil]

theorem map_key_upserts (hkey : ∀ e r, key (merge e r) = key e) (log : List ρ) :
    (upserts key merge log).map key = (log.map key).eraseDups := by
  induction log using List.reverseRecOn with
  | nil => rfl
  | append_singleton log r ih =>
    rw [upserts_append, map_key_upsertRow hkey, ih, List.map_append, List.eraseDups_append]
    congr 1
    rw [List.map_singleton, List.removeAll]
    by_cases h : key r ∈ log.map key
    · rw [if_pos (List.mem_eraseDups.mpr h), List.filter_cons_of_neg (by simpa using h)]
      rfl
    · rw [if_neg (mt List.mem_eraseDups.mp h), List.filter_cons_of_pos (by simpa using h)]
      rfl

theorem nodup_upserts (hkey : ∀ e r, key (merge e r) = key e) (log : List ρ) :
    ((upserts key merge log).map key).Nodup := by
  rw [map_key_upserts hkey]
  exact nodup_eraseDups _

/-- With unique keys, a table is its keys with the row of each. -/
theorem filterMap_keys {rows : List ρ} (hnd : (rows.map key).Nodup) :
    (rows.map key).filterMap (fun k => rows.find? (key · = k)) = rows := by
  rw [List.filterMap_map]
  exact (List.filterMap_congr fun r hr => find?_key hnd hr).trans List.filterMap_some

/-- The table is the log by keys, each group as one row. -/
theorem upserts_eq (hkey : ∀ e r, key (merge e r) = key e) (log : List ρ) :
    upserts key merge log = (groupBy key log).filterMap fun g => folded merge g.2 := by
  rw [← filterMap_keys (nodup_upserts hkey log), map_key_upserts hkey, groupBy, List.filterMap_map]
  exact List.filterMap_congr fun k _ => find?_upserts hkey log k

/-- A sum over a column that comes from the new row: the last entry of every key. -/
theorem sum_upserts {M : Type} [AddCommMonoid M] (hkey : ∀ e r, key (merge e r) = key e)
    {col : ρ → M} (hcol : ∀ e r, col (merge e r) = col r) (log : List ρ) :
    ((upserts key merge log).map col).sum =
      ((groupBy key log).filterMap fun g => g.2.getLast?.map col).sum := by
  rw [upserts_eq hkey, List.map_filterMap]
  exact congrArg List.sum (List.filterMap_congr fun g _ => folded_last fun e r _ => hcol e r)

end SaasChassis.Lib
