/-
  Chains of rows in a growing table: each row may name the row that follows it (`next`) and the
  row it follows (`prev`), by key. Nothing here names a program.

  `Linked` says that the two ends of every link name each other and that a row stands before the
  one it is followed by. Appending rows without links keeps it (`Linked.append`), and so does
  appending one row as the successor of a row that had none (`Linked.extend`).
  In a linked table with unique keys the links are one-to-one (`Linked.next_iff`,
  `Linked.next_inj`, `Linked.prev_inj`), no chain comes back (`Linked.acyclic`), and every chain
  ends (`Linked.chain_ends`).
-/
import SaasChassis.Lib.KeyedRows
import Mathlib.Logic.Relation

namespace SaasChassis.Lib

variable {ρ κ : Type} [DecidableEq κ]

structure Linked (key : ρ → κ) (next prev : ρ → Option κ) (rows : List ρ) : Prop where
  next_mem : ∀ x ∈ rows, ∀ k, next x = some k → ∃ y ∈ rows, key y = k ∧ prev y = some (key x)
  prev_mem : ∀ y ∈ rows, ∀ k, prev y = some k → ∃ x ∈ rows, key x = k ∧ next x = some (key y)
  forward : ∀ x ∈ rows, ∀ k, next x = some k →
    (rows.map key).idxOf (key x) < (rows.map key).idxOf k

/-- Row `y` follows row `x` in the table. -/
def Follows (key : ρ → κ) (next : ρ → Option κ) (rows : List ρ) (x y : ρ) : Prop :=
  x ∈ rows ∧ y ∈ rows ∧ next x = some (key y)

namespace Linked

variable {key : ρ → κ} {next prev : ρ → Option κ} {rows : List ρ}

theorem nil : Linked key next prev [] := by
  refine ⟨?_, ?_, ?_⟩ <;> exact fun _ hx => absurd hx List.not_mem_nil

/-- Only the three columns matter. -/
theorem of_columns {rows' : List ρ} (h : Linked key next prev rows)
    (he : rows'.map (fun r => (key r, next r, prev r)) =
      rows.map fun r => (key r, next r, prev r)) : Linked key next prev rows' := by
  have hkeys : rows'.map key = rows.map key := by
    have hk := congrArg (List.map Prod.fst) he
    rwa [List.map_map, List.map_map] at hk
  have hold : ∀ x ∈ rows', ∃ y ∈ rows, key y = key x ∧ next y = next x ∧ prev y = prev x := by
    intro x hx
    have hmem : (key x, next x, prev x) ∈ rows.map fun r => (key r, next r, prev r) :=
      he ▸ List.mem_map.mpr ⟨x, hx, rfl⟩
    obtain ⟨y, hy, hxy⟩ := List.mem_map.mp hmem
    simp only [Prod.mk.injEq] at hxy
    exact ⟨y, hy, hxy⟩
  have hnew : ∀ x ∈ rows, ∃ y ∈ rows', key y = key x ∧ next y = next x ∧ prev y = prev x := by
    intro x hx
    have hmem : (key x, next x, prev x) ∈ rows'.map fun r => (key r, next r, prev r) :=
      he ▸ List.mem_map.mpr ⟨x, hx, rfl⟩
    obtain ⟨y, hy, hxy⟩ := List.mem_map.mp hmem
    simp only [Prod.mk.injEq] at hxy
    exact ⟨y, hy, hxy⟩
  refine ⟨fun x hx k hk => ?_, fun y hy k hk => ?_, fun x hx k hk => ?_⟩
  · obtain ⟨x', hx', hxk, hxn, -⟩ := hold x hx
    obtain ⟨y, hy, hyk, hyp⟩ := h.next_mem x' hx' k (hxn.trans hk)
    obtain ⟨y', hy', hyk', -, hyp'⟩ := hnew y hy
    exact ⟨y', hy', hyk'.trans hyk, by rw [hyp', hyp, hxk]⟩
  · obtain ⟨y', hy', hyk, -, hyp⟩ := hold y hy
    obtain ⟨x, hx, hxk, hxn⟩ := h.prev_mem y' hy' k (hyp.trans hk)
    obtain ⟨x', hx', hxk', hxn', -⟩ := hnew x hx
    exact ⟨x', hx', hxk'.trans hxk, by rw [hxn', hxn, hyk]⟩
  · obtain ⟨x', hx', hxk, hxn, -⟩ := hold x hx
    rw [hkeys, ← hxk]
    exact h.forward x' hx' k (hxn.trans hk)

theorem next_key_mem (h : Linked key next prev rows) {x : ρ} (hx : x ∈ rows) {k : κ}
    (hk : next x = some k) : k ∈ rows.map key := by
  obtain ⟨y, hy, rfl, -⟩ := h.next_mem x hx k hk
  exact List.mem_map_of_mem hy

/-- Rows without links may be appended. -/
theorem append (h : Linked key next prev rows) {added : List ρ}
    (hadded : ∀ r ∈ added, next r = none ∧ prev r = none) :
    Linked key next prev (rows ++ added) := by
  have hfree : ∀ x ∈ rows ++ added, next x ≠ none ∨ prev x ≠ none → x ∈ rows := by
    intro x hx hne
    rcases List.mem_append.mp hx with hx | hx
    · exact hx
    · obtain ⟨hn, hp⟩ := hadded x hx
      exact absurd hne (by simp [hn, hp])
  refine ⟨fun x hx k hk => ?_, fun y hy k hk => ?_, fun x hx k hk => ?_⟩
  · obtain ⟨y, hy, hyk, hyp⟩ := h.next_mem x (hfree x hx (Or.inl (by simp [hk]))) k hk
    exact ⟨y, List.mem_append_left _ hy, hyk, hyp⟩
  · obtain ⟨x, hx, hxk, hxn⟩ := h.prev_mem y (hfree y hy (Or.inr (by simp [hk]))) k hk
    exact ⟨x, List.mem_append_left _ hx, hxk, hxn⟩
  · have hx' := hfree x hx (Or.inl (by simp [hk]))
    rw [List.map_append, List.idxOf_append_of_mem (List.mem_map_of_mem hx'),
      List.idxOf_append_of_mem (h.next_key_mem hx' hk)]
    exact h.forward x hx' k hk

/-- A row without a successor may get one, appended under a new key. -/
theorem extend (h : Linked key next prev rows) (hnd : (rows.map key).Nodup) {e r : ρ}
    (he : e ∈ rows) (hlast : next e = none) (hfresh : key r ∉ rows.map key)
    (hnext : next r = none) (hprev : prev r = some (key e)) {f : ρ → ρ}
    (hkey : key (f e) = key e) (hset : next (f e) = some (key r)) (hkeep : prev (f e) = prev e) :
    Linked key next prev (updateKey key (key e) f rows ++ [r]) := by
  have hkeys : (updateKey key (key e) f rows).map key = rows.map key := by
    rw [updateKey_const hnd he]
    exact map_key_updateKey (fun _ _ => hkey) rows
  -- a row of the old table, as it is in the new one
  have hmoved : ∀ x ∈ rows, ∃ x' ∈ updateKey key (key e) f rows,
      key x' = key x ∧ prev x' = prev x ∧ (key x ≠ key e → next x' = next x) := by
    intro x hx
    by_cases hk : key x = key e
    · have hxe := nodup_keys_inj hnd hx he hk
      exact ⟨f e, mem_updateKey.mpr (Or.inl ⟨e, he, rfl, rfl⟩), by rw [hkey, hxe],
        by rw [hkeep, hxe], fun hne => absurd hk hne⟩
    · exact ⟨x, mem_updateKey.mpr (Or.inr ⟨hx, hk⟩), rfl, rfl, fun _ => rfl⟩
  refine ⟨fun x hx k hk => ?_, fun y hy k hk => ?_, fun x hx k hk => ?_⟩
  · rcases List.mem_append.mp hx with hx | hx
    · rcases mem_updateKey.mp hx with ⟨q, hmem, hq, rfl⟩ | ⟨hx, -⟩
      · rw [nodup_keys_inj hnd hmem he hq] at hk ⊢
        rw [hset] at hk
        exact ⟨r, by simp, Option.some.inj hk, by rw [hprev, hkey]⟩
      · obtain ⟨y, hy, hyk, hyp⟩ := h.next_mem x hx k hk
        obtain ⟨y', hy', hyk', hyp', -⟩ := hmoved y hy
        exact ⟨y', List.mem_append_left _ hy', hyk'.trans hyk, hyp'.trans hyp⟩
    · rw [List.mem_singleton.mp hx, hnext] at hk
      cases hk
  · have hold : ∀ y' ∈ rows, prev y' = some k → key y' = key y →
        ∃ x ∈ updateKey key (key e) f rows ++ [r], key x = k ∧ next x = some (key y) := by
      intro y' hy' hp hkk
      obtain ⟨x, hx, hxk, hxn⟩ := h.prev_mem y' hy' k hp
      have hne : key x ≠ key e := fun hxe => by
        rw [nodup_keys_inj hnd hx he hxe, hlast] at hxn
        cases hxn
      obtain ⟨x', hx', hxk', -, hxn'⟩ := hmoved x hx
      exact ⟨x', List.mem_append_left _ hx', hxk'.trans hxk, by rw [hxn' hne, hxn, hkk]⟩
    rcases List.mem_append.mp hy with hy | hy
    · rcases mem_updateKey.mp hy with ⟨q, hmem, hq, rfl⟩ | ⟨hy, -⟩
      · rw [nodup_keys_inj hnd hmem he hq] at hk hold ⊢
        exact hold e he (hkeep.symm.trans hk) hkey.symm
      · exact hold y hy hk rfl
    · rw [List.mem_singleton.mp hy, hprev] at hk
      refine ⟨f e, List.mem_append_left _ (mem_updateKey.mpr (Or.inl ⟨e, he, rfl, rfl⟩)),
        hkey.trans (Option.some.inj hk), ?_⟩
      rw [hset, List.mem_singleton.mp hy]
  · rw [List.map_append, hkeys, List.map_singleton]
    rcases List.mem_append.mp hx with hx | hx
    · rcases mem_updateKey.mp hx with ⟨q, hmem, hq, rfl⟩ | ⟨hx, -⟩
      · -- the new link ends behind the old table
        rw [nodup_keys_inj hnd hmem he hq] at hk ⊢
        rw [hset] at hk
        rw [← Option.some.inj hk, hkey, List.idxOf_append_of_mem (List.mem_map_of_mem he),
          List.idxOf_append_of_notMem hfresh]
        exact (List.idxOf_lt_length_of_mem (List.mem_map_of_mem he)).trans_le (Nat.le_add_right _ _)
      · rw [List.idxOf_append_of_mem (List.mem_map_of_mem hx),
          List.idxOf_append_of_mem (h.next_key_mem hx hk)]
        exact h.forward x hx k hk
    · rw [List.mem_singleton.mp hx, hnext] at hk
      cases hk

/-! ## What links are like -/

theorem next_iff (h : Linked key next prev rows) (hnd : (rows.map key).Nodup) {x y : ρ}
    (hx : x ∈ rows) (hy : y ∈ rows) : next x = some (key y) ↔ prev y = some (key x) := by
  constructor
  · intro hn
    obtain ⟨y', hy', hk, hp⟩ := h.next_mem x hx _ hn
    rwa [nodup_keys_inj hnd hy' hy hk] at hp
  · intro hp
    obtain ⟨x', hx', hk, hn⟩ := h.prev_mem y hy _ hp
    rwa [nodup_keys_inj hnd hx' hx hk] at hn

theorem next_inj (h : Linked key next prev rows) (hnd : (rows.map key).Nodup) {x x' : ρ} {k : κ}
    (hx : x ∈ rows) (hx' : x' ∈ rows) (hn : next x = some k) (hn' : next x' = some k) :
    x = x' := by
  obtain ⟨y, hy, rfl, hp⟩ := h.next_mem x hx k hn
  have hp' := (h.next_iff hnd hx' hy).mp hn'
  exact nodup_keys_inj hnd hx hx' (Option.some.inj (hp.symm.trans hp'))

theorem prev_inj (h : Linked key next prev rows) (hnd : (rows.map key).Nodup) {y y' : ρ} {k : κ}
    (hy : y ∈ rows) (hy' : y' ∈ rows) (hp : prev y = some k) (hp' : prev y' = some k) :
    y = y' := by
  obtain ⟨x, hx, rfl, hn⟩ := h.prev_mem y hy k hp
  have hn' := (h.next_iff hnd hx hy').mpr hp'
  exact nodup_keys_inj hnd hy hy' (Option.some.inj (hn.symm.trans hn'))

theorem idxOf_lt (h : Linked key next prev rows) {x y : ρ}
    (hxy : Relation.TransGen (Follows key next rows) x y) :
    (rows.map key).idxOf (key x) < (rows.map key).idxOf (key y) := by
  induction hxy with
  | single hf => exact h.forward _ hf.1 _ hf.2.2
  | tail _ hf ih => exact ih.trans (h.forward _ hf.1 _ hf.2.2)

theorem acyclic (h : Linked key next prev rows) (x : ρ) :
    ¬Relation.TransGen (Follows key next rows) x x :=
  fun hx => lt_irrefl _ (h.idxOf_lt hx)

theorem chain_ends (h : Linked key next prev rows) {x : ρ} (hx : x ∈ rows) :
    ∃ y ∈ rows, Relation.ReflTransGen (Follows key next rows) x y ∧ next y = none := by
  -- by the distance from the end of the table, which every link shortens
  induction hn : rows.length - (rows.map key).idxOf (key x) using Nat.strong_induction_on
    generalizing x with
  | h n ih =>
    cases hk : next x with
    | none => exact ⟨x, hx, .refl, hk⟩
    | some k =>
      obtain ⟨y, hy, rfl, -⟩ := h.next_mem x hx k hk
      have hlt := h.forward x hx _ hk
      have hlen : (rows.map key).idxOf (key y) < rows.length := by
        have hin := List.idxOf_lt_length_of_mem (List.mem_map_of_mem (f := key) hy)
        rwa [List.length_map] at hin
      obtain ⟨z, hz, hyz, hend⟩ := ih _ (by omega) hy rfl
      exact ⟨z, hz, .head ⟨hx, hy, hk⟩ hyz, hend⟩

end Linked

end SaasChassis.Lib
