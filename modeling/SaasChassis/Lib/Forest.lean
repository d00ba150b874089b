/-
  Forests made of rows that are linked from parent to child. Nothing here names a program.

  `RoseTree.grow children depth a` is what one finds below `a` going down the links, to a depth.
  `Hierarchy` says what the links of some rows need for that to be a tree: a row is the child of
  one row at most, and a rank goes up along every link. Then no row is met twice
  (`Hierarchy.flatten_nodup`), every row is met from a root (`Hierarchy.exists_root`), and the
  number of rows is depth enough (`Hierarchy.exists_node`); together `Hierarchy.flatten_perm`.

  `Grown` tables have each row's parent before the row. `Grown.concat` and `Grown.append` keep
  that, and `Grown.idxOf_lt` is a rank.
-/
import SaasChassis.Lib.KeyedRows
import Mathlib.Data.List.Count
import Mathlib.Data.List.Nodup
import Mathlib.Logic.Relation

namespace SaasChassis.Lib

/-! ## Trees -/

inductive RoseTree (α : Type) where
  | node (value : α) (children : List (RoseTree α))

namespace RoseTree

variable {α : Type}

def value : RoseTree α → α
  | node a _ => a

def children : RoseTree α → List (RoseTree α)
  | node _ ts => ts

mutual

/-- The tree and all trees below it, from the root down. -/
def nodes : RoseTree α → List (RoseTree α)
  | node a ts => node a ts :: nodesAll ts

def nodesAll : List (RoseTree α) → List (RoseTree α)
  | [] => []
  | t :: ts => nodes t ++ nodesAll ts

end

def flatten (forest : List (RoseTree α)) : List α := (nodesAll forest).map value

/-- What is below `a`, to the given depth. -/
def grow (children : α → List α) : ℕ → α → RoseTree α
  | 0, a => node a []
  | depth + 1, a => node a ((children a).map (grow children depth))

variable {children : α → List α} {depth : ℕ} {a : α}

@[simp] theorem grow_value : (grow children depth a).value = a := by
  cases depth <;> rfl

theorem nodesAll_eq (forest : List (RoseTree α)) : nodesAll forest = forest.flatMap nodes := by
  induction forest with
  | nil => rfl
  | cons t ts ih => rw [nodesAll, ih, List.flatMap_cons]

theorem mem_nodesAll {forest : List (RoseTree α)} {t : RoseTree α} :
    t ∈ nodesAll forest ↔ ∃ r ∈ forest, t ∈ r.nodes := by
  rw [nodesAll_eq, List.mem_flatMap]

theorem self_mem_nodes (t : RoseTree α) : t ∈ t.nodes := by
  cases t with
  | node a ts => exact List.mem_cons_self

theorem nodes_grow_zero : (grow children 0 a).nodes = [node a []] := rfl

theorem nodes_grow_succ : (grow children (depth + 1) a).nodes =
    grow children (depth + 1) a :: nodesAll ((children a).map (grow children depth)) := rfl

theorem mem_flatten {forest : List (RoseTree α)} {x : α} :
    x ∈ flatten forest ↔ ∃ r ∈ forest, ∃ t ∈ r.nodes, t.value = x := by
  unfold flatten
  rw [List.mem_map]
  constructor
  · intro h
    obtain ⟨t, ht, hx⟩ := h
    obtain ⟨r, hr, ht⟩ := mem_nodesAll.mp ht
    exact ⟨r, hr, t, ht, hx⟩
  · intro h
    obtain ⟨r, hr, t, ht, hx⟩ := h
    exact ⟨t, mem_nodesAll.mpr ⟨r, hr, ht⟩, hx⟩

theorem flatten_eq (forest : List (RoseTree α)) :
    flatten forest = forest.flatMap fun t => t.nodes.map value := by
  rw [flatten, nodesAll_eq, List.map_flatMap]

end RoseTree

/-! ## Hierarchies -/

structure Hierarchy {α : Type} (rows : List α) (children : α → List α) (rank : α → ℕ) : Prop where
  closed : ∀ a ∈ rows, ∀ c ∈ children a, c ∈ rows
  nodup : ∀ a ∈ rows, (children a).Nodup
  /-- No row is the child of two. -/
  one : ∀ a ∈ rows, ∀ b ∈ rows, ∀ c ∈ children a, c ∈ children b → a = b
  rank_lt : ∀ a ∈ rows, ∀ c ∈ children a, rank a < rank c

namespace Hierarchy

open RoseTree

variable {α : Type} {rows : List α} {children : α → List α} {rank : α → ℕ}

/-- `c` is a child of `a`. -/
def Link (rows : List α) (children : α → List α) (a c : α) : Prop := a ∈ rows ∧ c ∈ children a

/-- Going down from `a` one comes to `x`. -/
def Below (rows : List α) (children : α → List α) : α → α → Prop :=
  Relation.ReflTransGen (Link rows children)

variable {a b x : α} {depth : ℕ}

theorem mem_of_below (h : Hierarchy rows children rank) (ha : a ∈ rows)
    (hx : Below rows children a x) : x ∈ rows := by
  induction hx with
  | refl => exact ha
  | tail _ hlink ih => exact h.closed _ hlink.1 _ hlink.2

theorem rank_le (h : Hierarchy rows children rank) (hx : Below rows children a x) :
    rank a ≤ rank x := by
  induction hx with
  | refl => exact Nat.le_refl _
  | tail _ hlink ih => exact ih.trans (h.rank_lt _ hlink.1 _ hlink.2).le

/-- Of two rows above a third one, one is above the other. -/
theorem below_total (h : Hierarchy rows children rank) (ha : Below rows children a x)
    (hb : Below rows children b x) : Below rows children a b ∨ Below rows children b a := by
  have hunique : Relator.RightUnique (Function.swap (Link rows children)) :=
    fun c p q hp hq => h.one p hp.1 q hq.1 c hp.2 hq.2
  have hup := Relation.ReflTransGen.total_of_right_unique hunique
    (Relation.reflTransGen_swap.mpr ha) (Relation.reflTransGen_swap.mpr hb)
  exact hup.symm.imp Relation.reflTransGen_swap.mp Relation.reflTransGen_swap.mp

theorem siblings_apart (h : Hierarchy rows children rank) (ha : a ∈ rows) {c d : α}
    (hc : c ∈ children a) (hd : d ∈ children a) (hbelow : Below rows children c d) : c = d := by
  obtain heq | ⟨b, hcb, hlink⟩ := Relation.ReflTransGen.cases_tail hbelow
  · exact heq.symm
  · -- the last link comes from `a`, which is above `c`
    obtain rfl : b = a := h.one b hlink.1 a ha d hlink.2 hd
    exact absurd (h.rank_le hcb) (Nat.not_le.mpr (h.rank_lt b ha c hc))

/-! ### Every row once -/

theorem below_of_mem_nodes (h : Hierarchy rows children rank) (ha : a ∈ rows) {t : RoseTree α}
    (ht : t ∈ (grow children depth a).nodes) : Below rows children a t.value := by
  induction depth generalizing a with
  | zero =>
    rw [nodes_grow_zero, List.mem_singleton] at ht
    rw [ht]
    exact Relation.ReflTransGen.refl
  | succ depth ih =>
    rw [nodes_grow_succ] at ht
    obtain rfl | ht := List.mem_cons.mp ht
    · rw [grow_value]
      exact Relation.ReflTransGen.refl
    · obtain ⟨r, hr, ht⟩ := mem_nodesAll.mp ht
      obtain ⟨c, hc, rfl⟩ := List.mem_map.mp hr
      exact Relation.ReflTransGen.head ⟨ha, hc⟩ (ih (h.closed a ha c hc) ht)

/-- Trees with roots that are not below one another have nothing in common. -/
theorem nodup_of_apart (h : Hierarchy rows children rank) {l : List α} (hl : l.Nodup)
    (hsub : l ⊆ rows) (hapart : ∀ c ∈ l, ∀ d ∈ l, Below rows children c d → c = d)
    (htrees : ∀ c ∈ l, ((grow children depth c).nodes.map value).Nodup) :
    (flatten (l.map (grow children depth))).Nodup := by
  rw [flatten_eq, List.flatMap_map, List.nodup_flatMap]
  refine ⟨htrees, hl.imp_of_mem fun {c d} hc hd hne x hxc hxd => hne ?_⟩
  obtain ⟨t, ht, rfl⟩ := List.mem_map.mp hxc
  obtain ⟨u, hu, hux⟩ := List.mem_map.mp hxd
  have hcx := h.below_of_mem_nodes (hsub hc) ht
  have hdx := h.below_of_mem_nodes (hsub hd) hu
  rw [hux] at hdx
  obtain hcd | hdc := h.below_total hcx hdx
  · exact hapart c hc d hd hcd
  · exact (hapart d hd c hc hdc).symm

theorem nodup_grow (h : Hierarchy rows children rank) (ha : a ∈ rows) (depth : ℕ) :
    ((grow children depth a).nodes.map value).Nodup := by
  induction depth generalizing a with
  | zero => exact List.nodup_singleton a
  | succ depth ih =>
    have hchildren : (flatten ((children a).map (grow children depth))).Nodup :=
      h.nodup_of_apart (h.nodup a ha) (h.closed a ha)
        (fun c hc d hd => h.siblings_apart ha hc hd) fun c hc => ih (h.closed a ha c hc)
    rw [nodes_grow_succ, List.map_cons, grow_value]
    refine List.nodup_cons.mpr ⟨fun hmem => ?_, hchildren⟩
    obtain ⟨r, hr, t, ht, hta⟩ := mem_flatten.mp hmem
    obtain ⟨c, hc, rfl⟩ := List.mem_map.mp hr
    have hbelow := h.below_of_mem_nodes (h.closed a ha c hc) ht
    rw [hta] at hbelow
    exact absurd (h.rank_le hbelow) (Nat.not_le.mpr (h.rank_lt a ha c hc))

theorem flatten_nodup (h : Hierarchy rows children rank) {roots : List α} (hnd : roots.Nodup)
    (hsub : roots ⊆ rows) (hroots : ∀ r ∈ roots, ∀ a ∈ rows, r ∉ children a) (depth : ℕ) :
    (flatten (roots.map (grow children depth))).Nodup := by
  refine h.nodup_of_apart hnd hsub (fun c _ d hd hbelow => ?_) fun c hc =>
    h.nodup_grow (hsub hc) depth
  obtain heq | ⟨b, -, hlink⟩ := Relation.ReflTransGen.cases_tail hbelow
  · exact heq.symm
  · exact absurd hlink.2 (hroots d hd b hlink.1)

/-! ### Every row at least once -/

theorem exists_root (h : Hierarchy rows children rank) {roots : List α}
    (hplaced : ∀ x ∈ rows, x ∈ roots ∨ ∃ p ∈ rows, x ∈ children p) (hx : x ∈ rows) :
    ∃ r ∈ roots, Below rows children r x := by
  induction hrank : rank x using Nat.strong_induction_on generalizing x with
  | _ n ih =>
    subst hrank
    obtain hroot | ⟨p, hp, hchild⟩ := hplaced x hx
    · exact ⟨x, hroot, Relation.ReflTransGen.refl⟩
    · obtain ⟨r, hr, hbelow⟩ := ih (rank p) (h.rank_lt p hp x hchild) hp rfl
      exact ⟨r, hr, hbelow.tail ⟨hp, hchild⟩⟩

/-- A row below `a` has its tree in the tree of `a`, to a depth of `k` at least. -/
theorem exists_node (h : Hierarchy rows children rank) (hbelow : Below rows children a x)
    (k depth : ℕ) (hdepth : rank x + k ≤ rank a + depth) :
    ∃ m, k ≤ m ∧ grow children m x ∈ (grow children depth a).nodes := by
  induction hbelow using Relation.ReflTransGen.head_induction_on generalizing depth with
  | refl => exact ⟨depth, by omega, self_mem_nodes _⟩
  | head hlink hrest ih =>
    rename_i b c
    have hlt := h.rank_lt b hlink.1 c hlink.2
    have hle := h.rank_le hrest
    cases depth with
    | zero => omega
    | succ depth =>
      obtain ⟨m, hm, hmem⟩ := ih depth (by omega)
      refine ⟨m, hm, ?_⟩
      rw [nodes_grow_succ]
      exact List.mem_cons_of_mem _
        (mem_nodesAll.mpr ⟨_, List.mem_map_of_mem hlink.2, hmem⟩)

/-- The rank may be the number of rows of a lower one, which is below the number of rows. -/
theorem counted (h : Hierarchy rows children rank) :
    Hierarchy rows children fun a => rows.countP (rank · < rank a) where
  closed := h.closed
  nodup := h.nodup
  one := h.one
  rank_lt a ha c hc := by
    have hlt := h.rank_lt a ha c hc
    have hsplit : rows.countP (rank · < rank c) =
        (rows.filter (rank · < rank c)).countP (rank · < rank a) +
          (rows.filter (rank · < rank c)).countP (¬ rank · < rank a) := by
      rw [List.countP_eq_length_filter, List.length_eq_countP_add_countP (rank · < rank a)]
      simp
    have hbelow : (rows.filter (rank · < rank c)).countP (rank · < rank a) =
        rows.countP (rank · < rank a) := by
      rw [List.countP_filter]
      refine List.countP_congr fun x _ => ?_
      simp only [Bool.and_eq_true, decide_eq_true_eq]
      omega
    have hself : 0 < (rows.filter (rank · < rank c)).countP (¬ rank · < rank a) :=
      List.countP_pos_iff.mpr ⟨a, List.mem_filter.mpr ⟨ha, by simpa using hlt⟩, by simp⟩
    omega

theorem counted_lt (ha : a ∈ rows) : rows.countP (rank · < rank a) < rows.length := by
  refine List.countP_lt_length_iff.mpr ⟨a, ha, ?_⟩
  simp

variable {roots : List α}

/-- To a depth of the number of rows, the trees of the roots have every row once. -/
theorem flatten_perm (h : Hierarchy rows children rank) (hrows : rows.Nodup) (hnd : roots.Nodup)
    (hsub : roots ⊆ rows) (hroots : ∀ r ∈ roots, ∀ a ∈ rows, r ∉ children a)
    (hplaced : ∀ x ∈ rows, x ∈ roots ∨ ∃ p ∈ rows, x ∈ children p) :
    (flatten (roots.map (grow children rows.length))).Perm rows := by
  refine (List.perm_ext_iff_of_nodup (h.flatten_nodup hnd hsub hroots _) hrows).mpr fun x => ?_
  constructor
  · intro hx
    obtain ⟨t, ht, u, hu, rfl⟩ := mem_flatten.mp hx
    obtain ⟨r, hr, rfl⟩ := List.mem_map.mp ht
    exact h.mem_of_below (hsub hr) (h.below_of_mem_nodes (hsub hr) hu)
  · intro hx
    obtain ⟨r, hr, hbelow⟩ := h.exists_root hplaced hx
    have hlt := @counted_lt _ _ rank _ hx
    obtain ⟨m, -, hmem⟩ := h.counted.exists_node hbelow 0 rows.length (by omega)
    exact mem_flatten.mpr ⟨_, List.mem_map_of_mem hr, _, hmem, grow_value⟩

/-- And every child is in the node of its parent. -/
theorem exists_parent_node (h : Hierarchy rows children rank)
    (hplaced : ∀ x ∈ rows, x ∈ roots ∨ ∃ p ∈ rows, x ∈ children p) {p c : α} (hp : p ∈ rows)
    (hc : c ∈ children p) :
    ∃ t ∈ nodesAll (roots.map (grow children rows.length)),
      t.value = p ∧ t.children.map value = children p := by
  obtain ⟨r, hr, hbelow⟩ := h.exists_root hplaced hp
  have hlt := @counted_lt _ _ rank _ (h.closed p hp c hc)
  have hrank := h.counted.rank_lt p hp c hc
  obtain ⟨m, hm, hmem⟩ := h.counted.exists_node hbelow 1 rows.length (by omega)
  obtain ⟨m, rfl⟩ : ∃ i, m = i + 1 := ⟨m - 1, by omega⟩
  refine ⟨_, mem_nodesAll.mpr ⟨_, List.mem_map_of_mem hr, hmem⟩, grow_value, ?_⟩
  show ((children p).map (grow children m)).map value = children p
  rw [List.map_map]
  exact (List.map_congr_left fun _ _ => grow_value).trans (List.map_id _)

end Hierarchy

/-! ## Tables in which parents come first -/

/-- Each row's parent is the key of a row before it. -/
inductive Grown {ρ κ : Type} (key : ρ → κ) (parent : ρ → Option κ) : List ρ → Prop
  | nil : Grown key parent []
  | concat {rows : List ρ} {r : ρ} (before : Grown key parent rows)
      (found : ∀ k ∈ parent r, k ∈ rows.map key) : Grown key parent (rows ++ [r])

namespace Grown

variable {ρ κ : Type} {key : ρ → κ} {parent : ρ → Option κ} {rows : List ρ}

theorem append (h : Grown key parent rows) {added : List ρ} (hadded : Grown key parent added) :
    Grown key parent (rows ++ added) := by
  induction hadded with
  | nil => rwa [List.append_nil]
  | @concat added r _ found ih =>
    rw [← List.append_assoc]
    refine ih.concat fun k hk => ?_
    rw [List.map_append]
    exact List.mem_append_right _ (found k hk)

/-- A rewrite that leaves keys and parents alone. -/
theorem map (h : Grown key parent rows) {f : ρ → ρ} (hkey : ∀ r, key (f r) = key r)
    (hparent : ∀ r, parent (f r) = parent r) : Grown key parent (rows.map f) := by
  have hkeys : key ∘ f = key := funext hkey
  induction h with
  | nil => exact Grown.nil
  | concat _ found ih =>
    rw [List.map_append]
    refine ih.concat fun k hk => ?_
    rw [List.map_map, hkeys]
    exact found k (hparent _ ▸ hk)

/-- The place in the table is a rank. -/
theorem idxOf_lt [DecidableEq κ] (h : Grown key parent rows) (hnd : (rows.map key).Nodup) {r : ρ}
    (hr : r ∈ rows) {k : κ} (hk : parent r = some k) :
    (rows.map key).idxOf k < (rows.map key).idxOf (key r) := by
  induction h with
  | nil => cases hr
  | @concat rows q _ found ih =>
    rw [List.map_append] at hnd ⊢
    obtain ⟨hbefore, -, hnew⟩ := List.nodup_append.mp hnd
    obtain hr | hr := List.mem_append.mp hr
    · have hlt := ih hbefore hr
      have hkey : key r ∈ rows.map key := List.mem_map_of_mem hr
      have hmem : k ∈ rows.map key := by
        refine List.idxOf_lt_length_iff.mp (hlt.trans ?_)
        exact List.idxOf_lt_length_iff.mpr hkey
      rwa [List.idxOf_append_of_mem hmem, List.idxOf_append_of_mem hkey]
    · obtain rfl := List.mem_singleton.mp hr
      have hmem := found k hk
      have hkey : key r ∉ rows.map key := fun hold =>
        hnew (key r) hold (key r) List.mem_cons_self rfl
      rw [List.idxOf_append_of_mem hmem, List.idxOf_append_of_notMem hkey]
      exact (List.idxOf_lt_length_iff.mpr hmem).trans_le (Nat.le_add_right _ _)

end Grown

end SaasChassis.Lib
