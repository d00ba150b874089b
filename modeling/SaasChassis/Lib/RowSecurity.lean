/-
  Tables under row-level security, in any row type and with any kind of session. Nothing here
  names a program.

  A table carries permissive policies: a row passes when one policy that applies accepts it, so a
  table without policies for a command refuses it. `exec` runs one statement of a session.

  Conditions on the policies, for rows that have an owner and sessions that see some owners.
  `Hides`: no policy shows a session the row of an owner it does not see; then no answer holds one
  (`exec_answer_seen`). `Confines`: nor may it write one; then a statement leaves all other rows
  alone (`exec_others`). `Isolates`: the policies say just that; then a session that sees one owner
  is served as from a table that holds this owner's rows only (`exec_own`). `AppendOnly`: no policy
  lets a session change or remove a row (`exec_prefix`). `exec_eq_of_allows`: policies that decide
  alike serve alike.
-/
import Mathlib.Data.List.Basic
import Mathlib.Data.List.Infix

namespace SaasChassis.Lib

variable {σ τ ρ : Type}

/-! ## Policies -/

inductive RowCommand where
  | select | insert | update | delete
  deriving DecidableEq

/-- `CREATE POLICY ... AS PERMISSIVE FOR command USING (...) WITH CHECK (...)`. -/
structure RowPolicy (σ ρ : Type) where
  /-- `none` is `FOR ALL`. -/
  command : Option RowCommand
  usingExpr : Option (σ → ρ → Bool)
  checkExpr : Option (σ → ρ → Bool)

namespace RowPolicy

def appliesTo (p : RowPolicy σ ρ) (c : RowCommand) : Bool :=
  decide (p.command = none ∨ p.command = some c)

/-- Whether the policy accepts a stored row. -/
def passes (p : RowPolicy σ ρ) (s : σ) (r : ρ) : Bool :=
  match p.usingExpr with
  | some e => e s r
  | none => true

/-- Whether it accepts a row that is written: without a check, the expression for stored rows
    decides. -/
def passesNew (p : RowPolicy σ ρ) (s : σ) (r : ρ) : Bool :=
  match p.checkExpr with
  | some e => e s r
  | none => p.passes s r

end RowPolicy

/-- The policies of one table. -/
abbrev RowPolicies (σ ρ : Type) := List (RowPolicy σ ρ)

namespace RowPolicies

def allows (ps : RowPolicies σ ρ) (c : RowCommand) (s : σ) (r : ρ) : Bool :=
  ps.any fun p => p.appliesTo c && p.passes s r

def allowsNew (ps : RowPolicies σ ρ) (c : RowCommand) (s : σ) (r : ρ) : Bool :=
  ps.any fun p => p.appliesTo c && p.passesNew s r

end RowPolicies

/-! ## Statements -/

inductive RowStatement (ρ : Type) where
  | select (cond : ρ → Bool)
  | insert (new : List ρ) (returning : Bool)
  | update (cond : ρ → Bool) (set : ρ → ρ)
  | delete (cond : ρ → Bool)

inductive RowAnswer (ρ : Type) where
  /-- The rows read, written or removed. -/
  | rows (rs : List ρ)
  /-- `new row violates row-level security policy`. -/
  | refused

namespace RowPolicies

/-- The stored rows a statement with a condition works on: reading the condition needs the right to
    read the row. -/
def target (ps : RowPolicies σ ρ) (c : RowCommand) (s : σ) (cond : ρ → Bool) (r : ρ) : Bool :=
  ps.allows .select s r && ps.allows c s r && cond r

/-- An updated row must pass the check of the update and stay readable. -/
def accepts (ps : RowPolicies σ ρ) (s : σ) (r : ρ) : Bool :=
  ps.allowsNew .update s r && ps.allows .select s r

/-- `RETURNING` reads the new row. -/
def acceptsNew (ps : RowPolicies σ ρ) (s : σ) (returning : Bool) (r : ρ) : Bool :=
  ps.allowsNew .insert s r && (!returning || ps.allows .select s r)

/-- One statement of session `s`: its answer and the table after it. -/
def exec (ps : RowPolicies σ ρ) (s : σ) : RowStatement ρ → List ρ → RowAnswer ρ × List ρ
  | .select cond, rows => (.rows (rows.filter (ps.target .select s cond)), rows)
  | .insert new returning, rows =>
    if new.all (ps.acceptsNew s returning) then
      (.rows (if returning then new else []), rows ++ new)
    else (.refused, rows)
  | .update cond set, rows =>
    if (rows.filter (ps.target .update s cond)).all fun r => ps.accepts s (set r) then
      (.rows ((rows.filter (ps.target .update s cond)).map set),
        rows.map fun r => if ps.target .update s cond r then set r else r)
    else (.refused, rows)
  | .delete cond, rows =>
    (.rows (rows.filter (ps.target .delete s cond)),
      rows.filter fun r => !ps.target .delete s cond r)

/-- Policies that decide alike serve alike. -/
theorem exec_eq_of_allows {ps qs : RowPolicies σ ρ}
    (h : ∀ c s r, c ≠ .insert → ps.allows c s r = qs.allows c s r)
    (hnew : ∀ c s r, c ≠ .select → ps.allowsNew c s r = qs.allowsNew c s r) (s : σ)
    (st : RowStatement ρ) (rows : List ρ) : ps.exec s st rows = qs.exec s st rows := by
  have htarget : ∀ c, c ≠ .insert → ps.target c s = qs.target c s := by
    intro c hc
    funext cond r
    rw [target, target, h .select s r nofun, h c s r hc]
  have hinsert : ps.acceptsNew s = qs.acceptsNew s := by
    funext returning r
    rw [acceptsNew, acceptsNew, hnew .insert s r nofun, h .select s r nofun]
  have hupdate : ps.accepts s = qs.accepts s := by
    funext r
    rw [accepts, accepts, hnew .update s r nofun, h .select s r nofun]
  unfold exec
  rw [htarget .select nofun, htarget .update nofun, htarget .delete nofun, hinsert, hupdate]

/-! ## Confinement -/

/-- No policy shows a session a row of an owner it does not see. -/
structure Hides (ps : RowPolicies σ ρ) (sees : σ → τ → Bool) (owner : ρ → τ) : Prop where
  reads : ∀ s r, ps.allows .select s r = true → sees s (owner r) = true

/-- And none lets it write one. -/
structure Confines (ps : RowPolicies σ ρ) (sees : σ → τ → Bool) (owner : ρ → τ) : Prop
    extends Hides ps sees owner where
  inserts : ∀ s r, ps.allowsNew .insert s r = true → sees s (owner r) = true

section Confines

variable {ps : RowPolicies σ ρ} {sees : σ → τ → Bool} {owner : ρ → τ} {s : σ}

theorem Hides.target (h : Hides ps sees owner) {c : RowCommand} {cond : ρ → Bool} {r : ρ}
    (ht : ps.target c s cond r = true) : sees s (owner r) = true := by
  simp only [RowPolicies.target, Bool.and_eq_true] at ht
  exact h.reads s r ht.1.1

theorem Hides.accepts (h : Hides ps sees owner) {r : ρ} (ha : ps.accepts s r = true) :
    sees s (owner r) = true :=
  h.reads s r (Bool.and_eq_true_iff.mp ha).2

theorem Confines.acceptsNew (h : Confines ps sees owner) {b : Bool} {r : ρ}
    (ha : ps.acceptsNew s b r = true) : sees s (owner r) = true :=
  h.inserts s r (Bool.and_eq_true_iff.mp ha).1

/-- A write that leaves the rows with `p` alone and makes no row one of them. -/
theorem filter_map_same {p : ρ → Bool} {f : ρ → ρ} {rows : List ρ}
    (hsame : ∀ r ∈ rows, p r = true → f r = r)
    (hother : ∀ r ∈ rows, p r = false → p (f r) = false) : (rows.map f).filter p = rows.filter p := by
  induction rows with
  | nil => rfl
  | cons r rows ih =>
    have hrest := ih (fun q hq => hsame q (List.mem_cons_of_mem r hq))
      (fun q hq => hother q (List.mem_cons_of_mem r hq))
    rw [List.map_cons]
    by_cases hr : p r = true
    · rw [hsame r List.mem_cons_self hr, List.filter_cons_of_pos hr, List.filter_cons_of_pos hr,
        hrest]
    · have hf := hother r List.mem_cons_self (Bool.eq_false_iff.mpr hr)
      rw [List.filter_cons_of_neg hr, List.filter_cons_of_neg (by simp [hf]), hrest]

/-- The rows of the owners a session does not see. -/
def unseen (sees : σ → τ → Bool) (owner : ρ → τ) (s : σ) (rows : List ρ) : List ρ :=
  rows.filter fun r => !sees s (owner r)

/-- A statement leaves the rows its session does not see as they are. -/
theorem exec_unseen (h : Confines ps sees owner) (s : σ) (st : RowStatement ρ) (rows : List ρ) :
    unseen sees owner s (ps.exec s st rows).2 = unseen sees owner s rows := by
  cases st with
  | select cond => rfl
  | insert new returning =>
    rw [exec]
    split
    next hall =>
      have hnew : unseen sees owner s new = [] := List.filter_eq_nil_iff.mpr fun r hr => by
        simp [h.acceptsNew (List.all_eq_true.mp hall r hr)]
      rw [unseen, List.filter_append]
      show unseen sees owner s rows ++ unseen sees owner s new = _
      rw [hnew, List.append_nil]
    next => rfl
  | update cond set =>
    rw [exec]
    split
    next hall =>
      refine filter_map_same (fun r _ hr => if_neg fun ht => ?_) fun r hr hseen => ?_
      · simp [h.target ht] at hr
      · by_cases ht : ps.target .update s cond r = true
        · rw [if_pos ht,
            h.accepts (List.all_eq_true.mp hall r (List.mem_filter.mpr ⟨hr, ht⟩))]
          rfl
        · rwa [if_neg ht]
    next => rfl
  | delete cond =>
    rw [unseen, exec, List.filter_filter]
    refine List.filter_congr fun r _ => ?_
    by_cases hr : sees s (owner r) = true
    · simp [hr]
    · have ht : ps.target .delete s cond r = false :=
        Bool.eq_false_iff.mpr fun ht => hr (h.target ht)
      simp [ht]

variable [DecidableEq τ]

/-- The rows of one owner. -/
def rowsOf (owner : ρ → τ) (t : τ) (rows : List ρ) : List ρ := rows.filter fun r => owner r = t

theorem mem_rowsOf {owner : ρ → τ} {t : τ} {rows : List ρ} {r : ρ} :
    r ∈ rowsOf owner t rows ↔ r ∈ rows ∧ owner r = t := by
  simp [rowsOf]

theorem rowsOf_append (owner : ρ → τ) (t : τ) (rows rows' : List ρ) :
    rowsOf owner t (rows ++ rows') = rowsOf owner t rows ++ rowsOf owner t rows' :=
  List.filter_append ..

/-- A write that keeps to each owner's rows. -/
theorem rowsOf_map_own {owner : ρ → τ} {t : τ} {f : ρ → ρ} {rows : List ρ}
    (h : ∀ r ∈ rows, owner (f r) = t ↔ owner r = t) :
    rowsOf owner t (rows.map f) = (rowsOf owner t rows).map f := by
  rw [rowsOf, rowsOf, List.filter_map]
  exact congrArg _ (List.filter_congr fun r hr => by simp [h r hr])

/-- An unseen owner's rows are among the unseen ones. -/
theorem rowsOf_unseen {t : τ} (hs : sees s t = false) (rows : List ρ) :
    rowsOf owner t (unseen sees owner s rows) = rowsOf owner t rows := by
  rw [rowsOf, unseen, List.filter_filter]
  refine List.filter_congr fun r _ => ?_
  by_cases hr : owner r = t
  · simp [hr, hs]
  · simp [hr]

/-- A statement leaves the rows of an owner its session does not see as they are. -/
theorem exec_others (h : Confines ps sees owner) {t : τ} (hs : sees s t = false)
    (st : RowStatement ρ) (rows : List ρ) :
    rowsOf owner t (ps.exec s st rows).2 = rowsOf owner t rows := by
  rw [← rowsOf_unseen hs, exec_unseen h, rowsOf_unseen hs]

omit [DecidableEq τ] in
/-- No answer holds a row of an owner the session does not see. -/
theorem exec_answer_seen (h : Hides ps sees owner) {st : RowStatement ρ} {rows rs : List ρ}
    (ha : (ps.exec s st rows).1 = .rows rs) : ∀ r ∈ rs, sees s (owner r) = true := by
  have hread : ∀ {c : RowCommand} {cond : ρ → Bool}, ∀ r ∈ rows.filter (ps.target c s cond),
      sees s (owner r) = true := fun r hr => h.target (List.mem_filter.mp hr).2
  cases st with
  | select cond =>
    cases ha
    exact hread
  | insert new returning =>
    rw [exec] at ha
    split at ha
    next hall =>
      cases ha
      split
      next hret =>
        intro r hr
        have ha := List.all_eq_true.mp hall r hr
        rw [acceptsNew, hret] at ha
        exact h.reads s r (by simpa using (Bool.and_eq_true_iff.mp ha).2)
      next => exact fun r hr => absurd hr List.not_mem_nil
    next => cases ha
  | update cond set =>
    rw [exec] at ha
    split at ha
    next hall =>
      cases ha
      intro r hr
      obtain ⟨q, hq, rfl⟩ := List.mem_map.mp hr
      exact h.accepts (List.all_eq_true.mp hall q hq)
    next => cases ha
  | delete cond =>
    cases ha
    exact hread

end Confines

/-! ## Isolation -/

/-- The policies let a session touch just the rows of the owners it sees. -/
structure Isolates (ps : RowPolicies σ ρ) (sees : σ → τ → Bool) (owner : ρ → τ) : Prop where
  allows : ∀ c s r, c ≠ .insert → ps.allows c s r = sees s (owner r)
  allowsNew : ∀ c s r, c ≠ .select → ps.allowsNew c s r = sees s (owner r)

section Isolates

variable {ps : RowPolicies σ ρ} {sees : σ → τ → Bool} {owner : ρ → τ} {s : σ}

theorem Isolates.confines (h : Isolates ps sees owner) : Confines ps sees owner where
  reads s r hr := (h.allows .select s r nofun).symm.trans hr
  inserts s r hr := (h.allowsNew .insert s r nofun).symm.trans hr

theorem Isolates.target (h : Isolates ps sees owner) {c : RowCommand} (hc : c ≠ .insert) (s : σ)
    (cond : ρ → Bool) (r : ρ) : ps.target c s cond r = (sees s (owner r) && cond r) := by
  rw [RowPolicies.target, h.allows .select s r nofun, h.allows c s r hc, Bool.and_self]

theorem Isolates.accepts (h : Isolates ps sees owner) (s : σ) (r : ρ) :
    ps.accepts s r = sees s (owner r) := by
  rw [RowPolicies.accepts, h.allows .select s r nofun, h.allowsNew .update s r nofun,
    Bool.and_self]

variable [DecidableEq τ]

theorem filter_target (h : Isolates ps sees owner) {t : τ} (hs : ∀ u, sees s u = decide (u = t))
    {c : RowCommand} (hc : c ≠ .insert) (cond : ρ → Bool) (rows : List ρ) :
    (rowsOf owner t rows).filter (ps.target c s cond) = rows.filter (ps.target c s cond) := by
  rw [rowsOf, List.filter_filter]
  refine List.filter_congr fun r _ => ?_
  rw [h.target hc, hs]
  cases decide (owner r = t) <;> simp

/-- A session that sees one owner is served as from a table with this owner's rows only. -/
theorem exec_own (h : Isolates ps sees owner) {t : τ} (hs : ∀ u, sees s u = decide (u = t))
    (st : RowStatement ρ) (rows : List ρ) :
    ps.exec s st (rowsOf owner t rows) =
      ((ps.exec s st rows).1, rowsOf owner t (ps.exec s st rows).2) := by
  cases st with
  | select cond =>
    rw [exec, exec, filter_target h hs (c := .select) nofun]
  | insert new returning =>
    rw [exec, exec]
    split
    next hall =>
      have hown : rowsOf owner t new = new := List.filter_eq_self.mpr fun r hr => by
        have hr' := List.all_eq_true.mp hall r hr
        rw [acceptsNew, h.allowsNew .insert s r nofun, hs] at hr'
        exact (Bool.and_eq_true_iff.mp hr').1
      rw [rowsOf_append, hown]
    next => rfl
  | update cond set =>
    rw [exec, exec, filter_target h hs (c := .update) nofun]
    split
    next hall =>
      refine Prod.ext rfl (rowsOf_map_own fun r hr => ?_).symm
      split
      next ht =>
        have ha := List.all_eq_true.mp hall r (List.mem_filter.mpr ⟨hr, ht⟩)
        rw [h.accepts, hs, decide_eq_true_eq] at ha
        rw [h.target (c := .update) nofun, hs, Bool.and_eq_true, decide_eq_true_eq] at ht
        exact iff_of_true ha ht.1
      next => rfl
    next => rfl
  | delete cond =>
    rw [exec, exec, filter_target h hs (c := .delete) nofun]
    refine Prod.ext rfl ?_
    simp only [rowsOf, List.filter_filter]
    exact List.filter_congr fun r _ => Bool.and_comm _ _

end Isolates

/-! ## Constraints

What the constraints of a table say of all rows, they say of one owner's rows, when the rows of the
others meet them already. -/

section Constraints

variable [DecidableEq τ] {κ : Type} {owner : ρ → τ} {t : τ} {rows : List ρ}

/-- A condition on every row. -/
theorem forall_rowsOf_iff {P : ρ → Prop} (hothers : ∀ r ∈ rows, owner r ≠ t → P r) :
    (∀ r ∈ rows, P r) ↔ ∀ r ∈ rowsOf owner t rows, P r := by
  constructor
  · exact fun h r hr => h r (mem_rowsOf.mp hr).1
  · intro h r hr
    by_cases ht : owner r = t
    · exact h r (mem_rowsOf.mpr ⟨hr, ht⟩)
    · exact hothers r hr ht

/-- A unique key. -/
theorem nodup_rowsOf_iff {key : ρ → κ}
    (hothers : ((rows.filter fun r => owner r ≠ t).map key).Nodup)
    (hfresh : ∀ r ∈ rows, owner r = t → ∀ q ∈ rows, owner q ≠ t → key r ≠ key q) :
    (rows.map key).Nodup ↔ ((rowsOf owner t rows).map key).Nodup := by
  have hperm : (rows.map key).Perm
      ((rowsOf owner t rows).map key ++ (rows.filter fun r => owner r ≠ t).map key) := by
    rw [← List.map_append]
    refine List.Perm.map key ((List.filter_append_perm (fun r => decide (owner r = t)) rows).symm.trans
      (List.Perm.of_eq ?_))
    simp [rowsOf]
  rw [hperm.nodup_iff, List.nodup_append]
  refine ⟨fun h => h.1, fun h => ⟨h, hothers, ?_⟩⟩
  intro k hk k' hk'
  obtain ⟨r, hr, rfl⟩ := List.mem_map.mp hk
  obtain ⟨q, hq, rfl⟩ := List.mem_map.mp hk'
  obtain ⟨hr, ht⟩ := mem_rowsOf.mp hr
  obtain ⟨hq, hqt⟩ := List.mem_filter.mp hq
  exact hfresh r hr ht q hq (by simpa using hqt)

end Constraints

/-! ## Logs -/

/-- No policy lets a session change or remove a stored row. -/
structure AppendOnly (ps : RowPolicies σ ρ) : Prop where
  update : ∀ s r, ps.allows .update s r = false
  delete : ∀ s r, ps.allows .delete s r = false

/-- The table only grows at its end. -/
theorem exec_prefix {ps : RowPolicies σ ρ} (h : AppendOnly ps) (s : σ) (st : RowStatement ρ)
    (rows : List ρ) : rows <+: (ps.exec s st rows).2 := by
  have htarget : ∀ c, (∀ r, ps.allows c s r = false) → ∀ cond r, ps.target c s cond r = false := by
    intro c hc cond r
    rw [target, hc]
    simp
  cases st with
  | select cond => exact List.prefix_rfl
  | insert new returning =>
    rw [exec]
    split
    · exact List.prefix_append rows new
    · exact List.prefix_rfl
  | update cond set =>
    have hrows : (rows.map fun r => if ps.target .update s cond r then set r else r) = rows := by
      refine (List.map_congr_left fun r _ => ?_).trans (List.map_id rows)
      rw [htarget .update (h.update s)]
      rfl
    rw [exec]
    split
    · rw [hrows]
    · exact List.prefix_rfl
  | delete cond =>
    have hrows : (rows.filter fun r => !ps.target .delete s cond r) = rows :=
      List.filter_eq_self.mpr fun r _ => by rw [htarget .delete (h.delete s)]; rfl
    rw [exec, hrows]

end RowPolicies

end SaasChassis.Lib
