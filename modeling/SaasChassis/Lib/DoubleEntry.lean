/-
  Double-entry records over any account type and any linearly ordered commutative group of
  amounts. Nothing here names a program.

  A `Leg` is one line of an entry: an account with a debit and a credit. `debitOn a`,
  `creditOn a` and `netOn a` are the totals of a list of legs on one account.
  `carry a x` is the leg list that moves the net of `a` by `x` (empty when `x = 0`), and
  `carryAll as f` does so for every account of `as`.

  Used by the ledger:
  * totals over appended, permuted and swapped leg lists (`netOn_append`, `debitOn_swap`);
  * the join of a grouped total with a list of accounts (`sum_debitOn`), and when such a join
    loses nothing (`join_lossless_iff`);
  * the algebra of a sweep (`netOn_carryAll`, `balance_carryAll`).
-/
import Mathlib.Algebra.BigOperators.Group.List.Basic
import Mathlib.Algebra.Order.Group.Defs
import Mathlib.Algebra.Order.BigOperators.Group.List
import Mathlib.Data.List.Nodup
import Mathlib.Tactic.Abel
import Mathlib.Tactic.Linarith

namespace SaasChassis.Lib

/-- One line of an entry: an account with the amount debited and the amount credited. -/
structure Leg (α M : Type) where
  account : α
  debit : M
  credit : M
deriving DecidableEq

namespace Leg

variable {α M : Type}

section Totals

variable [AddCommGroup M]

/-- Debit minus credit. -/
def net (l : Leg α M) : M := l.debit - l.credit

/-- The leg of a reversal: debit and credit exchanged. -/
def swap (l : Leg α M) : Leg α M := ⟨l.account, l.credit, l.debit⟩

def debits (ls : List (Leg α M)) : M := (ls.map debit).sum

def credits (ls : List (Leg α M)) : M := (ls.map credit).sum

/-- Debits minus credits over the whole list. -/
def balance (ls : List (Leg α M)) : M := debits ls - credits ls

theorem debits_append (xs ys : List (Leg α M)) : debits (xs ++ ys) = debits xs + debits ys := by
  simp [debits]

theorem credits_append (xs ys : List (Leg α M)) :
    credits (xs ++ ys) = credits xs + credits ys := by
  simp [credits]

theorem balance_append (xs ys : List (Leg α M)) :
    balance (xs ++ ys) = balance xs + balance ys := by
  rw [balance, debits_append, credits_append, balance, balance]
  abel

theorem debits_swap (ls : List (Leg α M)) : debits (ls.map swap) = credits ls := by
  simp [debits, credits, swap, Function.comp_def]

theorem credits_swap (ls : List (Leg α M)) : credits (ls.map swap) = debits ls := by
  simp [debits, credits, swap, Function.comp_def]

theorem debits_flatMap {β : Type} (f : β → List (Leg α M)) (xs : List β) :
    debits (xs.flatMap f) = (xs.map fun x => debits (f x)).sum := by
  induction xs with
  | nil => rfl
  | cons x xs ih => rw [List.flatMap_cons, debits_append, ih, List.map_cons, List.sum_cons]

theorem credits_flatMap {β : Type} (f : β → List (Leg α M)) (xs : List β) :
    credits (xs.flatMap f) = (xs.map fun x => credits (f x)).sum := by
  induction xs with
  | nil => rfl
  | cons x xs ih => rw [List.flatMap_cons, credits_append, ih, List.map_cons, List.sum_cons]

variable [DecidableEq α]

/-- The legs on account `a`. -/
def onAccount (a : α) (ls : List (Leg α M)) : List (Leg α M) := ls.filter (·.account = a)

def debitOn (a : α) (ls : List (Leg α M)) : M := debits (onAccount a ls)

def creditOn (a : α) (ls : List (Leg α M)) : M := credits (onAccount a ls)

/-- Debits minus credits on account `a`. -/
def netOn (a : α) (ls : List (Leg α M)) : M := debitOn a ls - creditOn a ls

@[simp] theorem debitOn_nil (a : α) : debitOn a ([] : List (Leg α M)) = 0 := rfl

@[simp] theorem creditOn_nil (a : α) : creditOn a ([] : List (Leg α M)) = 0 := rfl

@[simp] theorem netOn_nil (a : α) : netOn a ([] : List (Leg α M)) = 0 := by simp [netOn]

theorem debitOn_cons (a : α) (l : Leg α M) (ls : List (Leg α M)) :
    debitOn a (l :: ls) = (if l.account = a then l.debit else 0) + debitOn a ls := by
  unfold debitOn onAccount debits
  by_cases h : l.account = a <;> simp [h]

theorem creditOn_cons (a : α) (l : Leg α M) (ls : List (Leg α M)) :
    creditOn a (l :: ls) = (if l.account = a then l.credit else 0) + creditOn a ls := by
  unfold creditOn onAccount credits
  by_cases h : l.account = a <;> simp [h]

theorem netOn_cons (a : α) (l : Leg α M) (ls : List (Leg α M)) :
    netOn a (l :: ls) = (if l.account = a then l.net else 0) + netOn a ls := by
  rw [netOn, debitOn_cons, creditOn_cons, netOn]
  by_cases h : l.account = a
  · simp only [h, if_true, net]
    abel
  · simp [h]

theorem debitOn_append (a : α) (xs ys : List (Leg α M)) :
    debitOn a (xs ++ ys) = debitOn a xs + debitOn a ys := by
  simp [debitOn, onAccount, debits_append]

theorem creditOn_append (a : α) (xs ys : List (Leg α M)) :
    creditOn a (xs ++ ys) = creditOn a xs + creditOn a ys := by
  simp [creditOn, onAccount, credits_append]

theorem netOn_append (a : α) (xs ys : List (Leg α M)) :
    netOn a (xs ++ ys) = netOn a xs + netOn a ys := by
  rw [netOn, debitOn_append, creditOn_append, netOn, netOn]
  abel

omit [AddCommGroup M] in
theorem onAccount_swap (a : α) (ls : List (Leg α M)) :
    onAccount a (ls.map swap) = (onAccount a ls).map swap := by
  rw [onAccount, List.filter_map]
  rfl

theorem debitOn_swap (a : α) (ls : List (Leg α M)) :
    debitOn a (ls.map swap) = creditOn a ls := by
  rw [debitOn, onAccount_swap, debits_swap]
  rfl

theorem creditOn_swap (a : α) (ls : List (Leg α M)) :
    creditOn a (ls.map swap) = debitOn a ls := by
  rw [creditOn, onAccount_swap, credits_swap]
  rfl

/-- A reversal contributes the opposite of what it reverses. -/
theorem netOn_swap (a : α) (ls : List (Leg α M)) : netOn a (ls.map swap) = -netOn a ls := by
  rw [netOn, debitOn_swap, creditOn_swap, netOn, neg_sub]

theorem debitOn_perm {xs ys : List (Leg α M)} (h : xs.Perm ys) (a : α) :
    debitOn a xs = debitOn a ys :=
  ((h.filter _).map debit).sum_eq

theorem creditOn_perm {xs ys : List (Leg α M)} (h : xs.Perm ys) (a : α) :
    creditOn a xs = creditOn a ys :=
  ((h.filter _).map credit).sum_eq

/-- A total over a concatenation is the sum of the totals of the parts. -/
theorem debitOn_flatMap {β : Type} (a : α) (f : β → List (Leg α M)) (xs : List β) :
    debitOn a (xs.flatMap f) = (xs.map fun x => debitOn a (f x)).sum := by
  induction xs with
  | nil => rfl
  | cons x xs ih => rw [List.flatMap_cons, debitOn_append, ih, List.map_cons, List.sum_cons]

theorem creditOn_flatMap {β : Type} (a : α) (f : β → List (Leg α M)) (xs : List β) :
    creditOn a (xs.flatMap f) = (xs.map fun x => creditOn a (f x)).sum := by
  induction xs with
  | nil => rfl
  | cons x xs ih => rw [List.flatMap_cons, creditOn_append, ih, List.map_cons, List.sum_cons]

theorem netOn_flatMap {β : Type} (a : α) (f : β → List (Leg α M)) (xs : List β) :
    netOn a (xs.flatMap f) = (xs.map fun x => netOn a (f x)).sum := by
  induction xs with
  | nil => simp
  | cons x xs ih => rw [List.flatMap_cons, netOn_append, ih, List.map_cons, List.sum_cons]

/-! ## The join of the grouped totals with a list of accounts -/

theorem sum_map_ite_eq_of_nodup {as : List α} (h : as.Nodup) (b : α) (x : M) :
    (as.map fun a => if b = a then x else 0).sum = if b ∈ as then x else 0 := by
  induction as with
  | nil => simp
  | cons a as ih =>
    obtain ⟨hna, hnd⟩ := List.nodup_cons.mp h
    rw [List.map_cons, List.sum_cons, ih hnd]
    by_cases hb : b = a
    · subst hb
      simp [hna]
    · simp [hb]

/-- Summing the per-account debits over distinct accounts keeps exactly the legs whose
    account is listed. -/
theorem sum_debitOn {as : List α} (h : as.Nodup) (ls : List (Leg α M)) :
    (as.map fun a => debitOn a ls).sum = debits (ls.filter (·.account ∈ as)) := by
  induction ls with
  | nil => simp [debits]
  | cons l ls ih =>
    simp only [debitOn_cons, List.sum_map_add, ih, sum_map_ite_eq_of_nodup h]
    by_cases hl : l.account ∈ as <;> simp [hl, debits]

theorem sum_creditOn {as : List α} (h : as.Nodup) (ls : List (Leg α M)) :
    (as.map fun a => creditOn a ls).sum = credits (ls.filter (·.account ∈ as)) := by
  induction ls with
  | nil => simp [credits]
  | cons l ls ih =>
    simp only [creditOn_cons, List.sum_map_add, ih, sum_map_ite_eq_of_nodup h]
    by_cases hl : l.account ∈ as <;> simp [hl, credits]

end Totals

/-! ## One-sided legs -/

section Ordered

variable [AddCommGroup M] [LinearOrder M]

/-- Exactly one side is strictly positive and the other is zero. -/
def OneSided (l : Leg α M) : Prop :=
  (0 < l.debit ∧ l.credit = 0) ∨ (0 < l.credit ∧ l.debit = 0)

instance (l : Leg α M) : Decidable l.OneSided :=
  inferInstanceAs (Decidable ((0 < l.debit ∧ l.credit = 0) ∨ (0 < l.credit ∧ l.debit = 0)))

theorem oneSided_swap {l : Leg α M} : l.swap.OneSided ↔ l.OneSided := by
  simp only [OneSided, swap]
  exact or_comm

theorem OneSided.debit_nonneg {l : Leg α M} (h : l.OneSided) : 0 ≤ l.debit := by
  rcases h with h | h
  · exact h.1.le
  · exact h.2.ge

theorem OneSided.credit_nonneg {l : Leg α M} (h : l.OneSided) : 0 ≤ l.credit := by
  rcases h with h | h
  · exact h.2.ge
  · exact h.1.le

section Monotone

variable [IsOrderedAddMonoid M]

theorem debits_nonneg {ls : List (Leg α M)} (h : ∀ l ∈ ls, l.OneSided) : 0 ≤ debits ls := by
  refine List.sum_nonneg fun x hx => ?_
  obtain ⟨l, hl, rfl⟩ := List.mem_map.mp hx
  exact (h l hl).debit_nonneg

theorem credits_nonneg {ls : List (Leg α M)} (h : ∀ l ∈ ls, l.OneSided) : 0 ≤ credits ls := by
  refine List.sum_nonneg fun x hx => ?_
  obtain ⟨l, hl, rfl⟩ := List.mem_map.mp hx
  exact (h l hl).credit_nonneg

/-- A non-empty list of one-sided legs moves something. -/
theorem debits_add_credits_pos {ls : List (Leg α M)} (h : ∀ l ∈ ls, l.OneSided) (hne : ls ≠ []) :
    0 < debits ls + credits ls := by
  cases ls with
  | nil => exact absurd rfl hne
  | cons l ls =>
    have hd := debits_nonneg fun k hk => h k (List.mem_cons_of_mem l hk)
    have hc := credits_nonneg fun k hk => h k (List.mem_cons_of_mem l hk)
    have hl : 0 < l.debit + l.credit := by
      rcases h l List.mem_cons_self with ⟨h1, h2⟩ | ⟨h1, h2⟩
      · rwa [h2, add_zero]
      · rwa [h2, zero_add]
    have e : debits (l :: ls) + credits (l :: ls) =
        (l.debit + l.credit) + (debits ls + credits ls) := by
      simp only [debits, credits, List.map_cons, List.sum_cons]
      abel
    rw [e]
    exact add_pos_of_pos_of_nonneg hl (add_nonneg hd hc)

/-- A non-empty balanced list of one-sided legs has a positive total. -/
theorem debits_pos_of_balanced {ls : List (Leg α M)} (h : ∀ l ∈ ls, l.OneSided) (hne : ls ≠ [])
    (hb : debits ls = credits ls) : 0 < debits ls := by
  have hpos := debits_add_credits_pos h hne
  rw [← hb] at hpos
  by_contra hle
  exact absurd hpos (not_lt.mpr (add_nonpos (not_lt.mp hle) (not_lt.mp hle)))

/-- Keeping only the legs that satisfy `p` keeps both totals exactly when every leg does. -/
theorem filter_totals_iff {ls : List (Leg α M)} (h : ∀ l ∈ ls, l.OneSided) (p : Leg α M → Bool) :
    (debits (ls.filter p) = debits ls ∧ credits (ls.filter p) = credits ls) ↔
      ∀ l ∈ ls, p l = true := by
  have split : debits ls + credits ls = (debits (ls.filter p) + credits (ls.filter p)) +
      (debits (ls.filter fun l => !p l) + credits (ls.filter fun l => !p l)) := by
    induction ls with
    | nil => simp [debits, credits]
    | cons l ls ih =>
      have ih := ih fun k hk => h k (List.mem_cons_of_mem l hk)
      simp only [debits, credits] at ih
      cases hp : p l <;> simp only [debits, credits, List.filter_cons, hp, List.map_cons,
        List.sum_cons, if_true, Bool.not_true, Bool.not_false, Bool.false_eq_true, if_false]
      · rw [add_add_add_comm, ih]
        abel
      · rw [add_add_add_comm, ih]
        abel
  constructor
  · rintro ⟨hd, hc⟩ l hl
    by_contra hp
    have hmem : l ∈ ls.filter fun l => !p l := List.mem_filter.mpr ⟨hl, by simpa using hp⟩
    have hpos := debits_add_credits_pos
      (fun k hk => h k (List.mem_of_mem_filter hk)) (List.ne_nil_of_mem hmem)
    rw [hd, hc] at split
    exact absurd (left_eq_add.mp split) hpos.ne'
  · intro hall
    rw [List.filter_eq_self.mpr hall]
    exact ⟨rfl, rfl⟩

/-- The join loses nothing on either side exactly when every leg names a listed account. -/
theorem join_lossless_iff [DecidableEq α] {as : List α} (hnd : as.Nodup) {ls : List (Leg α M)}
    (h : ∀ l ∈ ls, l.OneSided) :
    ((as.map fun a => debitOn a ls).sum = debits ls ∧
      (as.map fun a => creditOn a ls).sum = credits ls) ↔ ∀ l ∈ ls, l.account ∈ as := by
  rw [sum_debitOn hnd, sum_creditOn hnd, filter_totals_iff h]
  simp

end Monotone

/-! ## Sweeping a net onto accounts -/

/-- The legs that move the net of `a` by `x`: a debit, a credit, or nothing. -/
def carry (a : α) (x : M) : List (Leg α M) :=
  if 0 < x then [⟨a, x, 0⟩] else if x < 0 then [⟨a, 0, -x⟩] else []

theorem carry_eq_nil {a : α} {x : M} : carry a x = [] ↔ x = 0 := by
  unfold carry
  split
  · next h => simp [h.ne']
  · next h =>
    split
    · next h' => simp [h'.ne]
    · next h' => simp [le_antisymm (not_lt.mp h) (not_lt.mp h')]

theorem oneSided_carry [IsOrderedAddMonoid M] {a : α} {x : M} : ∀ l ∈ carry a x, l.OneSided := by
  unfold carry
  split
  · next h => simp [OneSided, h]
  · split
    · next h => simp [OneSided, h]
    · simp

theorem account_of_mem_carry {a : α} {x : M} {l : Leg α M} (h : l ∈ carry a x) :
    l.account = a := by
  unfold carry at h
  split at h
  · rw [List.mem_singleton.mp h]
  · split at h
    · rw [List.mem_singleton.mp h]
    · exact absurd h List.not_mem_nil

theorem netOn_carry [DecidableEq α] (b a : α) (x : M) :
    netOn b (carry a x) = if b = a then x else 0 := by
  unfold carry
  split
  · simp [netOn_cons, net, eq_comm]
  · next h =>
    split
    · simp [netOn_cons, net, eq_comm]
    · next h' => simp [le_antisymm (not_lt.mp h) (not_lt.mp h')]

theorem balance_carry (a : α) (x : M) : balance (carry a x) = x := by
  unfold carry
  split
  · simp [balance, debits, credits]
  · next h =>
    split
    · simp [balance, debits, credits]
    · next h' =>
      simp [balance, debits, credits, le_antisymm (not_lt.mp h) (not_lt.mp h')]

/-- `carry` for every account of `as`, by the amounts `f`. -/
def carryAll (as : List α) (f : α → M) : List (Leg α M) := as.flatMap fun a => carry a (f a)

theorem carryAll_eq_nil {as : List α} {f : α → M} : carryAll as f = [] ↔ ∀ a ∈ as, f a = 0 := by
  simp [carryAll, List.flatMap_eq_nil_iff, carry_eq_nil]

theorem oneSided_carryAll [IsOrderedAddMonoid M] {as : List α} {f : α → M} :
    ∀ l ∈ carryAll as f, l.OneSided := by
  intro l hl
  obtain ⟨a, _, hl⟩ := List.mem_flatMap.mp hl
  exact oneSided_carry l hl

theorem account_of_mem_carryAll {as : List α} {f : α → M} {l : Leg α M}
    (h : l ∈ carryAll as f) : l.account ∈ as := by
  obtain ⟨a, ha, hl⟩ := List.mem_flatMap.mp h
  rwa [account_of_mem_carry hl]

/-- A sweep moves the net of every listed account by its amount and touches no other. -/
theorem netOn_carryAll [DecidableEq α] {as : List α} (h : as.Nodup) (f : α → M) (b : α) :
    netOn b (carryAll as f) = if b ∈ as then f b else 0 := by
  induction as with
  | nil => simp [carryAll]
  | cons a as ih =>
    obtain ⟨hna, hnd⟩ := List.nodup_cons.mp h
    have e : carryAll (a :: as) f = carry a (f a) ++ carryAll as f := rfl
    rw [e, netOn_append, netOn_carry, ih hnd]
    by_cases hb : b = a
    · subst hb
      simp [hna]
    · simp [hb]

/-- The imbalance of a sweep is the sum of what it moves. -/
theorem balance_carryAll (as : List α) (f : α → M) :
    balance (carryAll as f) = (as.map f).sum := by
  induction as with
  | nil => simp [carryAll, balance, debits, credits]
  | cons a as ih =>
    have e : carryAll (a :: as) f = carry a (f a) ++ carryAll as f := rfl
    rw [e, balance_append, balance_carry, ih, List.map_cons, List.sum_cons]

end Ordered

end Leg

end SaasChassis.Lib
