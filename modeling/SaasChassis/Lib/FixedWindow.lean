/-
  Limits in clock-aligned windows, and what they are worth in sliding ones. Nothing here names a
  program.

  `quota bucket n` keeps the first `n` of each bucket; `allotted` is the same where each element
  brings a limit of its own, and what it keeps of one group of buckets depends on that group alone
  (`filter_allotted`). Of times in order with at most `n` to each
  aligned window of width `w`, a window of that width that starts anywhere holds at most `2 * n`
  (`countP_window_le`), and at most `n` wherever it starts exactly when no two of them more than
  `n - 1` places apart, in neighbouring aligned windows, are less than `w` apart
  (`slidingLimit_iff`).
-/
import Mathlib.Data.List.Induction
import Mathlib.Data.List.NodupEquivFin
import Mathlib.Order.Monotone.Basic

namespace SaasChassis.Lib

/-! ## Quotas -/

section Quota

variable {α β : Type} [DecidableEq β] {bucket : α → β} {n : ℕ}

/-- Those of `l` in the bucket of `x`. -/
def countLike (bucket : α → β) (x : α) (l : List α) : ℕ := l.countP (bucket · = bucket x)

theorem countLike_congr {x y : α} (h : bucket x = bucket y) (l : List α) :
    countLike bucket x l = countLike bucket y l := by
  unfold countLike
  rw [h]

theorem countLike_concat (x y : α) (l : List α) :
    countLike bucket x (l ++ [y]) =
      countLike bucket x l + if bucket y = bucket x then 1 else 0 := by
  unfold countLike
  rw [List.countP_append, List.countP_singleton]
  simp

def quotaAfter (bucket : α → β) (n : ℕ) : List α → List α → List α
  | _, [] => []
  | seen, x :: xs =>
    if countLike bucket x seen < n then x :: quotaAfter bucket n (seen ++ [x]) xs
    else quotaAfter bucket n (seen ++ [x]) xs

/-- The first `n` of each bucket. -/
def quota (bucket : α → β) (n : ℕ) (l : List α) : List α := quotaAfter bucket n [] l

def allottedAfter (bucket : α → β) (limit : α → ℕ) : List α → List α → List α
  | _, [] => []
  | seen, x :: xs =>
    if countLike bucket x seen < limit x then x :: allottedAfter bucket limit (seen ++ [x]) xs
    else allottedAfter bucket limit (seen ++ [x]) xs

/-- Those before which fewer of their bucket have come than their own limit. -/
def allotted (bucket : α → β) (limit : α → ℕ) (l : List α) : List α :=
  allottedAfter bucket limit [] l

variable {limit : α → ℕ}

theorem allottedAfter_concat (seen l : List α) (x : α) :
    allottedAfter bucket limit seen (l ++ [x]) = allottedAfter bucket limit seen l ++
      if countLike bucket x (seen ++ l) < limit x then [x] else [] := by
  induction l generalizing seen with
  | nil =>
    rw [List.append_nil]
    rfl
  | cons y l ih =>
    have hseen : seen ++ y :: l = seen ++ [y] ++ l := by rw [List.append_assoc]; rfl
    rw [List.cons_append, allottedAfter, allottedAfter, ih, hseen]
    split <;> rfl

theorem allotted_concat (l : List α) (x : α) :
    allotted bucket limit (l ++ [x]) =
      allotted bucket limit l ++ if countLike bucket x l < limit x then [x] else [] :=
  allottedAfter_concat [] l x

theorem allotted_of_lt {l : List α} {x : α} (h : countLike bucket x l < limit x) :
    allotted bucket limit (l ++ [x]) = allotted bucket limit l ++ [x] := by
  rw [allotted_concat, if_pos h]

theorem allotted_of_not_lt {l : List α} {x : α} (h : ¬ countLike bucket x l < limit x) :
    allotted bucket limit (l ++ [x]) = allotted bucket limit l := by
  rw [allotted_concat, if_neg h, List.append_nil]

theorem quotaAfter_eq (seen l : List α) :
    quotaAfter bucket n seen l = allottedAfter bucket (fun _ => n) seen l := by
  induction l generalizing seen with
  | nil => rfl
  | cons x l ih => rw [quotaAfter, allottedAfter, ih]

theorem quotaAfter_concat (seen l : List α) (x : α) :
    quotaAfter bucket n seen (l ++ [x]) =
      quotaAfter bucket n seen l ++ if countLike bucket x (seen ++ l) < n then [x] else [] := by
  rw [quotaAfter_eq, quotaAfter_eq]
  exact allottedAfter_concat seen l x

theorem quota_concat (l : List α) (x : α) :
    quota bucket n (l ++ [x]) =
      quota bucket n l ++ if countLike bucket x l < n then [x] else [] :=
  quotaAfter_concat [] l x

theorem quota_of_lt {l : List α} {x : α} (h : countLike bucket x l < n) :
    quota bucket n (l ++ [x]) = quota bucket n l ++ [x] := by
  rw [quota_concat, if_pos h]

theorem quota_of_not_lt {l : List α} {x : α} (h : ¬ countLike bucket x l < n) :
    quota bucket n (l ++ [x]) = quota bucket n l := by
  rw [quota_concat, if_neg h, List.append_nil]

theorem allotted_sublist (bucket : α → β) (limit : α → ℕ) (l : List α) :
    (allotted bucket limit l).Sublist l := by
  induction l using List.reverseRecOn with
  | nil => exact .slnil
  | append_singleton l x ih =>
    rw [allotted_concat]
    split
    · exact ih.append (.refl _)
    · rw [List.append_nil]
      exact ih.trans (List.sublist_append_left l [x])

theorem quota_sublist (bucket : α → β) (n : ℕ) (l : List α) : (quota bucket n l).Sublist l := by
  rw [quota, quotaAfter_eq]
  exact allotted_sublist bucket (fun _ => n) l

theorem countP_quota_le (b : β) (l : List α) : (quota bucket n l).countP (bucket · = b) ≤ n := by
  induction l using List.reverseRecOn with
  | nil => exact Nat.zero_le n
  | append_singleton l x ih =>
    rw [quota_concat, List.countP_append]
    split
    next hlt =>
      rw [List.countP_singleton]
      split
      next hb =>
        obtain rfl : bucket x = b := by simpa using hb
        have hle : (quota bucket n l).countP (bucket · = bucket x) ≤ countLike bucket x l :=
          (quota_sublist bucket n l).countP_le
        omega
      next => exact ih
    next => exact ih

theorem countLike_filter {p : α → Bool} {x : α} (hp : ∀ y, bucket y = bucket x → p y = true)
    (l : List α) : countLike bucket x (l.filter p) = countLike bucket x l := by
  unfold countLike
  rw [List.countP_filter]
  refine List.countP_congr fun y _ => ?_
  rw [Bool.and_eq_true, decide_eq_true_eq]
  exact and_iff_left_of_imp (hp y)

/-- Other groups of buckets take no part. -/
theorem filter_allotted {p : α → Bool} (hp : ∀ x y, bucket x = bucket y → p x = p y) (l : List α) :
    (allotted bucket limit l).filter p = allotted bucket limit (l.filter p) := by
  induction l using List.reverseRecOn with
  | nil => rfl
  | append_singleton l x ih =>
    rw [allotted_concat, List.filter_append, ih, List.filter_append]
    cases hx : p x with
    | true =>
      have hcount := countLike_filter (fun y hy => (hp y x hy).trans hx) l
      rw [List.filter_cons_of_pos hx, List.filter_nil, allotted_concat, hcount]
      split
      · rw [List.filter_cons_of_pos hx, List.filter_nil]
      · rw [List.filter_nil]
    | false =>
      have hout : ¬ p x = true := by rw [hx]; exact Bool.false_ne_true
      rw [List.filter_cons_of_neg hout, List.filter_nil, List.append_nil]
      split
      · rw [List.filter_cons_of_neg hout, List.filter_nil, List.append_nil]
      · rw [List.filter_nil, List.append_nil]

end Quota

/-! ## Windows -/

section Windows

variable {w n : ℕ} {ts : List ℕ}

def inWindow (w x t : ℕ) : Bool := x ≤ t && t < x + w

/-- No window of width `w` holds more than `n`, wherever it starts. -/
def SlidingLimit (w n : ℕ) (ts : List ℕ) : Prop := ∀ x, ts.countP (inWindow w x) ≤ n

/-- No aligned window holds more than `n`. -/
def AlignedLimit (w n : ℕ) (ts : List ℕ) : Prop := ∀ b, ts.countP (· / w = b) ≤ n

/-- What comes in the next aligned window, `n` places later or more, comes at least `w` later. -/
def SpreadOut (w n : ℕ) (ts : List ℕ) : Prop :=
  ∀ i j s t, ts[i]? = some s → ts[j]? = some t → i + n ≤ j → t / w = s / w + 1 → s + w ≤ t

theorem getElem?_le {i j s t : ℕ} (hsorted : ts.Pairwise (· ≤ ·)) (hi : ts[i]? = some s)
    (hj : ts[j]? = some t) (hle : i ≤ j) : s ≤ t := by
  obtain ⟨hi', rfl⟩ := List.getElem?_eq_some_iff.mp hi
  obtain ⟨hj', rfl⟩ := List.getElem?_eq_some_iff.mp hj
  rcases Nat.eq_or_lt_of_le hle with rfl | hlt
  · exact Nat.le_refl _
  · exact List.pairwise_iff_getElem.mp hsorted i j hi' hj' hlt

/-- What stands between two places lies between their values. -/
theorem lt_countP_between {i j s t : ℕ} (hsorted : ts.Pairwise (· ≤ ·)) (hi : ts[i]? = some s)
    (hj : ts[j]? = some t) (hle : i + n ≤ j) : n < ts.countP fun v => s ≤ v && v ≤ t := by
  obtain ⟨hj', -⟩ := List.getElem?_eq_some_iff.mp hj
  have hsub : ((ts.take (j + 1)).drop i).Sublist ts :=
    (List.drop_sublist i _).trans (List.take_sublist (j + 1) ts)
  have hall : ∀ v ∈ (ts.take (j + 1)).drop i, (decide (s ≤ v) && decide (v ≤ t)) = true := by
    intro v hv
    obtain ⟨k, hk⟩ := List.mem_iff_getElem?.mp hv
    rw [List.getElem?_drop, List.getElem?_take] at hk
    split at hk
    next hlt =>
      have hlow := getElem?_le hsorted hi hk (Nat.le_add_right i k)
      have hhigh := getElem?_le hsorted hk hj (Nat.le_of_lt_succ hlt)
      simp [hlow, hhigh]
    next => cases hk
  have hcount := hsub.countP_le (p := fun v => decide (s ≤ v) && decide (v ≤ t))
  rw [List.countP_eq_length.mpr hall, List.length_drop, List.length_take] at hcount
  omega

/-- More than `n` with a property: two of them stand `n` places apart. -/
theorem exists_apart {p : ℕ → Bool} (h : n < ts.countP p) :
    ∃ i j s t, ts[i]? = some s ∧ ts[j]? = some t ∧ i + n ≤ j ∧ p s ∧ p t := by
  obtain ⟨place, hplace⟩ := List.sublist_iff_exists_orderEmbedding_getElem?_eq.mp
    (List.filter_sublist (p := p) (l := ts))
  rw [List.countP_eq_length_filter] at h
  have hmem (k : ℕ) (hk : k ≤ n) : ∃ v, ts[place k]? = some v ∧ p v = true := by
    have hlt : k < (ts.filter p).length := by omega
    refine ⟨(ts.filter p)[k], ?_, (List.mem_filter.mp (List.getElem_mem hlt)).2⟩
    rw [← hplace, List.getElem?_eq_getElem hlt]
  obtain ⟨s, hs, hps⟩ := hmem 0 (Nat.zero_le n)
  obtain ⟨t, ht, hpt⟩ := hmem n (Nat.le_refl n)
  have hfar := place.strictMono.add_le_nat n 0
  exact ⟨place 0, place n, s, t, hs, ht, by rw [Nat.add_comm]; exact hfar, hps, hpt⟩

theorem div_eq_or_succ (hw : 0 < w) {s t : ℕ} (hle : s ≤ t) (hlt : t < s + w) :
    t / w = s / w ∨ t / w = s / w + 1 := by
  have hlow : s / w ≤ t / w := Nat.div_le_div_right hle
  have hhigh : t / w ≤ (s + w) / w := Nat.div_le_div_right hlt.le
  rw [Nat.add_div_right s hw] at hhigh
  omega

theorem slidingLimit_iff (hw : 0 < w) (hsorted : ts.Pairwise (· ≤ ·))
    (haligned : AlignedLimit w n ts) : SlidingLimit w n ts ↔ SpreadOut w n ts := by
  constructor
  · intro h i j s t hi hj hle _
    by_contra hlt
    have hmany : n < ts.countP fun v => decide (s ≤ v) && decide (v ≤ t) :=
      lt_countP_between hsorted hi hj hle
    have hsub : ts.countP (fun v => decide (s ≤ v) && decide (v ≤ t)) ≤
        ts.countP (inWindow w s) := by
      refine List.countP_mono_left fun v _ hv => ?_
      simp only [inWindow, Bool.and_eq_true, decide_eq_true_eq] at hv ⊢
      omega
    exact absurd (h s) (by omega)
  · intro h x
    by_contra hmany
    obtain ⟨i, j, s, t, hi, hj, hle, hs, ht⟩ := exists_apart (Nat.lt_of_not_le hmany)
    simp only [inWindow, Bool.and_eq_true, decide_eq_true_eq] at hs ht
    have hst : s ≤ t := getElem?_le hsorted hi hj (by omega)
    rcases div_eq_or_succ hw hst (by omega) with hsame | hnext
    · have hbetween : n < ts.countP fun v => decide (s ≤ v) && decide (v ≤ t) :=
        lt_countP_between hsorted hi hj hle
      have hbucket : ts.countP (fun v => decide (s ≤ v) && decide (v ≤ t)) ≤
          ts.countP (· / w = s / w) := by
        refine List.countP_mono_left fun v _ hv => ?_
        simp only [Bool.and_eq_true, decide_eq_true_eq] at hv ⊢
        have hlow : s / w ≤ v / w := Nat.div_le_div_right hv.1
        have hhigh : v / w ≤ t / w := Nat.div_le_div_right hv.2
        omega
      exact absurd (haligned (s / w)) (by omega)
    · exact absurd (h i j s t hi hj hle hnext) (by omega)

theorem countP_le_add {p q r : ℕ → Bool} (h : ∀ v, p v = true → q v = true ∨ r v = true)
    (l : List ℕ) : l.countP p ≤ l.countP q + l.countP r := by
  induction l with
  | nil => exact Nat.zero_le _
  | cons v l ih =>
    rw [List.countP_cons, List.countP_cons, List.countP_cons]
    by_cases hp : p v = true
    · rcases h v hp with hq | hr
      · rw [if_pos hp, if_pos hq]
        omega
      · rw [if_pos hp, if_pos hr]
        omega
    · rw [if_neg hp]
      omega

/-- A window meets two aligned ones. -/
theorem countP_window_le (hw : 0 < w) (haligned : AlignedLimit w n ts) (x : ℕ) :
    ts.countP (inWindow w x) ≤ 2 * n := by
  have hsplit : ts.countP (inWindow w x) ≤
      ts.countP (· / w = x / w) + ts.countP (· / w = x / w + 1) := by
    refine countP_le_add (fun t ht => ?_) ts
    simp only [inWindow, Bool.and_eq_true, decide_eq_true_eq] at ht ⊢
    exact div_eq_or_succ hw ht.1 ht.2
  have hfirst := haligned (x / w)
  have hsecond := haligned (x / w + 1)
  omega

end Windows

end SaasChassis.Lib
