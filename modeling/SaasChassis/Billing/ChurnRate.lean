/-
  The churn rate of a month, as the revenue page has it and as it is.

  `getChurnRate` divides canceled rows that were updated this month by rows created before it.
  `churnRate` reads it off the history of the calls that wrote the rows: of the subscriptions that
  were there and not canceled when the month began (`live`), those that became canceled in it
  (`churned`). `getChurnRate_iff` says when the two agree: the query counts canceled rows that are
  not of those (`extra`), misses the ones that came back (`reactivated`), and divides by rows that
  were canceled before (`canceledBefore`).
-/
import Mathlib.Algebra.Order.Field.Basic
import Mathlib.Algebra.Order.Ring.Rat
import Mathlib.Data.List.TakeWhile
import Mathlib.Tactic.Linarith
import Mathlib.Tactic.Positivity
import Mathlib.Tactic.Ring
import SaasChassis.Billing.Timestamps

namespace SaasChassis.Billing

open SaasChassis.Lib

/-- `DATE_TRUNC('month', NOW())` is `monthStart`. -/
def getChurnRate (monthStart : ℤ) (rows : List StampedSubscription) : ℚ :=
  let churnedCount := rows.countP fun s => s.row.status = .canceled ∧ monthStart ≤ s.updatedAt
  let totalAtStart := rows.countP fun s => s.createdAt < monthStart
  if totalAtStart = 0 then 0 else churnedCount / totalAtStart

/-! ## Histories -/

/-- A call at its time. -/
def stepAt (rows : List StampedSubscription) (entry : ℤ × SubscriptionCall) :
    List StampedSubscription :=
  entry.2.apply entry.1 rows

/-- The rows after calls with their times. -/
def rowsAfter (history : List (ℤ × SubscriptionCall)) : List StampedSubscription :=
  run stepAt [] history

namespace Churn

def statusOf (rows : List StampedSubscription) (tenantId : String) : Option SubscriptionStatus :=
  (byTenant tenantId (rowsOf rows)).map (·.status)

section Month

variable (monthStart : ℤ) (history : List (ℤ × SubscriptionCall))

/-- The rows when the month began. -/
def atStart : List StampedSubscription := rowsAfter (history.takeWhile (·.1 < monthStart))

def inMonth : List (ℤ × SubscriptionCall) := history.dropWhile (·.1 < monthStart)

/-- The tenants whose subscription was there and not canceled when the month began. -/
def live : List String :=
  ((atStart monthStart history).filter (·.row.status ≠ .canceled)).map (·.row.tenantId)

/-- Those of them whose subscription was canceled at some time in the month. -/
def churned : List String :=
  (live monthStart history).filter fun tenantId =>
    (inMonth monthStart history).inits.any fun calls =>
      statusOf (run stepAt (atStart monthStart history) calls) tenantId = some .canceled

def churnRate : ℚ :=
  if (live monthStart history).length = 0 then 0
  else (churned monthStart history).length / (live monthStart history).length

/-- The canceled rows the query counts that were not live when the month began. -/
def extra : ℕ :=
  (rowsAfter history).countP fun s =>
    (s.row.status = .canceled ∧ monthStart ≤ s.updatedAt) ∧
      s.row.tenantId ∉ live monthStart history

/-- The subscriptions that churned and are no longer canceled. -/
def reactivated : ℕ :=
  (churned monthStart history).countP fun tenantId =>
    statusOf (rowsAfter history) tenantId ≠ some .canceled

def canceledBefore : ℕ := (atStart monthStart history).countP (·.row.status = .canceled)

/-- What is counted beyond the churned subscriptions makes up for what is missed. -/
def Balanced : Prop :=
  if (live monthStart history).length = 0 then
    extra monthStart history = 0 ∨ canceledBefore monthStart history = 0
  else
    extra monthStart history * (live monthStart history).length =
      (churned monthStart history).length * canceledBefore monthStart history +
        reactivated monthStart history * (live monthStart history).length

end Month

end Churn

/-! ## What a call does to the rows -/

/-- A row before and after a call at `now`. -/
structure Restamped (now : ℤ) (s s' : StampedSubscription) : Prop where
  tenant : s'.row.tenantId = s.row.tenantId
  created : s'.createdAt = s.createdAt
  updated : s' = s ∨ s'.updatedAt = now

theorem save_restamped (now : ℤ) {new : Subscription} {s : StampedSubscription}
    (h : s.row.tenantId = new.tenantId) : Restamped now s (s.save now new) := by
  unfold StampedSubscription.save
  split
  · exact ⟨rfl, rfl, Or.inl rfl⟩
  · exact ⟨h.symm, rfl, Or.inr rfl⟩

/-- Rows are rewritten where they are, or one is added for a tenant that has none. -/
inductive Wrote (now : ℤ) (rows : List StampedSubscription) : List StampedSubscription → Prop
  | rewritten (g : StampedSubscription → StampedSubscription) (h : ∀ s, Restamped now s (g s)) :
      Wrote now rows (rows.map g)
  | inserted (row : Subscription) (h : row.tenantId ∉ rows.map (·.row.tenantId)) :
      Wrote now rows (rows ++ [{ row := row, createdAt := now, updatedAt := now }])

theorem wrote_updateKey {now : ℤ} {tenantId : String}
    {g : StampedSubscription → StampedSubscription}
    (h : ∀ s, s.row.tenantId = tenantId → Restamped now s (g s))
    (rows : List StampedSubscription) :
    Wrote now rows (updateKey (·.row.tenantId) tenantId g rows) := by
  refine .rewritten _ fun s => ?_
  split
  next hkey => exact h s hkey
  next => exact ⟨rfl, rfl, Or.inl rfl⟩

theorem Wrote.refl (now : ℤ) (rows : List StampedSubscription) : Wrote now rows rows := by
  have hid : Wrote now rows (rows.map id) := .rewritten id fun _ => ⟨rfl, rfl, Or.inl rfl⟩
  rwa [List.map_id] at hid

theorem wrote_saveFound (now : ℤ) (found : Option Subscription) {f : Subscription → Subscription}
    (hf : ∀ row, (f row).tenantId = row.tenantId) (rows : List StampedSubscription) :
    Wrote now rows (saveFound now found f rows) := by
  cases found with
  | none => exact .refl now rows
  | some sub =>
    exact wrote_updateKey (fun s hs => save_restamped now (hs.trans (hf sub).symm)) rows

theorem wrote_updateFound (now : ℤ) (tenantId : String) {f : Subscription → Subscription}
    (hf : ∀ row, (f row).tenantId = row.tenantId) (rows : List StampedSubscription) :
    Wrote now rows (updateFound now tenantId f rows) :=
  wrote_updateKey (g := StampedSubscription.update now f)
    (fun s _ => ⟨hf s.row, rfl, Or.inr rfl⟩) rows

theorem apply_wrote (now : ℤ) (call : SubscriptionCall) (rows : List StampedSubscription) :
    Wrote now rows (call.apply now rows) := by
  cases call with
  | create dto =>
    simp only [SubscriptionCall.apply]
    cases hfound : byTenant dto.tenantId (rowsOf rows) with
    | some sub => exact .refl now rows
    | none =>
      refine .inserted _ fun hmem => ?_
      obtain ⟨s, hs, hkey⟩ := List.mem_map.mp hmem
      exact List.find?_eq_none.mp hfound s.row (List.mem_map_of_mem hs) (decide_eq_true hkey)
  | updateFromStripe dto => exact wrote_saveFound now _ (f := dto.patch) (fun _ => rfl) rows
  | linkStripeSubscription customer sid status periodStart periodEnd =>
    exact wrote_saveFound now _ (f := SubscriptionCall.linked sid status periodStart periodEnd)
      (fun _ => rfl) rows
  | updateStatusByTenantId tenantId status =>
    refine wrote_updateFound now tenantId ?_ rows
    exact fun _ => rfl
  | linkStripeCustomerId tenantId customer =>
    refine wrote_updateFound now tenantId ?_ rows
    exact fun _ => rfl

section Wrote

variable {now : ℤ} {rows rows' : List StampedSubscription}

theorem Wrote.tenants (h : Wrote now rows rows') (hnd : (rows.map (·.row.tenantId)).Nodup) :
    (rows'.map (·.row.tenantId)).Nodup := by
  cases h with
  | rewritten g hg =>
    have hkeys : (rows.map g).map (·.row.tenantId) = rows.map (·.row.tenantId) := by
      rw [List.map_map]
      exact List.map_congr_left fun s _ => (hg s).tenant
    rwa [hkeys]
  | inserted row hrow =>
    rw [List.map_append, List.map_singleton]
    exact hnd.append (List.nodup_singleton _) (List.disjoint_singleton.mpr hrow)

/-- Every row of the month before is counted, and no other one. -/
theorem Wrote.countP_created (h : Wrote now rows rows') {monthStart : ℤ} (hnow : monthStart ≤ now) :
    rows'.countP (·.createdAt < monthStart) = rows.countP (·.createdAt < monthStart) := by
  cases h with
  | rewritten g hg =>
    rw [List.countP_map]
    refine List.countP_congr fun s _ => ?_
    simp only [Function.comp, (hg s).created]
  | inserted row hrow =>
    rw [List.countP_append]
    simp only [List.countP_singleton, decide_eq_true_eq, Int.not_lt.mpr hnow, if_false,
      Nat.add_zero]

theorem Wrote.created_lt (h : Wrote now rows rows') {monthStart : ℤ} (hnow : now < monthStart)
    (hrows : ∀ s ∈ rows, s.createdAt < monthStart) : ∀ s ∈ rows', s.createdAt < monthStart := by
  intro s hs
  cases h with
  | rewritten g hg =>
    obtain ⟨q, hq, rfl⟩ := List.mem_map.mp hs
    rw [(hg q).created]
    exact hrows q hq
  | inserted row hrow =>
    obtain hs | hs := List.mem_append.mp hs
    · exact hrows s hs
    · rw [List.mem_singleton.mp hs]
      exact hnow

/-- A row that is not as it was has been updated since. -/
theorem Wrote.updated_le (h : Wrote now rows rows') {monthStart : ℤ} (hnow : monthStart ≤ now)
    {start : List StampedSubscription} (hrows : ∀ s ∈ rows, s ∈ start ∨ monthStart ≤ s.updatedAt) :
    ∀ s ∈ rows', s ∈ start ∨ monthStart ≤ s.updatedAt := by
  intro s hs
  cases h with
  | rewritten g hg =>
    obtain ⟨q, hq, rfl⟩ := List.mem_map.mp hs
    obtain hsame | hnew := (hg q).updated
    · rw [hsame]
      exact hrows q hq
    · exact Or.inr (hnew ▸ hnow)
  | inserted row hrow =>
    obtain hs | hs := List.mem_append.mp hs
    · exact hrows s hs
    · rw [List.mem_singleton.mp hs]
      exact Or.inr hnow

end Wrote

/-! ## A month of calls -/

namespace Churn

theorem statusOf_eq_some_iff {rows : List StampedSubscription}
    (hnd : (rows.map (·.row.tenantId)).Nodup) {tenantId : String} {status : SubscriptionStatus} :
    statusOf rows tenantId = some status ↔
      ∃ s ∈ rows, s.row.status = status ∧ s.row.tenantId = tenantId := by
  have hrows : ((rowsOf rows).map (·.tenantId)).Nodup := by
    rw [rowsOf, List.map_map]
    exact hnd
  constructor
  · intro h
    obtain ⟨row, hfound, hstatus⟩ := Option.map_eq_some_iff.mp h
    obtain ⟨s, hs, rfl⟩ := List.mem_map.mp (List.mem_of_find?_eq_some hfound)
    exact ⟨s, hs, hstatus, by simpa using List.find?_some hfound⟩
  · rintro ⟨s, hs, rfl, rfl⟩
    rw [statusOf, byTenant, find?_key hrows (List.mem_map_of_mem hs), Option.map_some]

theorem rowsAfter_tenants (history : List (ℤ × SubscriptionCall)) :
    ((rowsAfter history).map (·.row.tenantId)).Nodup :=
  run_invariant (I := fun rows => (rows.map (·.row.tenantId)).Nodup)
    (fun rows entry h => (apply_wrote entry.1 entry.2 rows).tenants h) List.nodup_nil history

section Counts

variable {monthStart : ℤ} {history : List (ℤ × SubscriptionCall)}

theorem atStart_created : ∀ s ∈ atStart monthStart history, s.createdAt < monthStart := by
  refine run_invariant_mem (I := fun rows : List StampedSubscription =>
    ∀ s ∈ rows, s.createdAt < monthStart) ?_ fun _ h => absurd h List.not_mem_nil
  intro rows h entry hentry
  have hnow : entry.1 < monthStart := by simpa using List.mem_takeWhile_imp hentry
  exact (apply_wrote entry.1 entry.2 rows).created_lt hnow h

theorem rowsAfter_eq (monthStart : ℤ) (history : List (ℤ × SubscriptionCall)) :
    rowsAfter history = run stepAt (atStart monthStart history) (inMonth monthStart history) := by
  rw [atStart, rowsAfter, rowsAfter, ← run_append, inMonth, List.takeWhile_append_dropWhile]

/-- The rows that were there are canceled or live. -/
theorem atStart_length : (atStart monthStart history).length =
    canceledBefore monthStart history + (live monthStart history).length := by
  rw [List.length_eq_countP_add_countP (·.row.status = .canceled), live, List.length_map,
    ← List.countP_eq_length_filter, canceledBefore]
  simp

theorem churned_length : (churned monthStart history).length =
    (live monthStart history).countP (statusOf (rowsAfter history) · = some .canceled) +
      reactivated monthStart history := by
  rw [List.length_eq_countP_add_countP (statusOf (rowsAfter history) · = some .canceled),
    reactivated]
  congr 1
  · rw [churned, List.countP_filter]
    refine List.countP_congr fun tenantId _ => ?_
    simp only [Bool.and_eq_true, decide_eq_true_eq, and_iff_left_iff_imp, List.any_eq_true]
    -- all calls of the month are some of them
    intro h
    exact ⟨_, (List.mem_inits _ _).mpr (List.prefix_refl _), rowsAfter_eq monthStart history ▸ h⟩
  · simp

variable (hs : history.Pairwise (·.1 ≤ ·.1))

include hs

theorem inMonth_le : ∀ entry ∈ inMonth monthStart history, monthStart ≤ entry.1 := by
  unfold inMonth
  induction history with
  | nil => exact fun _ h => absurd h List.not_mem_nil
  | cons first rest ih =>
    obtain ⟨hfirst, hrest⟩ := List.pairwise_cons.mp hs
    intro entry hentry
    rw [List.dropWhile_cons] at hentry
    split at hentry
    next => exact ih hrest entry hentry
    next hle =>
      have hmonth : monthStart ≤ first.1 := by simpa using hle
      obtain rfl | hmem := List.mem_cons.mp hentry
      · exact hmonth
      · exact Int.le_trans hmonth (hfirst entry hmem)

theorem totalAtStart_eq : (rowsAfter history).countP (·.createdAt < monthStart) =
    (atStart monthStart history).length := by
  have hrun : (rowsAfter history).countP (·.createdAt < monthStart) =
      (atStart monthStart history).countP (·.createdAt < monthStart) := by
    rw [rowsAfter_eq monthStart]
    refine run_invariant_mem (I := fun rows : List StampedSubscription =>
      rows.countP (·.createdAt < monthStart) =
        (atStart monthStart history).countP (·.createdAt < monthStart)) ?_ rfl
    intro rows h entry hentry
    exact ((apply_wrote entry.1 entry.2 rows).countP_created (inMonth_le hs entry hentry)).trans h
  rw [hrun, List.countP_eq_length]
  exact fun s hmem => decide_eq_true (atStart_created s hmem)

theorem updated_le (monthStart : ℤ) : ∀ s ∈ rowsAfter history,
    s ∈ atStart monthStart history ∨ monthStart ≤ s.updatedAt := by
  rw [rowsAfter_eq monthStart]
  refine run_invariant_mem (I := fun rows => ∀ s ∈ rows,
    s ∈ atStart monthStart history ∨ monthStart ≤ s.updatedAt) ?_ fun _ => Or.inl
  intro rows h entry hentry
  exact (apply_wrote entry.1 entry.2 rows).updated_le (inMonth_le hs entry hentry) h

/-- A row that was live when the month began and is canceled has been updated in it. -/
theorem updated_of_live {s : StampedSubscription} (hmem : s ∈ rowsAfter history)
    (hlive : s.row.tenantId ∈ live monthStart history) (hcanceled : s.row.status = .canceled) :
    monthStart ≤ s.updatedAt := by
  obtain hstart | hupdated := updated_le hs monthStart s hmem
  · obtain ⟨q, hq, hkey⟩ := List.mem_map.mp hlive
    obtain ⟨hqstart, hqlive⟩ := List.mem_filter.mp hq
    obtain rfl := nodup_keys_inj (rowsAfter_tenants _) hqstart hstart hkey
    exact absurd hcanceled (by simpa using hqlive)
  · exact hupdated

theorem churnedCount_eq : (rowsAfter history).countP
    (fun s => s.row.status = .canceled ∧ monthStart ≤ s.updatedAt) =
      (live monthStart history).countP (statusOf (rowsAfter history) · = some .canceled) +
        extra monthStart history := by
  rw [List.countP_eq_countP_filter_add _ _ fun s => s.row.tenantId ∈ live monthStart history,
    List.countP_filter, List.countP_filter, extra]
  congr 1
  · have hlive : (live monthStart history).Nodup :=
      (rowsAfter_tenants _).sublist (List.filter_sublist.map _)
    refine countP_key (rowsAfter_tenants history) hlive fun tenantId => ?_
    simp only [Bool.and_eq_true, decide_eq_true_eq,
      statusOf_eq_some_iff (rowsAfter_tenants history)]
    constructor
    · rintro ⟨s, hmem, ⟨⟨hcanceled, _⟩, hin⟩, rfl⟩
      exact ⟨hin, s, hmem, hcanceled, rfl⟩
    · rintro ⟨hin, s, hmem, hcanceled, rfl⟩
      exact ⟨s, hmem, ⟨⟨hcanceled, updated_of_live hs hmem hin hcanceled⟩, hin⟩, rfl⟩
  · simp

end Counts

theorem churned_le (monthStart : ℤ) (history : List (ℤ × SubscriptionCall)) :
    (churned monthStart history).length ≤ (live monthStart history).length :=
  List.length_filter_le _ _

theorem churnRate_mem (monthStart : ℤ) (history : List (ℤ × SubscriptionCall)) :
    0 ≤ churnRate monthStart history ∧ churnRate monthStart history ≤ 1 := by
  unfold churnRate
  split
  · exact ⟨le_refl 0, zero_le_one⟩
  · refine ⟨by positivity, div_le_one_of_le₀ ?_ (by positivity)⟩
    exact_mod_cast churned_le monthStart history

/-- Two quotients, one of which counts `extra` for `back` and divides by `before` more. -/
theorem quotient_eq_iff {live before churned kept back extra : ℕ} (hchurned : churned = kept + back)
    (hle : churned ≤ live) :
    (if before + live = 0 then (0 : ℚ) else (kept + extra : ℕ) / (before + live : ℕ)) =
        (if live = 0 then 0 else (churned : ℚ) / live) ↔
      if live = 0 then extra = 0 ∨ before = 0
      else extra * live = churned * before + back * live := by
  by_cases hlive : live = 0
  · have hkept : kept = 0 := by omega
    subst hlive hkept
    by_cases hbefore : before = 0
    · simp [hbefore]
    · simp [hbefore]
  · have hsum : before + live ≠ 0 := by omega
    rw [if_neg hsum, if_neg hlive, if_neg hlive,
      div_eq_div_iff (Nat.cast_ne_zero.mpr hsum) (Nat.cast_ne_zero.mpr hlive)]
    norm_cast
    subst hchurned
    constructor
    · intro h
      linarith
    · intro h
      linarith

theorem getChurnRate_iff (monthStart : ℤ) {history : List (ℤ × SubscriptionCall)}
    (hs : history.Pairwise (·.1 ≤ ·.1)) :
    (getChurnRate monthStart (rowsAfter history) = churnRate monthStart history ∧
      0 ≤ getChurnRate monthStart (rowsAfter history) ∧
      getChurnRate monthStart (rowsAfter history) ≤ 1) ↔ Balanced monthStart history := by
  have hrate : getChurnRate monthStart (rowsAfter history) = churnRate monthStart history ↔
      Balanced monthStart history := by
    rw [getChurnRate, churnedCount_eq hs, totalAtStart_eq hs, atStart_length, churnRate, Balanced]
    exact quotient_eq_iff churned_length (churned_le monthStart history)
  rw [← hrate]
  refine ⟨And.left, fun heq => ⟨heq, ?_⟩⟩
  rw [heq]
  exact churnRate_mem monthStart history

/-! ## February -/

namespace February

/-- 2024-02-01T00:00:00Z. -/
def monthStart : ℤ := 1706745600000

def signUp (tenantId customer : String) (status : SubscriptionStatus) : SubscriptionCall :=
  .create
    { tenantId := tenantId, stripeCustomerId := customer, planCode := "pro", status := some status,
      stripeSubscriptionId := none }

def link (customer sid : String) : SubscriptionCall :=
  .linkStripeSubscription customer sid .active 1706745600000 1709251200000

def cancel (sid : String) : SubscriptionCall :=
  .updateFromStripe
    { stripeSubscriptionId := sid, planCode := none, status := some .canceled,
      currentPeriodStart := none, currentPeriodEnd := none, cancelAtPeriodEnd := none }

/-- A subscription from January, canceled in February. -/
def tidy : List (ℤ × SubscriptionCall) :=
  [(1704067200000, signUp "2b1c7a52-0f0e-4d53-9f5e-6c1f0b7f3a10" "cus_1" .trialing),
   (1704067201000, link "cus_1" "sub_1"),
   (1707000000000, cancel "sub_1")]

/-- One from January that stays, and two that come and go in February. -/
def untidy : List (ℤ × SubscriptionCall) :=
  [(1704067200000, signUp "2b1c7a52-0f0e-4d53-9f5e-6c1f0b7f3a10" "cus_1" .active),
   (1706800000000, signUp "5d8e3c11-7a44-4c0b-8d21-90a1be5f6c22" "cus_2" .trialing),
   (1706800001000, link "cus_2" "sub_2"),
   (1706900000000, signUp "9a7f6e05-2b3d-4f18-a6c4-d17e08c95b33" "cus_3" .trialing),
   (1706900001000, link "cus_3" "sub_3"),
   (1707000000000, cancel "sub_2"),
   (1707100000000, cancel "sub_3")]

end February

theorem getChurnRate_iff_sample :
    getChurnRate February.monthStart (rowsAfter February.tidy) =
        churnRate February.monthStart February.tidy ∧
      0 ≤ getChurnRate February.monthStart (rowsAfter February.tidy) ∧
      getChurnRate February.monthStart (rowsAfter February.tidy) ≤ 1 :=
  (@getChurnRate_iff February.monthStart February.tidy (by decide)).mpr
    (by unfold Balanced; decide +kernel)

/-- Two cancellations over one row from before: a churn rate of 2, while nobody churned. -/
theorem rate_of_two :
    February.untidy.Pairwise (·.1 ≤ ·.1) ∧
    churnRate February.monthStart February.untidy = 0 ∧
    getChurnRate February.monthStart (rowsAfter February.untidy) = 2 ∧
    ¬ (getChurnRate February.monthStart (rowsAfter February.untidy) =
          churnRate February.monthStart February.untidy ∧
        0 ≤ getChurnRate February.monthStart (rowsAfter February.untidy) ∧
        getChurnRate February.monthStart (rowsAfter February.untidy) ≤ 1) := by
  refine ⟨by decide, ?_, ?_, ?_⟩
  all_goals decide +kernel

end Churn

end SaasChassis.Billing
