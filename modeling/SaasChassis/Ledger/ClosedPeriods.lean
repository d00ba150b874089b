/-
  What a closed period's books depend on after the close.

  No command looks at the period a date falls in: posting, reversing and closing another period
  can each move the totals of a closed one. `LeavesPeriod` is the condition on one command, at
  the state before it, under which the totals of `[S, E]` stay; `closed_period_frozen` carries
  it along a run.
-/
import SaasChassis.Ledger.Invariants

namespace SaasChassis.Ledger

open SaasChassis.Lib
open CloseFiscalPeriodHandler (periodNet OpeningBalanced closingLegs)

/-- Debit and credit totals by account of `T`'s posted lines dated in `[S, E]`. -/
def periodTotals (db : LedgerDb) (T : Guid) (S E : DateOnly) (a : Guid) : Decimal × Decimal :=
  (Leg.debitOn a (db.postedLegs T (some S) (some E)),
    Leg.creditOn a (db.postedLegs T (some S) (some E)))

/-- Day `d` lies in `[S, E]`. -/
def InPeriod (S E d : DateOnly) : Prop := S ≤ d ∧ d ≤ E

instance (S E d : DateOnly) : Decidable (InPeriod S E d) := inferInstanceAs (Decidable (_ ∧ _))

/-- The command does not reach into `[S, E]` of tenant `T`:
    it posts no balanced draft dated there; a posted entry it reverses has its date and the day
    of the reversal on the same side, and inside, equal debits and credits on every account;
    a period it closes does not end there with active Revenue or Expense accounts to zero, nor
    has its opening entry dated there. -/
def LeavesPeriod (T : Guid) (S E : DateOnly) (db : LedgerDb) (i : Env × LedgerCommand) : Prop :=
  match i.2 with
  | .postJournalEntry c => ∀ e ∈ db.entries, e.id = c.entryId → e.tenantId = T →
      e.status = .draft → e.IsBalanced → ¬InPeriod S E e.entryDate
  | .reverseJournalEntry c => ∀ e ∈ db.entries, e.id = c.entryId → e.tenantId = T →
      e.status = .posted → e.reversedById = none →
        (InPeriod S E e.entryDate ↔ InPeriod S E i.1.utcNow.date) ∧
        (InPeriod S E e.entryDate → ∀ a, Leg.debitOn a e.legs = Leg.creditOn a e.legs)
  | .closeFiscalPeriod c => ∀ p ∈ db.periods, p.id = c.periodId → c.tenantId = T →
      p.status = .opened →
        (InPeriod S E p.endDate → ∀ a ∈ db.accounts, a.tenantId = T → a.isActive → a.IsIncome →
          periodNet db T p.startDate p.endDate a.id = 0) ∧
        ∀ next, addDays p.endDate 1 = .ok next → InPeriod S E next →
          ¬OpeningBalanced db T p.startDate p.endDate
  | _ => True

theorem dated_iff {T : Guid} {S E : DateOnly} {tenantId : Guid} {d : DateOnly} :
    Dated T (some S) (some E) tenantId d ↔ tenantId = T ∧ InPeriod S E d := by
  simp [Dated, InPeriod]

theorem periodTotals_eq (db : LedgerDb) (T : Guid) (S E : DateOnly) (a : Guid) :
    periodTotals db T S E a = (postedTotal (Leg.debitOn a) T (some S) (some E) db,
      postedTotal (Leg.creditOn a) T (some S) (some E) db) := by
  rw [periodTotals, debitOn_postedLegs, creditOn_postedLegs]
  rfl

/-- With nothing on the active Revenue and Expense accounts there is nothing to close. -/
theorem closingLegs_eq_nil {db : LedgerDb} {T : Guid} {S E : DateOnly} (r : Guid)
    (h : ∀ a ∈ db.accounts, a.tenantId = T → a.isActive → a.IsIncome →
      periodNet db T S E a.id = 0) :
    closingLegs db T S E r = [] := by
  have hz : ∀ id ∈ (CloseFiscalPeriodHandler.incomeAccounts (db.getAllByTenant T)).map (·.id),
      periodNet db T S E id = 0 := by
    intro id hid
    obtain ⟨a, ha, rfl⟩ := List.mem_map.mp hid
    obtain ⟨hmem, ha⟩ := List.mem_filter.mp ha
    obtain ⟨hmem, hT⟩ := LedgerDb.mem_getAllByTenant.mp hmem
    obtain ⟨hact, hinc⟩ := of_decide_eq_true ha
    exact h a hmem hT hact hinc
  have hsum : (((CloseFiscalPeriodHandler.incomeAccounts (db.getAllByTenant T)).map
      (·.id)).map (periodNet db T S E)).sum = 0 := by
    refine List.sum_eq_zero fun x hx => ?_
    obtain ⟨id, hid, rfl⟩ := List.mem_map.mp hx
    exact hz id hid
  unfold closingLegs
  dsimp only
  rw [List.append_eq_nil_iff]
  refine ⟨Leg.carryAll_eq_nil.mpr fun id hid => ?_, Leg.carry_eq_nil.mpr hsum⟩
  rw [hz id hid, neg_zero]

/-- A command that leaves the period alone keeps the total of any measure that a swap of
    equal sides does not change. -/
theorem postedTotal_leaves {T : Guid} {S E : DateOnly} {db : LedgerDb} {env : Env}
    {cmd : LedgerCommand} {cs : ChangeSet} (hs : db.Schema) (w : JournalWrite env db cmd cs)
    (hc : LeavesPeriod T S E db (env, cmd)) (μ : List (Leg Guid Decimal) → Decimal)
    (hnil : μ [] = 0)
    (hswap : ∀ ls, (∀ a, Leg.debitOn a ls = Leg.creditOn a ls) → μ (ls.map Leg.swap) = μ ls) :
    postedTotal μ T (some S) (some E) (cs.apply db) = postedTotal μ T (some S) (some E) db := by
  cases w with
  | untouched ha hm => exact postedTotal_untouched μ T _ _ ha hm
  | created c hv => exact postedTotal_created μ T _ _ c
  | posted c entry hmem hid hd hb =>
    have hout : ¬Dated T (some S) (some E) entry.tenantId entry.entryDate := fun h =>
      hc entry hmem hid (dated_iff.mp h).1 hd hb (dated_iff.mp h).2
    rw [postedTotal_posted μ T _ _ hs hmem hd _ _ rfl, if_neg hout, add_zero]
  | reversed c entry reversal current hmem hid hr =>
    obtain ⟨hposted, hrev, -⟩ := JournalEntry.createReversal_ok hr
    rw [postedTotal_reversed μ T _ _ hs hmem hr rfl]
    simp only [dated_iff]
    by_cases hT : entry.tenantId = T
    · obtain ⟨hside, hsame⟩ := hc entry hmem hid hT hposted hrev
      by_cases hin : InPeriod S E entry.entryDate
      · rw [if_pos ⟨hT, hin⟩, if_pos ⟨hT, hside.mp hin⟩, hswap _ (hsame hin), sub_add_cancel]
      · rw [if_neg fun h => hin h.2, if_neg fun h => hin (hside.mpr h.2), sub_zero, add_zero]
    · rw [if_neg fun h => hT h.1, if_neg fun h => hT h.1, sub_zero, add_zero]
  | closed c _ p =>
    rw [postedTotal_closed μ T _ _ hnil hs p]
    simp only [dated_iff]
    by_cases hT : c.tenantId = T
    · obtain ⟨hclosing, hopening⟩ := hc p.period p.period_mem p.period_id hT p.period_opened
      subst hT
      have hclosed : (if c.tenantId = c.tenantId ∧ InPeriod S E p.period.endDate then
          μ (closingLegs db c.tenantId p.period.startDate p.period.endDate p.retainedSurplus.id)
          else 0) = 0 := by
        split
        · next hin => rw [closingLegs_eq_nil _ (hclosing hin.2), hnil]
        · rfl
      rw [hclosed, if_neg fun h => hopening _ p.nextPeriodStart_ok h.1.2 h.2, add_zero, add_zero]
    · rw [if_neg fun h => hT h.1, if_neg fun h => hT h.1.1, add_zero, add_zero]

/-- One step that leaves the period alone keeps its totals on every account. -/
theorem periodTotals_step {T : Guid} {S E : DateOnly} {db : LedgerDb} {i : Env × LedgerCommand}
    (hs : db.Schema) (hc : LeavesPeriod T S E db i) (a : Guid) :
    periodTotals (step db i) T S E a = periodTotals db T S E a := by
  rcases step_cases db i with he | ⟨cs, hcs, hsave⟩
  · rw [he]
  · obtain ⟨he, -⟩ := saveChanges_ok hsave
    have w := changes_journal hcs
    rw [he, periodTotals_eq, periodTotals_eq,
      postedTotal_leaves hs w hc (Leg.debitOn a) rfl fun ls h => by
        rw [Leg.debitOn_swap, h],
      postedTotal_leaves hs w hc (Leg.creditOn a) rfl fun ls h => by
        rw [Leg.creditOn_swap, h]]

/-- No command touches a closed period's row. -/
theorem closed_period_step {db : LedgerDb} (hs : db.Schema) {p : FiscalPeriod}
    (hp : p ∈ db.periods) (hclosed : p.status = .closed) (i : Env × LedgerCommand) :
    p ∈ (step db i).periods := by
  obtain ⟨env, cmd⟩ := i
  rcases step_cases db (env, cmd) with he | ⟨cs, hcs, hsave⟩
  · rwa [he]
  · obtain ⟨he, -⟩ := saveChanges_ok hsave
    rw [he]
    cases changes_periods hcs with
    | untouched ha hm =>
      rw [apply_periods cs db hm]
      exact List.mem_append_left _ hp
    | created c =>
      rw [apply_periods _ db rfl]
      exact List.mem_append_left _ hp
    | closed c _ q =>
      rw [q.periods_after hs]
      refine mem_updateKey.mpr (Or.inr ⟨hp, fun hid => ?_⟩)
      have hsame : p = q.period := nodup_keys_inj hs.periods_pkey hp q.period_mem hid
      rw [hsame, q.period_opened] at hclosed
      cases hclosed

/-- In every run from a state in which the period is closed, whose steps all leave the period
    alone, the period stays closed and the totals of its dates stay what they were. -/
theorem closed_period_frozen {db : LedgerDb} (h : Reachable db) {p : FiscalPeriod}
    (hp : p ∈ db.periods) (hclosed : p.status = .closed) {cmds : List (Env × LedgerCommand)}
    (hsteps : StepsSatisfy step (LeavesPeriod p.tenantId p.startDate p.endDate) db cmds) :
    p ∈ (run step db cmds).periods ∧
      ∀ a, periodTotals (run step db cmds) p.tenantId p.startDate p.endDate a =
        periodTotals db p.tenantId p.startDate p.endDate a := by
  have hrun := run_invariant_of
    (I := fun x => Reachable x ∧ p ∈ x.periods ∧
      ∀ a, periodTotals x p.tenantId p.startDate p.endDate a =
        periodTotals db p.tenantId p.startDate p.endDate a) ?_ ⟨h, hp, fun _ => rfl⟩ hsteps
  · exact hrun.2
  · rintro x i ⟨hx, hpx, htot⟩ hc
    have hs := reachable_schema hx
    exact ⟨hx.step i, closed_period_step hs hpx hclosed i,
      fun a => (periodTotals_step hs hc a).trans (htot a)⟩

namespace Sample

def closed : LedgerDb := ledger [close 401]

/-- The closed period of `closed`. -/
def closedPeriod : FiscalPeriod :=
  { FiscalPeriod.create 301 1 "P1" 5 20 with
    status := .closed
    closedBy := some 99
    closedAt := some ⟨30, 0⟩ }

/-- After the close: a draft dated in the closed period, which is then posted. -/
def latePosting : List (Env × LedgerCommand) := [draft 601 1 12 101 102 70, post 601]

/-- After the close: an entry dated later, posted and reversed. -/
def laterEntry : List (Env × LedgerCommand) :=
  [draft 601 1 25 101 102 70, post 601, (on 40 602, .reverseJournalEntry ⟨601, "mistake", 99⟩)]

end Sample

theorem closed_period_frozen_sample :
    Sample.closedPeriod ∈ (run step Sample.closed Sample.laterEntry).periods ∧
      ∀ a, periodTotals (run step Sample.closed Sample.laterEntry) 1 5 20 a =
        periodTotals Sample.closed 1 5 20 a := by
  have hpost : ∀ e ∈ (step Sample.closed (Sample.draft 601 1 25 101 102 70)).entries,
      e.id = 601 → ¬InPeriod 5 20 e.entryDate := by decide +kernel
  have hreverse : ∀ e ∈ (step (step Sample.closed (Sample.draft 601 1 25 101 102 70))
      (Sample.post 601)).entries, e.id = 601 → ¬InPeriod 5 20 e.entryDate := by decide +kernel
  refine closed_period_frozen (Sample.ledger_reachable [Sample.close 401])
    (p := Sample.closedPeriod) (by decide +kernel) rfl ⟨trivial, ?_, ?_, trivial⟩
  · exact fun e he hid _ _ _ => hpost e he hid
  · intro e he hid _ _ _
    have hout := hreverse e he hid
    exact ⟨iff_of_false hout (by decide), fun hin => absurd hin hout⟩

/-- An entry dated in the closed period is created, naming no period, and posted after the
    close: the debits of Cash over the period move from 100 to 170. -/
theorem late_posting_changes_closed_period :
    let db' := run step Sample.closed Sample.latePosting
    Reachable Sample.closed ∧ Sample.closedPeriod ∈ Sample.closed.periods ∧
      Sample.closedPeriod.status = .closed ∧
      periodTotals Sample.closed 1 5 20 101 = (100, 0) ∧ periodTotals db' 1 5 20 101 = (170, 0) ∧
      ¬∀ a, periodTotals db' 1 5 20 a = periodTotals Sample.closed 1 5 20 a := by
  refine ⟨Sample.ledger_reachable [Sample.close 401], by decide +kernel, rfl, by decide +kernel,
    by decide +kernel, fun h => ?_⟩
  exact absurd (h 101) (by decide +kernel)

end SaasChassis.Ledger
