/-
  Over which histories of period closes income is recognised once.

  A close sweeps what it reads in its range, earlier closing entries included, and no check keeps
  the ranges of periods apart. `History` follows a run together with the entries its users posted;
  `openNet` is the part of them that no closed period covers yet.
  * `recognised_step`: as long as each close reads exactly that part of its range (`Recognisable`),
    every income account nets, over every range the closed periods lie within or apart from, to
    what is still open there.
  * `recognisable_of_innerFirst`: that is so when each period that was closed before lies inside
    the new one or shares no day with it.
  * `income_recognised_once`: then, with everything posted covered, the income accounts are at zero
    and Retained Surplus has received exactly what was posted.
-/
import SaasChassis.Ledger.ClosedPeriods
import SaasChassis.Ledger.PeriodClose

namespace SaasChassis.Ledger

open SaasChassis.Lib
open CloseFiscalPeriodHandler

/-! ## Histories -/

/-- A closed period has day `d` in its range. -/
def Covered (db : LedgerDb) (d : DateOnly) : Prop :=
  ∃ p ∈ db.periods, p.status = .closed ∧ InPeriod p.startDate p.endDate d

instance (db : LedgerDb) (d : DateOnly) : Decidable (Covered db d) :=
  inferInstanceAs (Decidable (∃ p ∈ db.periods, _ ∧ _))

/-- Day `d` lies in `[f, t]` (open where `none`). -/
def InRange (f t : Option DateOnly) (d : DateOnly) : Prop :=
  (∀ x ∈ f, x ≤ d) ∧ ∀ x ∈ t, d ≤ x

instance (f t : Option DateOnly) (d : DateOnly) : Decidable (InRange f t d) :=
  @instDecidableAnd _ _ (Option.decidableForallMem f) (Option.decidableForallMem t)

/-- The tables, with the entries users posted so far, in order. -/
structure History where
  db : LedgerDb
  posted : List JournalEntry

/-- The entries that were drafts before a step and are posted after it. -/
def newlyPosted (db db' : LedgerDb) : List JournalEntry :=
  db'.entries.filter fun e =>
    e.status = .posted ∧ ∃ q ∈ db.entries, q.id = e.id ∧ q.status = .draft

namespace History

def step (h : History) (i : Env × LedgerCommand) : History :=
  ⟨Ledger.step h.db i, h.posted ++ newlyPosted h.db (Ledger.step h.db i)⟩

/-- The net of everything users posted on account `a`. -/
def userNet (h : History) (a : Guid) : Decimal :=
  (h.posted.map fun e => Leg.netOn a e.legs).sum

/-- The net of what users posted on account `a` in `[f, t]` on days no closed period covers. -/
def openNet (h : History) (f t : Option DateOnly) (a : Guid) : Decimal :=
  (h.posted.map fun e =>
    if InRange f t e.entryDate ∧ ¬Covered h.db e.entryDate then Leg.netOn a e.legs else 0).sum

end History

/-- Credits minus debits of the tenant's period_close entries on account `r`. -/
def closeContribution (db : LedgerDb) (T r : Guid) : Decimal :=
  -((db.entries.filter fun e => e.tenantId = T ∧ e.sourceModule = some "period_close").map
    fun e => Leg.netOn r e.legs).sum

/-- The tenant's account 3002. -/
def Account.IsSurplusOf (T : Guid) (r : Account) : Prop := r.tenantId = T ∧ r.code = "3002"

instance (T : Guid) (r : Account) : Decidable (r.IsSurplusOf T) :=
  inferInstanceAs (Decidable (_ ∧ _))

/-- The commands of the tenant: it creates its own periods and entries, names account 3002 in none
    of them, and posts on no day that one of its closed periods covers. -/
def Admitted (T : Guid) (h : History) (i : Env × LedgerCommand) : Prop :=
  match i.2 with
  | .createFiscalPeriod c => c.tenantId = T
  | .createJournalEntry c => c.tenantId = T ∧
      ∀ r ∈ h.db.accounts, r.IsSurplusOf T → ∀ l ∈ c.lines, l.accountId ≠ r.id
  | .postJournalEntry _ => ∀ e ∈ newlyPosted h.db (Ledger.step h.db i), ¬Covered h.db e.entryDate
  | .closeFiscalPeriod c => c.tenantId = T
  | _ => False

/-- What the close of a period, unless it is refused, reads on each Revenue and Expense account is
    what users posted there on days no closed period covers, and the sum does not fall on an income
    account. -/
def Recognisable (T : Guid) (h : History) (i : Env × LedgerCommand) : Prop :=
  match i.2 with
  | .closeFiscalPeriod c => ∀ cs, changes i.1 i.2 h.db = .ok cs →
      ∀ p ∈ h.db.periods, p.id = c.periodId → p.status = .opened →
      (∀ a ∈ h.db.accounts, a.tenantId = T → a.IsIncome →
        periodNet h.db T p.startDate p.endDate a.id =
          h.openNet (some p.startDate) (some p.endDate) a.id) ∧
      ∀ r ∈ h.db.accounts, r.IsSurplusOf T →
        r.IsBalanceSheet ∨ activeIncomeNet h.db T p.startDate p.endDate = 0
  | _ => True

/-- What every step of the tenant keeps. -/
structure Bookkeeping (T : Guid) (h : History) : Prop where
  schema : h.db.Schema
  active : ∀ a ∈ h.db.accounts, a.tenantId = T → a.isActive
  own : ∀ e ∈ h.db.entries, e.tenantId = T
  drafts : ∀ e ∈ h.db.entries, e.status = .draft → ∀ r ∈ h.db.accounts, r.IsSurplusOf T →
    Leg.netOn r.id e.legs = 0
  posted : ∀ e ∈ h.posted, ∀ r ∈ h.db.accounts, r.IsSurplusOf T → Leg.netOn r.id e.legs = 0

/-! ## What a step does to a history -/

theorem newlyPosted_append {db db' : LedgerDb} (hs : db.Schema) (hs' : db'.Schema)
    {added : List JournalEntry} (he : db'.entries = db.entries ++ added) :
    newlyPosted db db' = [] := by
  refine List.filter_eq_nil_iff.mpr fun e hmem => ?_
  simp only [decide_eq_true_eq]
  rintro ⟨hps, q, hq, hid, hd⟩
  have hnd := hs'.entries_pkey
  rw [he] at hmem hnd
  rcases List.mem_append.mp hmem with hold | hnew
  · rw [nodup_keys_inj hs.entries_pkey hq hold hid, hps] at hd
    cases hd
  · rw [List.map_append] at hnd
    exact List.disjoint_of_nodup_append hnd (List.mem_map_of_mem hq)
      (hid ▸ List.mem_map_of_mem hnew)

theorem newlyPosted_posted {db db' : LedgerDb} (hs : db.Schema) {entry current : JournalEntry}
    (hmem : entry ∈ db.entries) (hd : entry.status = .draft)
    (he : db'.entries = updateKey (·.id) entry.id (fun _ => current) db.entries)
    (hps : current.status = .posted) (hid : current.id = entry.id) :
    newlyPosted db db' = [current] := by
  rw [newlyPosted, he]
  refine filter_updateKey hs.entries_pkey hmem (fun r hr hne => ?_) ?_
  · simp only [decide_eq_false_iff_not]
    rintro ⟨hrps, q, hq, hqid, hqd⟩
    rw [nodup_keys_inj hs.entries_pkey hq hr hqid, hrps] at hqd
    cases hqd
  · exact decide_eq_true ⟨hps, entry, hmem, hid.symm, hd⟩

theorem inRange_iff_dated {T : Guid} {f t : Option DateOnly} {d : DateOnly} :
    Dated T f t T d ↔ InRange f t d := by
  simp [Dated, InRange]

/-- What an admitted step does to the books. -/
inductive Effect (T : Guid) (h : History) (i : Env × LedgerCommand) (h' : History) : Prop
  | quiet (posted : h'.posted = h.posted)
      (total : ∀ f t a, Leg.netOn a (h'.db.postedLegs T f t) = Leg.netOn a (h.db.postedLegs T f t))
      (covered : ∀ d, Covered h'.db d ↔ Covered h.db d)
      (contribution : ∀ r ∈ h.db.accounts, r.IsSurplusOf T →
        closeContribution h'.db T r.id = closeContribution h.db T r.id)
  | posted (e : JournalEntry) (posted : h'.posted = h.posted ++ [e])
      (uncovered : ¬Covered h.db e.entryDate)
      (total : ∀ f t a, Leg.netOn a (h'.db.postedLegs T f t) =
        Leg.netOn a (h.db.postedLegs T f t) +
          if InRange f t e.entryDate then Leg.netOn a e.legs else 0)
      (covered : ∀ d, Covered h'.db d ↔ Covered h.db d)
      (contribution : ∀ r, closeContribution h'.db T r = closeContribution h.db T r)
  | closed (env : Env) (c : CloseFiscalPeriodCommand) (cs : ChangeSet)
      (command : i.2 = .closeFiscalPeriod c) (ok : changes i.1 i.2 h.db = .ok cs)
      (prepared : Prepared env c h.db cs)
      (own : c.tenantId = T) (posted : h'.posted = h.posted) (after : h'.db = cs.apply h.db)

theorem covered_of_periods {db db' : LedgerDb} (he : db'.periods = db.periods) (d : DateOnly) :
    Covered db' d ↔ Covered db d := by
  rw [Covered, he]
  rfl

theorem closeContribution_append {db db' : LedgerDb} {added : List JournalEntry}
    (he : db'.entries = db.entries ++ added) (T r : Guid) :
    closeContribution db' T r = closeContribution db T r -
      ((added.filter fun e => e.tenantId = T ∧ e.sourceModule = some "period_close").map
        fun e => Leg.netOn r e.legs).sum := by
  unfold closeContribution
  rw [he, List.filter_append, List.map_append, List.sum_append]
  ring

section Steps

variable {T : Guid} {h : History} {env : Env} {i : Env × LedgerCommand}

/-- Adding entries of the tenant whose drafts stay off account 3002 keeps the books. -/
theorem Bookkeeping.append (hb : Bookkeeping T h) {h' : History} (hs' : h'.db.Schema)
    (hacc : h'.db.accounts = h.db.accounts) {added : List JournalEntry}
    (hent : h'.db.entries = h.db.entries ++ added) (hp : h'.posted = h.posted)
    (hown : ∀ e ∈ added, e.tenantId = T)
    (hdrafts : ∀ e ∈ added, e.status = .draft → ∀ r ∈ h.db.accounts, r.IsSurplusOf T →
      Leg.netOn r.id e.legs = 0) : Bookkeeping T h' := by
  refine ⟨hs', ?_, ?_, ?_, ?_⟩
  · rw [hacc]
    exact hb.active
  · intro e he
    rw [hent] at he
    rcases List.mem_append.mp he with he | he
    · exact hb.own e he
    · exact hown e he
  · intro e he hd
    rw [hacc]
    rw [hent] at he
    rcases List.mem_append.mp he with he | he
    · exact hb.drafts e he hd
    · exact hdrafts e he hd
  · rw [hp, hacc]
    exact hb.posted

theorem period_effect (hb : Bookkeeping T h) {h' : History} (c : CreateFiscalPeriodCommand)
    (hdb : h'.db = ({ addedPeriods := [FiscalPeriod.create (env.newGuid 0) c.tenantId c.name
      c.startDate c.endDate] } : ChangeSet).apply h.db)
    (hs' : h'.db.Schema) (hp : h'.posted = h.posted ++ newlyPosted h.db h'.db) :
    Effect T h i h' ∧ Bookkeeping T h' ∧ h'.db.accounts = h.db.accounts := by
  have hacc : h'.db.accounts = h.db.accounts := by simp [hdb, ChangeSet.apply]
  have hent : h'.db.entries = h.db.entries ++ [] := by simp [hdb, ChangeSet.apply]
  have hper : h'.db.periods = h.db.periods ++ [FiscalPeriod.create (env.newGuid 0) c.tenantId
      c.name c.startDate c.endDate] := by
    rw [hdb]
    exact apply_periods _ h.db rfl
  rw [newlyPosted_append hb.schema hs' hent, List.append_nil] at hp
  refine ⟨.quiet hp (fun f t a => ?_) (fun d => ?_) (fun r _ _ => ?_),
    hb.append hs' hacc hent hp (fun _ he => absurd he List.not_mem_nil)
      (fun _ he => absurd he List.not_mem_nil), hacc⟩
  · rw [LedgerDb.postedLegs, hent, List.append_nil]
    rfl
  · -- the new period is open
    unfold Covered
    rw [hper]
    constructor
    · rintro ⟨p, hp, hcl, hin⟩
      rcases List.mem_append.mp hp with hp | hp
      · exact ⟨p, hp, hcl, hin⟩
      · rw [List.mem_singleton.mp hp] at hcl
        cases hcl
    · rintro ⟨p, hp, hcl, hin⟩
      exact ⟨p, List.mem_append_left _ hp, hcl, hin⟩
  · rw [closeContribution_append hent]
    simp

/-- A created entry is a draft of the tenant without a line on account 3002. -/
theorem created_effect (hb : Bookkeeping T h) {h' : History} {c : CreateJournalEntryCommand}
    (hc : c.tenantId = T ∧ ∀ r ∈ h.db.accounts, r.IsSurplusOf T → ∀ l ∈ c.lines,
      l.accountId ≠ r.id)
    (hdb : h'.db = ({ addedEntries := [CreateJournalEntryHandler.newEntry env c] } :
      ChangeSet).apply h.db)
    (hs' : h'.db.Schema) (hp : h'.posted = h.posted ++ newlyPosted h.db h'.db) :
    Effect T h i h' ∧ Bookkeeping T h' ∧ h'.db.accounts = h.db.accounts := by
  have hacc : h'.db.accounts = h.db.accounts := by simp [hdb, ChangeSet.apply]
  have hent : h'.db.entries =
      h.db.entries ++ [(CreateJournalEntryHandler.newEntry env c).stored] := by
    rw [hdb]
    exact apply_entries _ h.db rfl
  have hper : h'.db.periods = h.db.periods := by simp [hdb, ChangeSet.apply]
  rw [newlyPosted_append hb.schema hs' hent, List.append_nil] at hp
  have hzero : ∀ r ∈ h.db.accounts, r.IsSurplusOf T →
      Leg.netOn r.id (CreateJournalEntryHandler.newEntry env c).stored.legs = 0 := by
    intro r hr hsur
    refine netOn_legsOf_of_notMem fun hmem => ?_
    rw [CreateJournalEntryHandler.newEntry_eq] at hmem
    simp only [JournalEntry.stored, List.map_map, List.mem_map] at hmem
    obtain ⟨l, hl, hid⟩ := hmem
    exact hc.2 r hr hsur l hl hid
  have hT : (CreateJournalEntryHandler.newEntry env c).stored.tenantId = T := by
    rw [CreateJournalEntryHandler.newEntry_eq]
    exact hc.1
  refine ⟨.quiet hp (fun f t a => ?_) (covered_of_periods hper) (fun r hr hsur => ?_),
    hb.append hs' hacc hent hp (fun e he => ?_) (fun e he _ => ?_), hacc⟩
  · rw [netOn_postedLegs, netOn_postedLegs, hdb]
    exact postedTotal_created (Leg.netOn a) T f t c
  · rw [closeContribution_append hent, List.sum_eq_zero, sub_zero]
    intro x hx
    obtain ⟨e, he, rfl⟩ := List.mem_map.mp hx
    rw [List.mem_singleton.mp (List.mem_of_mem_filter he)]
    exact hzero r hr hsur
  · rw [List.mem_singleton.mp he]
    exact hT
  · rw [List.mem_singleton.mp he]
    exact hzero

theorem posted_effect (hb : Bookkeeping T h) {h' : History} {entry : JournalEntry}
    (hmem : entry ∈ h.db.entries) (hd : entry.status = .draft) (u : Guid) (now : DateTime)
    (hopen : ∀ e ∈ newlyPosted h.db h'.db, ¬Covered h.db e.entryDate)
    (hdb : h'.db = ({ modifiedEntries := [(entry,
      { entry with status := .posted, postedBy := some u, postedAt := some now })] } :
        ChangeSet).apply h.db)
    (hs' : h'.db.Schema) (hp : h'.posted = h.posted ++ newlyPosted h.db h'.db) :
    Effect T h i h' ∧ Bookkeeping T h' ∧ h'.db.accounts = h.db.accounts := by
  have hs := hb.schema
  have hacc : h'.db.accounts = h.db.accounts := by simp [hdb, ChangeSet.apply]
  have hper : h'.db.periods = h.db.periods := by simp [hdb, ChangeSet.apply]
  have hent : h'.db.entries = updateKey (·.id) entry.id (fun _ =>
      { entry with status := .posted, postedBy := some u, postedAt := some now })
        h.db.entries := by
    rw [hdb, apply_entries_modified hs hmem rfl (writeChanges_posted entry u now)]
    exact List.append_nil _
  rw [newlyPosted_posted hs hmem hd hent rfl rfl] at hp hopen
  refine ⟨.posted _ hp (hopen _ (List.mem_singleton_self _)) (fun f t a => ?_)
    (covered_of_periods hper) (fun r => ?_), ⟨hs', ?_, ?_, ?_, ?_⟩, hacc⟩
  · have htotal := postedTotal_posted (Leg.netOn a) T f t hs hmem hd u now rfl
    simp only [hb.own entry hmem, inRange_iff_dated] at htotal
    rw [netOn_postedLegs, netOn_postedLegs, hdb]
    exact htotal
  · -- the posted row keeps its tenant, its module and its lines
    unfold closeContribution
    rw [hent, sum_map_filter, sum_map_filter, sum_map_updateKey hs.entries_pkey hmem]
    dsimp only [JournalEntry.legs]
    rw [sub_add_cancel]
  · rw [hacc]
    exact hb.active
  · intro e he
    rw [hent] at he
    rcases mem_updateKey.mp he with ⟨_, -, -, rfl⟩ | ⟨he, -⟩
    · exact hb.own entry hmem
    · exact hb.own e he
  · intro e he hde r hr hsur
    rw [hacc] at hr
    rw [hent] at he
    rcases mem_updateKey.mp he with ⟨_, -, -, rfl⟩ | ⟨he, -⟩
    · cases hde
    · exact hb.drafts e he hde r hr hsur
  · intro e he r hr hsur
    rw [hacc] at hr
    rw [hp] at he
    rcases List.mem_append.mp he with he | he
    · exact hb.posted e he r hr hsur
    · rw [List.mem_singleton.mp he]
      exact hb.drafts entry hmem hd r hr hsur

theorem closed_effect (hb : Bookkeeping T h) {h' : History} {c : CloseFiscalPeriodCommand}
    {cs : ChangeSet} (hcmd : i.2 = .closeFiscalPeriod c)
    (hok : changes i.1 i.2 h.db = .ok cs) (p : Prepared env c h.db cs)
    (hT : c.tenantId = T) (hdb : h'.db = cs.apply h.db) (hs' : h'.db.Schema)
    (hp : h'.posted = h.posted ++ newlyPosted h.db h'.db) :
    Effect T h i h' ∧ Bookkeeping T h' ∧ h'.db.accounts = h.db.accounts := by
  have hs := hb.schema
  have hacc : h'.db.accounts = h.db.accounts := by
    rw [hdb]
    exact accounts_after_close p
  have hent : h'.db.entries = h.db.entries ++ (p.closing ++ p.opening) := by
    rw [hdb]
    exact p.entries_after hs
  have hadded : ∀ e ∈ p.closing ++ p.opening, e.tenantId = T ∧ e.status = .posted := fun e he =>
    ⟨(p.mem_addedEntries hs (p.addedEntries_eq ▸ he)).2.1.trans hT, (p.added_header he).1⟩
  rw [newlyPosted_append hs hs' hent, List.append_nil] at hp
  refine ⟨.closed env c cs hcmd hok p hT hp hdb,
    hb.append hs' hacc hent hp (fun e he => (hadded e he).1) fun e he hd => ?_, hacc⟩
  rw [(hadded e he).2] at hd
  cases hd

/-- An admitted step has one of the three effects and keeps the books. -/
theorem step_effect (hb : Bookkeeping T h) (hc : Admitted T h i) :
    Effect T h i (h.step i) ∧ Bookkeeping T (h.step i) ∧
      (h.step i).db.accounts = h.db.accounts := by
  obtain ⟨env, cmd⟩ := i
  rcases step_cases h.db (env, cmd) with he | ⟨cs, hcs, hsave⟩
  · -- nothing was committed
    have hsame : h.step (env, cmd) = h := by
      have hnew := newlyPosted_append hb.schema hb.schema (List.append_nil h.db.entries).symm
      rw [History.step, he, hnew, List.append_nil]
    rw [hsame]
    exact ⟨.quiet rfl (fun _ _ _ => rfl) (fun _ => Iff.rfl) (fun _ _ _ => rfl), hb, rfl⟩
  · obtain ⟨he, hs'⟩ := saveChanges_ok hsave
    cases changes_ok hcs with
    | createAccount c valid fresh => exact hc.elim
    | initializeFromTemplate c template entries added found parsed created => exact hc.elim
    | updateAccount id req => exact hc.elim
    | createJournalEntry c valid period => exact created_effect hb hc he hs' rfl
    | postJournalEntry c entry mem id draft balanced =>
      exact posted_effect hb mem draft _ _ hc he hs' rfl
    | reverseJournalEntry c entry reversal current mem id ok => exact hc.elim
    | createFiscalPeriod c => exact period_effect hb c he hs' rfl
    | closeFiscalPeriod c _ p => exact closed_effect hb rfl hcs p hc he hs' rfl

end Steps

/-! ## What is recognised -/

/-- The range of the period lies within `[f, t]`, or apart from it. -/
def WithinOrApart (f t : Option DateOnly) (p : FiscalPeriod) : Prop :=
  (∀ d, InPeriod p.startDate p.endDate d → InRange f t d) ∨
    ∀ d, InPeriod p.startDate p.endDate d → ¬InRange f t d

/-- The sum of `g` over the tenant's Revenue and Expense accounts. -/
def incomeSum (db : LedgerDb) (T : Guid) (g : Guid → Decimal) : Decimal :=
  ((db.accounts.filter fun a => a.tenantId = T ∧ a.IsIncome).map fun a => g a.id).sum

/-- Everything users posted on the income accounts is either still open, on a day no closed
    period covers, or has been moved to account 3002. -/
structure Recognised (T : Guid) (h : History) : Prop where
  nets : ∀ f t, (∀ p ∈ h.db.periods, p.status = .closed → WithinOrApart f t p) →
    ∀ a ∈ h.db.accounts, a.tenantId = T → a.IsIncome →
      Leg.netOn a.id (h.db.postedLegs T f t) = h.openNet f t a.id
  surplus : ∀ r ∈ h.db.accounts, r.IsSurplusOf T → closeContribution h.db T r.id =
    incomeSum h.db T fun a => h.openNet none none a - h.userNet a

theorem incomeSum_congr {db : LedgerDb} {T : Guid} {g g' : Guid → Decimal}
    (he : ∀ a ∈ db.accounts, a.tenantId = T → a.IsIncome → g a.id = g' a.id) :
    incomeSum db T g = incomeSum db T g' := by
  refine congrArg List.sum (List.map_congr_left fun a ha => ?_)
  obtain ⟨ha, hq⟩ := List.mem_filter.mp ha
  obtain ⟨hT, hi⟩ := of_decide_eq_true hq
  exact he a ha hT hi

theorem incomeSum_sub (db : LedgerDb) (T : Guid) (g g' : Guid → Decimal) :
    incomeSum db T (fun a => g a - g' a) = incomeSum db T g - incomeSum db T g' := by
  unfold incomeSum
  rw [sub_eq_add_neg, ← sum_map_neg, ← List.sum_map_add]
  simp only [sub_eq_add_neg]

theorem openNet_congr {h h' : History} (hp : h'.posted = h.posted)
    (hcov : ∀ d, Covered h'.db d ↔ Covered h.db d) (f t : Option DateOnly) (a : Guid) :
    h'.openNet f t a = h.openNet f t a := by
  unfold History.openNet
  rw [hp]
  simp only [hcov]

theorem openNet_posted {h h' : History} {e : JournalEntry} (hp : h'.posted = h.posted ++ [e])
    (hopen : ¬Covered h.db e.entryDate) (hcov : ∀ d, Covered h'.db d ↔ Covered h.db d)
    (f t : Option DateOnly) (a : Guid) :
    h'.openNet f t a = h.openNet f t a +
      if InRange f t e.entryDate then Leg.netOn a e.legs else 0 := by
  unfold History.openNet
  rw [hp, List.map_append, List.sum_append]
  simp only [hcov, hopen, not_false_eq_true, and_true, List.map_cons, List.map_nil,
    List.sum_cons, List.sum_nil, add_zero]

section Closes

variable {T : Guid} {h : History} {env : Env} {c : CloseFiscalPeriodCommand} {cs : ChangeSet}

theorem covered_close (hs : h.db.Schema) (p : Prepared env c h.db cs) (d : DateOnly) :
    Covered (cs.apply h.db) d ↔
      Covered h.db d ∨ InPeriod p.period.startDate p.period.endDate d := by
  unfold Covered
  rw [p.periods_after hs]
  constructor
  · rintro ⟨q, hq, hcl, hin⟩
    rcases mem_updateKey.mp hq with ⟨_, -, -, rfl⟩ | ⟨hq, -⟩
    · rw [linkOpening_startDate, linkOpening_endDate] at hin
      exact Or.inr hin
    · exact Or.inl ⟨q, hq, hcl, hin⟩
  · rintro (⟨q, hq, hcl, hin⟩ | hin)
    · refine ⟨q, mem_updateKey.mpr (Or.inr ⟨hq, fun hid => ?_⟩), hcl, hin⟩
      rw [nodup_keys_inj hs.periods_pkey hq p.period_mem hid, p.period_opened] at hcl
      cases hcl
    · refine ⟨_, mem_updateKey.mpr (Or.inl ⟨p.period, p.period_mem, rfl, rfl⟩), ?_, ?_⟩
      · exact linkOpening_status _ _
      · rw [linkOpening_startDate, linkOpening_endDate]
        exact hin

/-- A close takes its own range out of what is open. -/
theorem openNet_close (hs : h.db.Schema) (p : Prepared env c h.db cs) {h' : History}
    (hp : h'.posted = h.posted) (hdb : h'.db = cs.apply h.db) {f t : Option DateOnly}
    (hrange : WithinOrApart f t p.period) (a : Guid) :
    h'.openNet f t a = h.openNet f t a -
      if InRange f t p.period.endDate then
        h.openNet (some p.period.startDate) (some p.period.endDate) a else 0 := by
  have hin : ∀ d, InPeriod p.period.startDate p.period.endDate d ↔
      InRange (some p.period.startDate) (some p.period.endDate) d := by
    simp [InPeriod, InRange]
  unfold History.openNet
  rw [hp, hdb]
  simp only [covered_close hs p]
  split
  · next hend =>
    rw [sub_eq_add_neg, ← sum_map_neg, ← List.sum_map_add]
    refine congrArg List.sum (List.map_congr_left fun e _ => ?_)
    simp only [← hin]
    by_cases hd : InPeriod p.period.startDate p.period.endDate e.entryDate
    · -- the range reaches into `[f, t]` at its end, so it lies within
      have hf : InRange f t e.entryDate := by
        rcases hrange with hw | ha
        · exact hw _ hd
        · exact absurd hend (ha _ ⟨hd.1.trans hd.2, le_rfl⟩)
      simp [hd, hf]
    · simp [hd]
  · next hend =>
    rw [sub_zero]
    refine congrArg List.sum (List.map_congr_left fun e _ => ?_)
    by_cases hd : InPeriod p.period.startDate p.period.endDate e.entryDate
    · have hf : ¬InRange f t e.entryDate := by
        rcases hrange with hw | ha
        · exact absurd (hw _ ⟨hd.1.trans hd.2, le_rfl⟩) hend
        · exact ha _ hd
      simp [hf]
    · simp [hd]

/-- A close takes what it read on an income account off it, on the last day of its range. -/
theorem net_close (hb : Bookkeeping T h) (p : Prepared env c h.db cs) (hT : c.tenantId = T)
    {a : Account} (ha : a ∈ h.db.accounts) (haT : a.tenantId = T) (hi : a.IsIncome)
    (hsur : ∀ r ∈ h.db.accounts, r.IsSurplusOf T → r.IsBalanceSheet ∨
      activeIncomeNet h.db T p.period.startDate p.period.endDate = 0) (f t : Option DateOnly) :
    Leg.netOn a.id ((cs.apply h.db).postedLegs T f t) = Leg.netOn a.id (h.db.postedLegs T f t) -
      if InRange f t p.period.endDate then
        periodNet h.db T p.period.startDate p.period.endDate a.id else 0 := by
  have hs := hb.schema
  have hact : a.ActiveOf T Account.IsIncome := ⟨haT, hb.active a ha haT, hi⟩
  have hnot : ¬a.ActiveOf T Account.IsBalanceSheet := fun hbs =>
    (Account.isBalanceSheet_iff a).mp hbs.2.2 hi
  have hsum : (if a.id = p.retainedSurplus.id then
      activeIncomeNet h.db T p.period.startDate p.period.endDate else 0) = 0 := by
    split
    · next he =>
      have hcode := (retainedSurplus_id_iff hs p ha (haT.trans hT.symm)).mp he
      rcases hsur a ha ⟨haT, hcode⟩ with hbs | hz
      · exact absurd hi ((Account.isBalanceSheet_iff a).mp hbs)
      · exact hz
    · rfl
  have htotal := postedTotal_closed (Leg.netOn a.id) T f t (Leg.netOn_nil a.id) hs p
  rw [hT, netOn_closingLegs hs _ _ ha, netOn_openingLegs hs _ _ ha, if_pos hact, if_neg hnot,
    hsum, add_zero, ite_self, add_zero] at htotal
  simp only [inRange_iff_dated] at htotal
  rw [netOn_postedLegs, netOn_postedLegs]
  refine htotal.trans ?_
  by_cases hend : InRange f t p.period.endDate
  · rw [if_pos hend, if_pos hend, ← sub_eq_add_neg]
    rfl
  · rw [if_neg hend, if_neg hend, add_zero, sub_zero]
    rfl

theorem activeIncomeNet_eq (hb : Bookkeeping T h) (S E : DateOnly) :
    activeIncomeNet h.db T S E = incomeSum h.db T fun a => periodNet h.db T S E a := by
  unfold activeIncomeNet netOver incomeSum
  congr 2
  refine List.filter_congr fun a ha => ?_
  rw [Bool.eq_iff_iff, decide_eq_true_eq, decide_eq_true_eq]
  exact ⟨fun hact => ⟨hact.1, hact.2.2⟩, fun hq => ⟨hq.1, hb.active a ha hq.1, hq.2⟩⟩

/-- A close of the tenant adds to account 3002 the net it took off the income accounts. -/
theorem contribution_close (hb : Bookkeeping T h) (p : Prepared env c h.db cs)
    (hT : c.tenantId = T) {r : Account} (hr : r ∈ h.db.accounts) (hsur : r.IsSurplusOf T)
    (hnet : r.IsIncome → periodNet h.db T p.period.startDate p.period.endDate r.id = 0) :
    closeContribution (cs.apply h.db) T r.id = closeContribution h.db T r.id -
      activeIncomeNet h.db T p.period.startDate p.period.endDate := by
  have hs := hb.schema
  have hrr : r.id = p.retainedSurplus.id :=
    (retainedSurplus_id_iff hs p hr (hsur.1.trans hT.symm)).mpr hsur.2
  rw [closeContribution_append (p.entries_after hs), List.filter_append, List.map_append,
    List.sum_append]
  have hopening : p.opening.filter (fun e => e.tenantId = T ∧
      e.sourceModule = some "period_close") = [] := by
    refine List.filter_eq_nil_iff.mpr fun o ho => ?_
    simp [p.opening_source ho]
  have hclosing : ((p.closing.filter fun e => e.tenantId = T ∧
      e.sourceModule = some "period_close").map fun e => Leg.netOn r.id e.legs).sum =
        Leg.netOn r.id (closingLegs h.db c.tenantId p.period.startDate p.period.endDate
          p.retainedSurplus.id) := by
    rcases p.closing_cases hs with ⟨hnil, hlegs⟩ | ⟨x, hx, -, -, hxT, -, -, hlegs, -⟩
    · rw [hnil, hlegs]
      simp
    · have hsource := (p.closing_source (hx ▸ List.mem_singleton_self x)).1
      rw [hx, ← hlegs]
      simp [hxT.trans hT, hsource]
  have hlegs := netOn_closingLegs hs (T := c.tenantId) p.period.startDate p.period.endDate hr
    p.retainedSurplus.id
  have hzero : (if r.ActiveOf c.tenantId Account.IsIncome then
      -periodNet h.db c.tenantId p.period.startDate p.period.endDate r.id else 0) = 0 := by
    split
    · next hact => rw [hT, hnet hact.2.2, neg_zero]
    · rfl
  rw [hopening, hclosing, hlegs, hzero, if_pos hrr, hT]
  simp

end Closes

/-- A step of the tenant whose close, if it is one, reads what is open keeps income recognised. -/
theorem recognised_step {T : Guid} {h : History} {i : Env × LedgerCommand}
    (hb : Bookkeeping T h) (hr : Recognised T h) (hc : Admitted T h i)
    (hopen : Recognisable T h i) : Recognised T (h.step i) := by
  have hs := hb.schema
  obtain ⟨heff, -, hacc⟩ := step_effect hb hc
  -- a closed period stays as it is, so ranges that respected it before still do
  have hstill : ∀ {f t}, (∀ p ∈ (h.step i).db.periods, p.status = .closed → WithinOrApart f t p) →
      ∀ p ∈ h.db.periods, p.status = .closed → WithinOrApart f t p :=
    fun hw p hp hcl => hw p (closed_period_step hs hp hcl i) hcl
  have hsums : ∀ g, incomeSum (h.step i).db T g = incomeSum h.db T g := by
    intro g
    rw [incomeSum, hacc]
    rfl
  cases heff with
  | quiet hp htotal hcov hcontr =>
    constructor
    · intro f t hw a ha hT hi
      rw [htotal, openNet_congr hp hcov]
      exact hr.nets f t (hstill hw) a (hacc ▸ ha) hT hi
    · intro r hmem hsur
      rw [hacc] at hmem
      rw [hcontr r hmem hsur, hr.surplus r hmem hsur, hsums]
      refine incomeSum_congr fun a _ _ _ => ?_
      rw [openNet_congr hp hcov, History.userNet, History.userNet, hp]
  | posted e hp hunc htotal hcov hcontr =>
    constructor
    · intro f t hw a ha hT hi
      rw [htotal, openNet_posted hp hunc hcov, hr.nets f t (hstill hw) a (hacc ▸ ha) hT hi]
    · intro r hmem hsur
      rw [hacc] at hmem
      rw [hcontr r.id, hr.surplus r hmem hsur, hsums]
      refine incomeSum_congr fun a _ _ _ => ?_
      have hall : InRange none none e.entryDate := by simp [InRange]
      rw [openNet_posted hp hunc hcov, if_pos hall, History.userNet, History.userNet, hp,
        List.map_append, List.sum_append]
      simp
  | closed env c cs hcmd hok p hT hp hdb =>
    unfold Recognisable at hopen
    rw [hcmd] at hopen hok
    obtain ⟨hread, hsurplus⟩ := hopen cs hok p.period p.period_mem p.period_id p.period_opened
    constructor
    · intro f t hw a ha haT hi
      rw [hacc] at ha
      have hrange : WithinOrApart f t p.period := by
        have hrow : linkOpening
            { p.period with
              status := .closed
              closedBy := some c.closedByUserId
              closedAt := some env.utcNow } p.opening ∈ (h.step i).db.periods := by
          rw [hdb, p.periods_after hs]
          exact mem_updateKey.mpr (Or.inl ⟨p.period, p.period_mem, rfl, rfl⟩)
        have hnew := hw _ hrow (linkOpening_status _ _)
        rw [WithinOrApart, linkOpening_startDate, linkOpening_endDate] at hnew
        exact hnew
      rw [openNet_close hs p hp hdb hrange, hdb, net_close hb p hT ha haT hi hsurplus,
        hr.nets f t (hstill hw) a ha haT hi, hread a ha haT hi]
    · intro r hmem hsur
      rw [hacc] at hmem
      have hnone : r.IsIncome →
          periodNet h.db T p.period.startDate p.period.endDate r.id = 0 := by
        intro hi
        rw [hread r hmem hsur.1 hi, History.openNet]
        refine List.sum_eq_zero fun x hx => ?_
        obtain ⟨e, he, rfl⟩ := List.mem_map.mp hx
        rw [hb.posted e he r hmem hsur, ite_self]
      have hend : InRange none none p.period.endDate := by simp [InRange]
      rw [hsums, hdb, contribution_close hb p hT hmem hsur hnone, hr.surplus r hmem hsur,
        activeIncomeNet_eq hb, ← incomeSum_sub]
      refine incomeSum_congr fun a ha haT hi => ?_
      rw [openNet_close hs p hp hdb (Or.inl fun d _ => by simp [InRange]), if_pos hend,
        ← hread a ha haT hi, History.userNet, History.userNet, hp]
      ring

/-! ## Runs -/

/-- Each period that was closed before lies inside the one to be closed or shares no day with it,
    and account 3002 is a balance sheet account. -/
def InnerFirst (T : Guid) (h : History) (i : Env × LedgerCommand) : Prop :=
  match i.2 with
  | .closeFiscalPeriod c => ∀ cs, changes i.1 i.2 h.db = .ok cs →
      ∀ p ∈ h.db.periods, p.id = c.periodId → p.status = .opened →
      (∀ q ∈ h.db.periods, q.status = .closed → p.endDate < p.startDate ∨
        q.endDate < p.startDate ∨ p.endDate < q.startDate ∨
          (p.startDate ≤ q.startDate ∧ q.endDate ≤ p.endDate)) ∧
      ∀ r ∈ h.db.accounts, r.IsSurplusOf T → r.IsBalanceSheet
  | _ => True

theorem recognisable_of_innerFirst {T : Guid} {h : History} {i : Env × LedgerCommand}
    (hr : Recognised T h) (hc : InnerFirst T h i) : Recognisable T h i := by
  obtain ⟨env, cmd⟩ := i
  cases cmd with
  | closeFiscalPeriod c =>
    intro cs hcs p hp hid hopen
    obtain ⟨hnested, hsur⟩ := hc cs hcs p hp hid hopen
    refine ⟨hr.nets _ _ fun q hq hcl => ?_, fun r hmem hrs => Or.inl (hsur r hmem hrs)⟩
    have hin : ∀ d, InRange (some p.startDate) (some p.endDate) d ↔
        p.startDate ≤ d ∧ d ≤ p.endDate := by
      simp [InRange]
    unfold WithinOrApart
    simp only [hin, InPeriod]
    rcases hnested q hq hcl with hlt | hlt | hlt | ⟨hS, hE⟩
    · exact Or.inr fun d _ hd => absurd (hd.1.trans hd.2) (not_le.mpr hlt)
    · exact Or.inr fun d hq hd => absurd (hd.1.trans hq.2) (not_le.mpr hlt)
    · exact Or.inr fun d hq hd => absurd (hq.1.trans hd.2) (not_le.mpr hlt)
    · exact Or.inl fun d hq => ⟨hS.trans hq.1, hq.2.trans hE⟩
  | _ => trivial

/-- Accounts of the tenant, all active, and nothing booked yet. -/
structure Fresh (T : Guid) (db : LedgerDb) : Prop where
  schema : db.Schema
  active : ∀ a ∈ db.accounts, a.tenantId = T → a.isActive
  no_entries : db.entries = []
  no_periods : db.periods = []

theorem fresh_recognised {T : Guid} {db : LedgerDb} (h0 : Fresh T db) :
    Bookkeeping T ⟨db, []⟩ ∧ Recognised T ⟨db, []⟩ := by
  refine ⟨⟨h0.schema, h0.active, ?_, ?_, ?_⟩, ?_, ?_⟩
  · simp [h0.no_entries]
  · simp [h0.no_entries]
  · simp
  · intro f t _ a _ _ _
    simp [LedgerDb.postedLegs, h0.no_entries, History.openNet]
  · intro r _ _
    simp [closeContribution, h0.no_entries, incomeSum, History.openNet, History.userNet]

/-- Every income account of the tenant nets to zero, and the period_close entries have brought
    account 3002 exactly what users posted on the income accounts. -/
structure RecognisedOnce (T : Guid) (h : History) : Prop where
  income_zero : ∀ a ∈ h.db.accounts, a.tenantId = T → a.IsIncome →
    Leg.netOn a.id (h.db.postedLegs T none none) = 0
  surplus : ∀ r ∈ h.db.accounts, r.IsSurplusOf T →
    closeContribution h.db T r.id = incomeSum h.db T fun a => -h.userNet a

theorem recognisedOnce_of_covered {T : Guid} {h : History} (hr : Recognised T h)
    (hcov : ∀ e ∈ h.posted, Covered h.db e.entryDate) : RecognisedOnce T h := by
  have hopen : ∀ a, h.openNet none none a = 0 := by
    intro a
    refine List.sum_eq_zero fun x hx => ?_
    obtain ⟨e, he, rfl⟩ := List.mem_map.mp hx
    exact if_neg fun hn => hn.2 (hcov e he)
  refine ⟨fun a ha hT hi => ?_, fun r hmem hsur => ?_⟩
  · rw [hr.nets none none (fun p _ _ => Or.inl fun d _ => by simp [InRange]) a ha hT hi, hopen]
  · rw [hr.surplus r hmem hsur]
    simp only [hopen, zero_sub]

/-- From a ledger with nothing booked: when each close reads exactly what is open in its range,
    and everything posted lies in closed periods, income has been recognised once. Closing inner
    periods first, among periods that are nested or apart, is enough for that. -/
theorem income_recognised_once {T : Guid} {db : LedgerDb} (h0 : Fresh T db)
    (is : List (Env × LedgerCommand)) :
    (StepsSatisfy History.step (fun h i => Admitted T h i ∧ InnerFirst T h i) ⟨db, []⟩ is →
      StepsSatisfy History.step (fun h i => Admitted T h i ∧ Recognisable T h i) ⟨db, []⟩ is) ∧
    (StepsSatisfy History.step (fun h i => Admitted T h i ∧ Recognisable T h i) ⟨db, []⟩ is →
      (∀ e ∈ (run History.step ⟨db, []⟩ is).posted,
        Covered (run History.step ⟨db, []⟩ is).db e.entryDate) →
      RecognisedOnce T (run History.step ⟨db, []⟩ is)) := by
  have hkeep : ∀ h i, (Bookkeeping T h ∧ Recognised T h) →
      Admitted T h i ∧ Recognisable T h i →
        Bookkeeping T (History.step h i) ∧ Recognised T (History.step h i) :=
    fun h i hi hc => ⟨(step_effect hi.1 hc.1).2.1, recognised_step hi.1 hi.2 hc.1 hc.2⟩
  constructor
  · intro hc
    refine StepsSatisfy.mono (I := fun h => Bookkeeping T h ∧ Recognised T h) ?_ ?_
      (fresh_recognised h0) hc
    · exact fun h i hi hc => hkeep h i hi ⟨hc.1, recognisable_of_innerFirst hi.2 hc.2⟩
    · exact fun h i hi hc => ⟨hc.1, recognisable_of_innerFirst hi.2 hc.2⟩
  · intro hc hcov
    exact recognisedOnce_of_covered (run_invariant_of hkeep (fresh_recognised h0) hc).2 hcov

namespace Sample

/-- Tenant 1 with Cash 101, Sales 102 and Retained Surplus 103. -/
def accountsOnly : LedgerDb := run step (LedgerDb.seeded [])
  [account 101 1 "1001" .asset, account 102 1 "4001" .revenue, account 103 1 "3002" .equity]

def period (id : Guid) (S E : DateOnly) : Env × LedgerCommand :=
  (on 1 id, .createFiscalPeriod ⟨1, "P", S, E⟩)

def closing (period id : Guid) : Env × LedgerCommand :=
  (on 30 id, .closeFiscalPeriod ⟨period, 1, 99⟩)

/-- A period inside another one, a sale in each, and the inner one closed first. -/
def nested : List (Env × LedgerCommand) :=
  [period 301 5 10, period 302 1 20, draft 201 1 7 101 102 100, post 201,
   closing 301 401, draft 202 1 15 101 102 50, post 202, closing 302 501]

/-- Two periods that share the days 5 to 10, and one sale on day 3. -/
def overlapping : List (Env × LedgerCommand) :=
  [period 301 1 10, period 302 5 15, draft 201 1 3 101 102 100, post 201,
   closing 301 401, closing 302 501]

theorem accountsOnly_fresh : Fresh 1 accountsOnly := by
  refine ⟨?_, by decide +kernel, by decide +kernel, by decide +kernel⟩
  rw [← LedgerDb.violation_eq_none]
  decide +kernel

end Sample

theorem income_recognised_once_sample :
    RecognisedOnce 1 (run History.step ⟨Sample.accountsOnly, []⟩ Sample.nested) := by
  have hall := income_recognised_once Sample.accountsOnly_fresh Sample.nested
  refine hall.2 (hall.1 ?_) (by decide +kernel)
  refine ⟨⟨rfl, trivial⟩, ⟨rfl, trivial⟩, ⟨⟨rfl, by decide +kernel⟩, trivial⟩,
    ⟨fun e he => ?_, trivial⟩, ⟨rfl, fun _ _ => ?_⟩, ⟨⟨rfl, by decide +kernel⟩, trivial⟩,
    ⟨fun e he => ?_, trivial⟩, ⟨rfl, fun _ _ => ?_⟩, trivial⟩
  · revert e he
    decide +kernel
  · decide +kernel
  · revert e he
    decide +kernel
  · decide +kernel

/-- One sale of 100 on day 3, in the first of two overlapping periods that are closed in order.
    The second close reads the first one's closing entry and takes the income back: Sales is at
    -100 again, and of the 100 earned nothing is left on account 3002. -/
theorem overlapping_periods_recognise_nothing :
    let h := run History.step ⟨Sample.accountsOnly, []⟩ Sample.overlapping
    Fresh 1 Sample.accountsOnly ∧
      StepsSatisfy History.step (Admitted 1) ⟨Sample.accountsOnly, []⟩ Sample.overlapping ∧
      (∀ e ∈ h.posted, Covered h.db e.entryDate) ∧
      (h.db.periods.map (·.status)) = [.closed, .closed] ∧
      Leg.netOn 102 (h.db.postedLegs 1 none none) = -100 ∧ h.userNet 102 = -100 ∧
      closeContribution h.db 1 103 = 0 ∧ ¬RecognisedOnce 1 h := by
  refine ⟨Sample.accountsOnly_fresh, ⟨rfl, rfl, ⟨rfl, by decide +kernel⟩, fun e he => ?_, rfl,
    rfl, trivial⟩, by decide +kernel, by decide +kernel, by decide +kernel, by decide +kernel,
    by decide +kernel, fun hr => ?_⟩
  · revert e he
    decide +kernel
  · have hzero := hr.income_zero (Account.create 102 1 "4001" "4001" .revenue none none)
      (by decide +kernel) rfl (Or.inl rfl)
    exact absurd hzero (by decide +kernel)

end SaasChassis.Ledger
