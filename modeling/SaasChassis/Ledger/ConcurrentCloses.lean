/-
  Closes of one period and postings that run at the same time.

  The close checks that the period is open and that no draft is dated in it, then computes two
  entries, then saves; the save updates the period by its primary key and inserts the entries.
  Two closes that both read the period while it is open both save (`closed_twice`).

  `closed_once`: in every schedule in which no accepted save of a close finds the period no
  longer open, or is for another tenant, at most one closing and one opening entry is stored,
  the closing entry's amounts are those of everything posted in the period, and once the period
  is over nothing becomes posted in it.
-/
import SaasChassis.Ledger.PeriodSaves

namespace SaasChassis.Ledger

open SaasChassis.Lib
open CloseFiscalPeriodHandler (periodEntries checkNoDrafts)

variable {start db : LedgerDb} {p : FiscalPeriod}

/-! ## One step -/

/-- What a request does to the tables. -/
theorem next_effect {r : Request} (hj : CloseInvariant start p db) (hr : HoldsRequest start p db r)
    (hc : OpenAtSave p db r) :
    (Request.next db r).1 = db ∨ Nonempty (PostSave start p db (Request.next db r).1) ∨
      Nonempty (CloseSave start p db (Request.next db r).1) := by
  rcases Request.next_shared db r with he | ⟨env, cmd, cs, rfl, hsave⟩
  · exact Or.inl he
  · right
    rcases hr.saving_cases with ⟨c, rfl⟩ | ⟨c, rfl⟩
    · obtain ⟨⟨q⟩, hl⟩ := hr
      exact Or.inl ⟨q.postSave hl hsave⟩
    · obtain ⟨hid, hprep⟩ := hr
      obtain ⟨hT, hopen⟩ := hc env c cs _ rfl hsave
      have ho : StillOpen start p db := by
        refine hj.phase.resolve_right fun ⟨q, hq, hqid, hst⟩ => ?_
        exact hst (hopen q hq hqid)
      exact Or.inr (closeSave_of_prepare hj.schema ho hid hT (hprep ho) hsave)

/-- What a request goes on holding after a read; after a save it is finished. -/
theorem holds_own {r : Request} (hj : CloseInvariant start p db) (hr : HoldsRequest start p db r) :
    HoldsRequest start p (Request.next db r).1 (Request.next db r).2 := by
  cases r with
  | post env c =>
    show HoldsRequest start p db (Request.prepared env _ (changes env (.postJournalEntry c) db))
    cases hch : changes env (.postJournalEntry c) db with
    | error ex => exact trivial
    | ok cs =>
      cases changes_ok hch with
      | postJournalEntry c entry hmem hid hd hb =>
        refine ⟨⟨⟨entry, hid, hd, rfl, ?_, fun row hrow hrid => ?_⟩⟩, hr⟩
        · by_contra hnew
          rw [hj.new_posted entry hmem hnew] at hd
          cases hd
        · rw [nodup_keys_inj hj.schema.entries_pkey hrow hmem hrid, hd]
          exact EntryStatus.noConfusion
  | close env c =>
    cases hp : CloseFiscalPeriodHandler.loadPeriod c db with
    | error ex =>
      simp only [Request.next, hp]
      exact trivial
    | ok period =>
      simp only [Request.next, hp]
      refine ⟨hr, fun ho => ?_⟩
      rw [loadPeriod_of_stillOpen hj.schema ho hr] at hp
      exact (Except.ok.inj hp).symm
  | periodRead env c period =>
    cases hd : checkNoDrafts (periodEntries c period db) with
    | error ex =>
      simp only [Request.next, hd]
      exact trivial
    | ok u =>
      simp only [Request.next, hd]
      refine ⟨hr.1, fun ho => ?_⟩
      obtain rfl := hr.2 ho
      exact ⟨rfl, hd, rfl⟩
  | entriesRead env c period entries =>
    show HoldsRequest start p db (Request.prepared env _ _)
    cases hp : CloseFiscalPeriodHandler.prepareFrom env c period entries
      (db.getAllByTenant c.tenantId) with
    | error ex => exact trivial
    | ok res =>
      obtain ⟨cs, u⟩ := res
      refine ⟨hr.1, fun ho => ?_⟩
      obtain ⟨rfl, hd, hl⟩ := hr.2 ho
      rw [prepare_of_stillOpen hj.schema ho env hr.1, hd]
      exact (CloseFiscalPeriodHandler.prepareFrom_congr hl.symm).trans hp
  | saving env cmd cs => exact trivial
  | finished result => exact trivial
  | reverse env c => exact hr.elim

theorem closeInvariant_next {r : Request} (hj : CloseInvariant start p db)
    (hr : HoldsRequest start p db r) (hc : OpenAtSave p db r) :
    CloseInvariant start p (Request.next db r).1 ∧
      HoldsRequest start p (Request.next db r).1 (Request.next db r).2 ∧
        ∀ q, HoldsRequest start p db q → HoldsRequest start p (Request.next db r).1 q := by
  have hown := holds_own hj hr
  rcases next_effect hj hr hc with he | ⟨⟨w⟩⟩ | ⟨⟨w⟩⟩
  · rw [he] at hown ⊢
    exact ⟨hj, hown, fun q hq => hq⟩
  · exact ⟨w.closeInvariant hj, hown, fun q hq => w.holds hj.schema hq⟩
  · exact ⟨w.closeInvariant hj.schema, hown, fun q hq => w.holds hj.schema hq⟩

/-- The entries of the period that are posted in `db` were posted in `db₀`. -/
def NoneBecamePosted (p : FiscalPeriod) (db₀ db : LedgerDb) : Prop :=
  ∀ e ∈ db.entries, p.Covers e → e.status = .posted →
    ∃ e₀ ∈ db₀.entries, e₀.id = e.id ∧ e₀.status = .posted

/-- Once the period is over, no request makes an entry dated in it posted. -/
theorem noneBecamePosted_next {r : Request} {db₀ : LedgerDb} (hj : CloseInvariant start p db)
    (ho : Over p db) (hk : NoneBecamePosted p db₀ db) (hr : HoldsRequest start p db r)
    (hc : OpenAtSave p db r) :
    Over p (Request.next db r).1 ∧ NoneBecamePosted p db₀ (Request.next db r).1 := by
  rcases next_effect hj hr hc with he | ⟨⟨w⟩⟩ | ⟨⟨w⟩⟩
  · rw [he]
    exact ⟨ho, hk⟩
  · refine ⟨w.over_iff.mpr ho, fun e' he' hcov hst => ?_⟩
    rw [w.entries_eq] at he'
    obtain ⟨e, he, rfl⟩ := List.mem_map.mp he'
    have hcov := (w.covers_iff e).mp hcov
    have hposted : e.status = .posted := by
      rcases w.posts e he with hsame | ⟨-, -, -, hd⟩
      · rwa [hsame] at hst
      · rwa [w.status_eq he (hd ho hcov)] at hst
    rw [w.id_eq]
    exact hk e he hcov hposted
  · exact absurd w.stillOpen (not_stillOpen_of_over hj.schema ho)

/-! ## Schedules -/

/-- A request that posts an entry, or closes the period, and has not started. -/
def Request.StartsFor (p : FiscalPeriod) : Request → Prop
  | .post _ _ => True
  | .close _ c => c.periodId = p.id
  | _ => False

theorem storedSince_start (db : LedgerDb) (m : String) : storedSince db db m = [] := by
  refine List.filter_eq_nil_iff.mpr fun e he h => ?_
  exact (of_decide_eq_true h).1 (List.mem_map_of_mem he)

theorem closeInvariant_start (hs : db.Schema) (hp : p ∈ db.periods) : CloseInvariant db p db := by
  refine ⟨hs, fun e he hnew => absurd (List.mem_map_of_mem he) hnew, ?_, ?_, ?_,
    fun hopened ho => ?_⟩
  · by_cases hopened : p.status = .opened
    · exact Or.inl ⟨hp, hopened, rfl⟩
    · exact Or.inr ⟨p, hp, rfl, hopened⟩
  · rw [storedSince_start]
    exact Nat.zero_le _
  · rw [storedSince_start]
    exact Nat.zero_le _
  · have hopen : StillOpen db p db := ⟨hp, hopened, rfl⟩
    exact absurd hopen (not_stillOpen_of_over hs ho)

/-- From every reachable state, for any number of closes of the period and postings, in any
    schedule in which no accepted save of a close finds the period no longer open or is for
    another tenant. If the period was not open to begin with, no draft dated in it is to be
    posted. -/
theorem closed_once {db : LedgerDb} (h : Reachable db) {p : FiscalPeriod} (hp : p ∈ db.periods)
    {requests : List Request} (hreq : ∀ r ∈ requests, r.StartsFor p)
    (hstart : p.status = .opened ∨ ∀ env c, .post env c ∈ requests →
      ∀ e ∈ db.entries, e.id = c.entryId → p.Covers e → e.status ≠ .draft)
    {schedule : List Nat} (hc : ScheduleSatisfies (OpenAtSave p) db requests schedule) :
    ClosedOnce db p (interleave db requests schedule).shared ∧
      ∀ n, Over p (interleave db requests (schedule.take n)).shared →
        NoneBecamePosted p (interleave db requests (schedule.take n)).shared
          (interleave db requests schedule).shared := by
  have hs := reachable_schema h
  have h0 : Pool.Holds (CloseInvariant db p) (HoldsRequest db p) ⟨db, requests⟩ := by
    refine ⟨closeInvariant_start hs hp, fun r hr => ?_⟩
    have hfor := hreq r hr
    cases r with
    | post env c =>
      intro ho
      rcases hstart with hopened | hpost
      · have hopen : StillOpen db p db := ⟨hp, hopened, rfl⟩
        exact absurd hopen (not_stillOpen_of_over hs ho)
      · exact hpost env c hr
    | close env c => exact hfor
    | reverse env c => exact hfor.elim
    | periodRead env c period => exact hfor.elim
    | entriesRead env c period entries => exact hfor.elim
    | saving env cmd cs => exact hfor.elim
    | finished result => exact hfor.elim
  refine ⟨(h0.run (fun _ _ => closeInvariant_next) hc).shared.once, fun n ho => ?_⟩
  rw [← List.take_append_drop n schedule] at hc
  obtain ⟨hbefore, hafter⟩ := stepsSatisfy_append.mp hc
  have hn := h0.run (fun _ _ => closeInvariant_next) hbefore
  have hrun := Pool.Holds.run (J := fun x => CloseInvariant db p x ∧ Over p x ∧
    NoneBecamePosted p (interleave db requests (schedule.take n)).shared x)
    (A := HoldsRequest db p) (C := OpenAtSave p) ?_
    ⟨⟨hn.shared, ho, fun e he _ hst => ⟨e, he, rfl, hst⟩⟩, hn.threads⟩ hafter
  · have hsplit : interleave db requests schedule = run (Pool.step Request.next)
        (interleave db requests (schedule.take n)) (schedule.drop n) := by
      unfold interleave
      rw [← run_append, List.take_append_drop]
    rw [hsplit]
    exact hrun.shared.2.2
  · rintro x r ⟨hj, hx, hk⟩ hr hcr
    obtain ⟨hj', hown, hother⟩ := closeInvariant_next hj hr hcr
    exact ⟨⟨hj', noneBecamePosted_next hj hx hk hr hcr⟩, hown, hother⟩

/-- The close the request is about to save. -/
def Request.closeToSave : Request → Option CloseFiscalPeriodCommand
  | .saving _ (.closeFiscalPeriod c) _ => some c
  | _ => none

/-- Any save of a close, accepted or not, finds the period open. -/
def OpenAtAnySave (p : FiscalPeriod) (pool : Pool LedgerDb Request) (k : Nat) : Prop :=
  ∀ c ∈ pool.threads[k]?.bind Request.closeToSave,
    c.tenantId = p.tenantId ∧ ∀ q ∈ pool.shared.periods, q.id = p.id → q.status = .opened

instance (p : FiscalPeriod) (pool : Pool LedgerDb Request) (k : Nat) :
    Decidable (OpenAtAnySave p pool k) := Option.decidableForallMem _

theorem scheduleSatisfies_of_any {db : LedgerDb} {requests : List Request} {schedule : List Nat}
    (h : StepsSatisfy (Pool.step Request.next) (OpenAtAnySave p) ⟨db, requests⟩ schedule) :
    ScheduleSatisfies (OpenAtSave p) db requests schedule := by
  refine StepsSatisfy.mono (I := fun _ => True) (fun _ _ _ _ => trivial) ?_ trivial h
  rintro pool k - hany r hr env c cs db' rfl -
  refine hany c ?_
  rw [hr]
  rfl

namespace Sample

/-- A posting of entry 601 and two closes of the period. -/
def closesAndPost : List Request :=
  [.post (on 12 900) ⟨601, 99⟩, .close (on 30 401) ⟨301, 1, 99⟩, .close (on 30 451) ⟨301, 1, 98⟩]

/-- The sales of `setup`, and a draft dated in the period. -/
def withDraft : LedgerDb := ledger [draft 601 1 12 101 102 70]

end Sample

/-- The second close has read the period before the posting and before the first close is
    through; it never saves. -/
theorem closed_once_sample :
    let db' := (interleave Sample.withDraft Sample.closesAndPost [2, 0, 0, 1, 1, 1, 1, 2]).shared
    ClosedOnce Sample.withDraft Sample.openPeriod db' ∧
      ∀ n, Over Sample.openPeriod (interleave Sample.withDraft Sample.closesAndPost
          (List.take n [2, 0, 0, 1, 1, 1, 1, 2])).shared →
        NoneBecamePosted Sample.openPeriod (interleave Sample.withDraft Sample.closesAndPost
          (List.take n [2, 0, 0, 1, 1, 1, 1, 2])).shared db' := by
  have hreq : ∀ r ∈ Sample.closesAndPost, r.StartsFor Sample.openPeriod := by
    simp [Sample.closesAndPost, Request.StartsFor, Sample.openPeriod, FiscalPeriod.create]
  exact closed_once (Sample.ledger_reachable _) (by decide +kernel) hreq (Or.inl rfl)
    (scheduleSatisfies_of_any (by decide +kernel))

/-- Both closes read the open period before either saves: the sales of 100 are moved to Retained
    Surplus twice. -/
theorem closed_twice :
    let start := Sample.ledger []
    let db' := (interleave start Sample.closesAndPost [1, 2, 1, 2, 1, 2, 1, 2]).shared
    Reachable start ∧ Sample.openPeriod ∈ start.periods ∧ Sample.openPeriod.status = .opened ∧
      (storedSince start db' "period_close").map (fun e => (e.id, e.periodId, e.legs)) =
        [(401, some 301, [⟨102, 100, 0⟩, ⟨103, 0, 100⟩]),
          (451, some 301, [⟨102, 100, 0⟩, ⟨103, 0, 100⟩])] ∧
      ¬ClosedOnce start Sample.openPeriod db' := by
  intro start db'
  refine ⟨Sample.ledger_reachable [], by decide +kernel, rfl, by decide +kernel, fun h => ?_⟩
  exact absurd h.one_closing (by decide +kernel)

end SaasChassis.Ledger
