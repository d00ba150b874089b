/-
  The chart of accounts that a template gives a tenant.

  The handler goes through the template once, roots first and then by code, and looks a parent up
  among the accounts it has made so far. `Loop` is what it holds after some entries, `loop_step`
  one more of them and `loop_run` the whole template. A parent is found exactly when it was made
  before its child: not when the tenant had it already, and not when its code is sorted behind
  (`Linkable`).

  `template_linked_iff`: the template is laid out as it says exactly when the parents of all new
  accounts are linkable and the database takes the new accounts.
-/
import SaasChassis.Ledger.Step
import SaasChassis.Lib.StableSort
import Mathlib.Data.List.Induction

namespace SaasChassis.Ledger

open SaasChassis.Lib SaasChassis.Lib.Postgres

namespace InitializeFromTemplateHandler

variable {env : Env} {culture : Culture} {T : Guid} {existing : List String}
  {entries done : List TemplateAccountEntry} {t : TemplateAccountEntry} {created : List Account}

/-! ## The order -/

theorem entryLe_iff {a b : TemplateAccountEntry} :
    entryLe culture a b ↔ a.parentCode = none ∧ b.parentCode ≠ none ∨
      (a.parentCode = none ↔ b.parentCode = none) ∧ culture.le a.code b.code = true := by
  simp only [entryLe, Option.isNone_iff_eq_none]
  by_cases ha : a.parentCode = none <;> by_cases hb : b.parentCode = none <;> simp [ha, hb]

instance (culture : Culture) : Std.Total (entryLe culture) where
  total a b := by
    have hcode := culture.total a.code b.code
    rw [entryLe_iff, entryLe_iff]
    tauto

instance (culture : Culture) : IsTrans TemplateAccountEntry (entryLe culture) where
  trans a b c := by
    have hcode := culture.trans a.code b.code c.code
    rw [entryLe_iff, entryLe_iff, entryLe_iff]
    tauto

/-- The handler comes to `q` before it comes to `t`. -/
def Precedes (culture : Culture) (entries : List TemplateAccountEntry)
    (q t : TemplateAccountEntry) : Prop :=
  entryLe culture q t ∧ (entryLe culture t q → [q, t].Sublist entries)

instance (culture : Culture) (entries : List TemplateAccountEntry)
    (q t : TemplateAccountEntry) : Decidable (Precedes culture entries q t) :=
  inferInstanceAs (Decidable (_ ∧ _))

/-! ## The loop -/

/-- The parent of a new account: the last account made under its parent code. -/
def parentIdOf (created : List Account) : Option String → Option Guid
  | some code => if code = "" then none else (created.reverse.find? (·.code = code)).map (·.id)
  | none => none

theorem createOne_existing {entry : TemplateAccountEntry} (h : entry.code ∈ existing) :
    createOne env T existing created entry = .ok created :=
  if_pos h

theorem createOne_new {entry : TemplateAccountEntry} {type : AccountType}
    (h : entry.code ∉ existing) (htype : parseAccountType entry.type = .ok type) :
    createOne env T existing created entry =
      .ok (created ++ [Account.create (env.newGuid created.length) T entry.code entry.name type
        (parentIdOf created entry.parentCode) none]) := by
  unfold createOne parentIdOf
  rw [if_neg h, htype]
  rfl

theorem parentIdOf_eq_some {p : String} {i : Guid} (hnd : (created.map (·.code)).Nodup) :
    parentIdOf created (some p) = some i ↔
      p ≠ "" ∧ ∃ b ∈ created, b.code = p ∧ b.id = i := by
  have hrev : (created.reverse.map (·.code)).Nodup := by
    rw [List.map_reverse]
    exact List.nodup_reverse.mpr hnd
  simp only [parentIdOf]
  split
  · next hp => simp [hp]
  · next hp =>
    rw [Option.map_eq_some_iff]
    constructor
    · rintro ⟨b, hb, rfl⟩
      refine ⟨hp, b, List.mem_reverse.mp (List.mem_of_find?_eq_some hb), ?_, rfl⟩
      simpa using List.find?_some hb
    · rintro ⟨-, b, hb, rfl, rfl⟩
      exact ⟨b, find?_key hrev (List.mem_reverse.mpr hb), rfl⟩

/-- What the handler has made of the entries it has come to. -/
structure Loop (env : Env) (T : Guid) (existing : List String)
    (done : List TemplateAccountEntry) (created : List Account) : Prop where
  columns : created.map (fun a => (a.code, a.name)) =
    (done.filter (·.code ∉ existing)).map fun t => (t.code, t.name)
  description : ∀ a ∈ created, a.description = none
  tenant : ∀ a ∈ created, a.tenantId = T
  ids : created.map (·.id) = (List.range created.length).map env.newGuid
  parent_mem : ∀ a ∈ created, ∀ i ∈ a.parentId, i ∈ created.map (·.id)
  /-- An account has its parent's id when the parent was made, and before it. -/
  parent_iff : ∀ t ∈ done, ∀ a ∈ created, a.code = t.code → ∀ p, t.parentCode = some p →
    ∀ i, a.parentId = some i ↔ p ≠ "" ∧ ∃ q, [q, t].Sublist done ∧ q.code = p ∧
      ∃ b ∈ created, b.code = p ∧ b.id = i

theorem Loop.codes (h : Loop env T existing done created) :
    created.map (·.code) = (done.filter (·.code ∉ existing)).map (·.code) := by
  have hcol := congrArg (List.map Prod.fst) h.columns
  simpa only [List.map_map, Function.comp_def] using hcol

theorem Loop.mem_code_iff (h : Loop env T existing done created) {c : String} :
    (∃ a ∈ created, a.code = c) ↔ c ∉ existing ∧ ∃ t ∈ done, t.code = c := by
  rw [← List.mem_map, h.codes, List.mem_map]
  simp only [List.mem_filter, decide_eq_true_eq]
  constructor
  · rintro ⟨t, ⟨ht, hnew⟩, rfl⟩
    exact ⟨hnew, t, ht, rfl⟩
  · rintro ⟨hnew, t, ht, rfl⟩
    exact ⟨t, ⟨ht, hnew⟩, rfl⟩

theorem Loop.codes_nodup (h : Loop env T existing done created)
    (hnd : (done.map (·.code)).Nodup) : (created.map (·.code)).Nodup := by
  rw [h.codes]
  exact hnd.sublist (List.filter_sublist.map _)

theorem code_ne {q : TemplateAccountEntry} (hnd : ((done ++ [t]).map (·.code)).Nodup)
    (hq : q ∈ done) : q.code ≠ t.code := by
  rw [List.map_append] at hnd
  intro he
  exact List.disjoint_of_nodup_append hnd (List.mem_map_of_mem hq)
    (he ▸ List.mem_map_of_mem (List.mem_singleton_self t))

theorem nodup_done (hnd : ((done ++ [t]).map (·.code)).Nodup) :
    (done.map (·.code)).Nodup :=
  hnd.sublist ((List.sublist_append_left done [t]).map _)

theorem Loop.nil : Loop env T existing [] [] where
  columns := rfl
  description _ h := absurd h List.not_mem_nil
  tenant _ h := absurd h List.not_mem_nil
  ids := rfl
  parent_mem _ h := absurd h List.not_mem_nil
  parent_iff _ h := absurd h List.not_mem_nil

/-- Only an account already there is the parent of an earlier entry's account. -/
theorem Loop.parent_append (hnd : ((done ++ [t]).map (·.code)).Nodup) {account : Account}
    (hcode : account.code = t.code) {q : TemplateAccountEntry} (hq : q ∈ done) {i : Guid} :
    (∃ b ∈ created ++ [account], b.code = q.code ∧ b.id = i) ↔
      ∃ b ∈ created, b.code = q.code ∧ b.id = i := by
  constructor
  · rintro ⟨b, hb, hbcode, hbid⟩
    rcases List.mem_append.mp hb with hb | hb
    · exact ⟨b, hb, hbcode, hbid⟩
    · rw [List.mem_singleton.mp hb, hcode] at hbcode
      exact absurd hbcode (code_ne hnd hq).symm
  · rintro ⟨b, hb, hbcode, hbid⟩
    exact ⟨b, List.mem_append_left _ hb, hbcode, hbid⟩

/-- An entry whose code the tenant has already. -/
theorem Loop.skip (h : Loop env T existing done created)
    (hnd : ((done ++ [t]).map (·.code)).Nodup) (ht : t.code ∈ existing) :
    Loop env T existing (done ++ [t]) created where
  columns := by
    rw [h.columns, List.filter_append, List.map_append]
    simp [ht]
  description := h.description
  tenant := h.tenant
  ids := h.ids
  parent_mem := h.parent_mem
  parent_iff := by
    intro t' ht' a ha hcode p hp i
    rcases List.mem_append.mp ht' with ht' | ht'
    · rw [h.parent_iff t' ht' a ha hcode p hp i]
      have hne : t' ≠ t := fun he => code_ne hnd ht' (congrArg (·.code) he)
      simp only [before_append_of_ne hne]
    · rw [List.mem_singleton.mp ht'] at hcode
      exact absurd ht (h.mem_code_iff.mp ⟨a, ha, hcode⟩).1

/-- An entry the tenant has no account for. -/
theorem Loop.create (h : Loop env T existing done created)
    (hnd : ((done ++ [t]).map (·.code)).Nodup) (ht : t.code ∉ existing) (type : AccountType) :
    Loop env T existing (done ++ [t])
      (created ++ [Account.create (env.newGuid created.length) T t.code t.name type
        (parentIdOf created t.parentCode) none]) where
  columns := by
    rw [List.map_append, h.columns, List.filter_append, List.map_append]
    simp [ht, Account.create]
  description a ha := by
    rcases List.mem_append.mp ha with ha | ha
    · exact h.description a ha
    · rw [List.mem_singleton.mp ha]
      rfl
  tenant a ha := by
    rcases List.mem_append.mp ha with ha | ha
    · exact h.tenant a ha
    · rw [List.mem_singleton.mp ha]
      rfl
  ids := by
    rw [List.map_append, h.ids, List.length_append, List.length_singleton, List.range_succ,
      List.map_append]
    rfl
  parent_mem a ha i hi := by
    rw [List.map_append]
    refine List.mem_append_left _ ?_
    rcases List.mem_append.mp ha with ha | ha
    · exact h.parent_mem a ha i hi
    · rw [List.mem_singleton.mp ha] at hi
      cases hp : t.parentCode with
      | none => simp [Account.create, hp, parentIdOf] at hi
      | some p =>
        simp only [Account.create, hp, Option.mem_def] at hi
        obtain ⟨-, b, hb, -, rfl⟩ := (parentIdOf_eq_some (h.codes_nodup (nodup_done hnd))).mp hi
        exact List.mem_map_of_mem hb
  parent_iff := by
    intro t' ht' a ha hcode p hp i
    have htdone : t ∉ done := fun hmem => code_ne hnd hmem rfl
    rcases List.mem_append.mp ht' with ht' | ht'
    · have hne : t' ≠ t := fun he => htdone (he ▸ ht')
      have ha : a ∈ created := by
        refine (List.mem_append.mp ha).resolve_right fun hnew => ?_
        rw [List.mem_singleton.mp hnew] at hcode
        exact code_ne hnd ht' hcode.symm
      rw [h.parent_iff t' ht' a ha hcode p hp i]
      refine and_congr_right fun _ => exists_congr fun q => ?_
      rw [before_append_of_ne hne]
      refine and_congr_right fun hq => and_congr_right fun hqp => ?_
      rw [← hqp, Loop.parent_append hnd rfl (hq.subset List.mem_cons_self)]
    · obtain rfl := List.mem_singleton.mp ht'
      have ha := (List.mem_append.mp ha).resolve_left fun hold => by
        obtain ⟨-, t', ht'', hcode'⟩ := h.mem_code_iff.mp ⟨a, hold, hcode⟩
        exact code_ne hnd ht'' hcode'
      rw [List.mem_singleton.mp ha]
      simp only [Account.create, hp, before_append_self htdone]
      rw [parentIdOf_eq_some (h.codes_nodup (nodup_done hnd))]
      refine and_congr_right fun _ => ⟨?_, ?_⟩
      · rintro ⟨b, hb, hbcode, hbid⟩
        obtain ⟨-, q, hq, hqcode⟩ := h.mem_code_iff.mp ⟨b, hb, hbcode⟩
        exact ⟨q, hq, hqcode, b, List.mem_append_left _ hb, hbcode, hbid⟩
      · rintro ⟨q, hq, rfl, hb⟩
        exact (Loop.parent_append hnd rfl hq).mp hb

theorem loop_step (h : Loop env T existing done created)
    (hnd : ((done ++ [t]).map (·.code)).Nodup) {type : AccountType}
    (htype : parseAccountType t.type = .ok type) :
    ∃ created', createOne env T existing created t = .ok created' ∧
      Loop env T existing (done ++ [t]) created' := by
  by_cases ht : t.code ∈ existing
  · exact ⟨created, createOne_existing ht, h.skip hnd ht⟩
  · exact ⟨_, createOne_new ht htype, h.create hnd ht type⟩

/-- The whole template. -/
theorem loop_run (env : Env) (T : Guid) (existing : List String)
    (hnd : (done.map (·.code)).Nodup)
    (htypes : ∀ t ∈ done, ∃ type, parseAccountType t.type = .ok type) :
    ∃ created, done.foldlM (createOne env T existing) [] = .ok created ∧
      Loop env T existing done created := by
  induction done using List.reverseRecOn with
  | nil => exact ⟨[], rfl, Loop.nil⟩
  | append_singleton done t ih =>
    obtain ⟨created, hc, hloop⟩ :=
      ih (nodup_done hnd) fun t' ht' => htypes t' (List.mem_append_left _ ht')
    obtain ⟨type, htype⟩ := htypes t (List.mem_append_right _ (List.mem_singleton_self t))
    obtain ⟨created', hc', hloop'⟩ := loop_step hloop hnd htype
    refine ⟨created', ?_, hloop'⟩
    rw [List.foldlM_append, hc]
    simp only [List.foldlM_cons, List.foldlM_nil, bind_pure]
    exact hc'

/-! ## The save -/

/-- The codes of the accounts a tenant has. -/
def existingCodes (db : LedgerDb) (T : Guid) : List String := (db.getAllByTenant T).map (·.code)

/-- The entries the tenant has no account for. -/
def newEntries (db : LedgerDb) (T : Guid) (entries : List TemplateAccountEntry) :
    List TemplateAccountEntry :=
  entries.filter (·.code ∉ existingCodes db T)

/-- Code and name fit their columns. That they are text they owe to the column they come from. -/
def FitsAccount (t : TemplateAccountEntry) : Prop :=
  (t.code.length ≤ 20 ∧ t.name.length ≤ 200) ∧ isText t.code ∧ isText t.name

instance (t : TemplateAccountEntry) : Decidable (FitsAccount t) :=
  inferInstanceAs (Decidable (_ ∧ _))

/-- The database is up, codes and names fit their columns, and `Guid.NewGuid()` returns ids that
    are new. -/
def TakesAccounts (env : Env) (db : LedgerDb) (new : List TemplateAccountEntry) : Prop :=
  env.saveFails = false ∧ (∀ t ∈ new, FitsAccount t) ∧
    (db.accounts.map (·.id) ++ (List.range new.length).map env.newGuid).Nodup

theorem mem_existingCodes {db : LedgerDb} {c : String} :
    c ∈ existingCodes db T ↔ ∃ a ∈ db.accounts, a.tenantId = T ∧ a.code = c := by
  simp only [existingCodes, List.mem_map, LedgerDb.mem_getAllByTenant, and_assoc]

theorem Loop.length_eq (h : Loop env T existing done created) :
    created.length = (done.filter (·.code ∉ existing)).length := by
  simpa using congrArg List.length h.columns

/-- The new accounts break no constraint exactly when the database takes them. -/
theorem Loop.schema_iff {db db' : LedgerDb} (hs : db.Schema)
    (h : Loop env T (existingCodes db T) done created) (hnd : (done.map (·.code)).Nodup)
    (hacc : db'.accounts = db.accounts ++ created) (hentries : db'.entries = db.entries)
    (hperiods : db'.periods = db.periods) :
    db'.Schema ↔
      (∀ t ∈ newEntries db T done, FitsAccount t) ∧
        (db.accounts.map (·.id) ++
          (List.range (newEntries db T done).length).map env.newGuid).Nodup := by
  have hids : db'.accounts.map (·.id) = db.accounts.map (·.id) ++
      (List.range (newEntries db T done).length).map env.newGuid := by
    rw [hacc, List.map_append, h.ids, h.length_eq]
    rfl
  have hkeep : ∀ {i : Guid}, i ∈ db.accounts.map (·.id) → i ∈ db'.accounts.map (·.id) := by
    rw [hids]
    exact fun hi => List.mem_append_left _ hi
  -- an account and its entry, column by column
  have hcols : ∀ c n, (∃ a ∈ created, a.code = c ∧ a.name = n) ↔
      ∃ t ∈ newEntries db T done, t.code = c ∧ t.name = n := by
    intro c n
    have hmem : (c, n) ∈ created.map (fun a => (a.code, a.name)) ↔
        (c, n) ∈ (newEntries db T done).map fun t => (t.code, t.name) := by
      rw [h.columns]
      rfl
    simpa only [List.mem_map, Prod.mk.injEq] using hmem
  constructor
  · intro hs'
    refine ⟨fun t ht => ?_, hids ▸ hs'.accounts_pkey⟩
    obtain ⟨a, ha, hc, hn⟩ := (hcols t.code t.name).mpr ⟨t, ht, rfl, rfl⟩
    have ha' : a ∈ db'.accounts := hacc ▸ List.mem_append_right _ ha
    obtain ⟨hcode, hname, -⟩ := hs'.accounts_text a ha'
    rw [FitsAccount, ← hc, ← hn]
    exact ⟨hs'.accounts_columns a ha', hcode, hname⟩
  · rintro ⟨hfits, hfresh⟩
    constructor
    · intro a ha
      rw [hacc] at ha
      rcases List.mem_append.mp ha with ha | ha
      · exact hs.accounts_text a ha
      · obtain ⟨t, ht, hc, hn⟩ := (hcols a.code a.name).mp ⟨a, ha, rfl, rfl⟩
        obtain ⟨-, hcode, hname⟩ := hfits t ht
        rw [hc] at hcode
        rw [hn] at hname
        refine ⟨hcode, hname, fun d hd => ?_⟩
        rw [h.description a ha] at hd
        cases hd
    · rw [hentries]
      exact hs.entries_text
    · rw [hperiods]
      exact hs.periods_text
    · rw [hids]
      exact hfresh
    · intro a ha
      rw [hacc] at ha
      rcases List.mem_append.mp ha with ha | ha
      · exact hs.accounts_columns a ha
      · obtain ⟨t, ht, hc, hn⟩ := (hcols a.code a.name).mp ⟨a, ha, rfl, rfl⟩
        rw [← hc, ← hn]
        exact (hfits t ht).1
    · rw [hacc, List.map_append]
      refine List.nodup_append'.mpr ⟨hs.uq_account_code_tenant, ?_, ?_⟩
      · refine List.Nodup.of_map Prod.snd ?_
        rw [List.map_map]
        exact h.codes_nodup hnd
      · intro k hold hnew
        obtain ⟨a, ha, rfl⟩ := List.mem_map.mp hold
        obtain ⟨b, hb, he⟩ := List.mem_map.mp hnew
        obtain ⟨ht, hc⟩ := Prod.mk.inj he
        refine (h.mem_code_iff.mp ⟨b, hb, rfl⟩).1 (mem_existingCodes.mpr ⟨a, ha, ?_, hc.symm⟩)
        rw [← ht, h.tenant b hb]
    · intro a ha p hp
      rw [hacc] at ha
      rcases List.mem_append.mp ha with ha | ha
      · exact hkeep (hs.accounts_parent_fkey a ha p hp)
      · rw [hacc, List.map_append]
        exact List.mem_append_right _ (h.parent_mem a ha p hp)
    · rw [hentries]
      exact hs.entries_pkey
    · rw [hentries]
      exact hs.entries_columns
    · rw [hentries]
      exact hs.entries_reversed_by_fkey
    · rw [hentries]
      exact hs.entries_reversal_of_fkey
    · rw [hentries]
      exact hs.lines_columns
    · rw [hentries]
      exact hs.chk_debit_or_credit
    · rw [hentries]
      exact fun e he l hl => hkeep (hs.lines_account_fkey e he l hl)
    · rw [hperiods]
      exact hs.periods_pkey
    · rw [hperiods]
      exact hs.periods_columns
    · rw [hperiods]
      exact hs.uq_period_tenant_dates
    · rw [hperiods, hentries]
      exact hs.periods_opening_fkey

/-! ## The chart of accounts -/

/-- The template's accounts are there, what was there is as it was, and every new account whose
    parent code names an entry has the tenant's account with that code as its parent. -/
structure LaidOut (db db' : LedgerDb) (T : Guid) (entries : List TemplateAccountEntry) : Prop where
  complete : ∀ t ∈ entries, ∃ a ∈ db'.accounts, a.tenantId = T ∧ a.code = t.code
  unchanged : ∀ a ∈ db.accounts, a ∈ db'.accounts
  linked : ∀ t ∈ entries, ∀ a ∈ db'.accounts, a ∉ db.accounts → a.tenantId = T →
    a.code = t.code → ∀ q ∈ entries, t.parentCode = some q.code →
      ∃ b ∈ db'.accounts, b.tenantId = T ∧ b.code = q.code ∧ a.parentId = some b.id

/-- The parent of every new account has a code, is new itself and is made first. -/
def ParentsFound (culture : Culture) (db : LedgerDb) (T : Guid)
    (entries : List TemplateAccountEntry) : Prop :=
  ∀ t ∈ newEntries db T entries, ∀ q ∈ entries, t.parentCode = some q.code →
    q.code ≠ "" ∧ q.code ∉ existingCodes db T ∧ Precedes culture entries q t

instance (culture : Culture) (db : LedgerDb) (T : Guid) (entries : List TemplateAccountEntry) :
    Decidable (ParentsFound culture db T entries) :=
  inferInstanceAs (Decidable (∀ t ∈ newEntries db T entries, ∀ q ∈ entries, _))

theorem mem_newEntries {db : LedgerDb} :
    t ∈ newEntries db T entries ↔ t ∈ entries ∧ t.code ∉ existingCodes db T := by
  rw [newEntries, List.mem_filter, decide_eq_true_eq]

/-- Once the new accounts are saved. -/
theorem Loop.laidOut_iff {db db' : LedgerDb} (hcodes : (entries.map (·.code)).Nodup)
    (h : Loop env T (existingCodes db T) (entries.insertionSort (entryLe culture)) created)
    (hacc : db'.accounts = db.accounts ++ created) (hnd : (db'.accounts.map (·.id)).Nodup) :
    LaidOut db db' T entries ↔ ParentsFound culture db T entries := by
  have hsorted : ∀ {q}, q ∈ entries.insertionSort (entryLe culture) ↔ q ∈ entries :=
    List.mem_insertionSort _
  have hone : ∀ {q q'}, q ∈ entries → q' ∈ entries → q.code = q'.code → q = q' :=
    fun hq hq' he => nodup_keys_inj hcodes hq hq' he
  have hnew : ∀ {a}, a ∈ created → a ∉ db.accounts := by
    intro a ha hold
    rw [hacc, List.map_append] at hnd
    exact List.disjoint_of_nodup_append hnd (List.mem_map_of_mem hold) (List.mem_map_of_mem ha)
  have hmem : ∀ {a}, a ∈ created → a ∈ db'.accounts :=
    fun ha => hacc ▸ List.mem_append_right _ ha
  constructor
  · intro hl t ht q hq hp
    obtain ⟨ht, htnew⟩ := mem_newEntries.mp ht
    obtain ⟨a, ha, hcode⟩ := h.mem_code_iff.mpr ⟨htnew, t, hsorted.mpr ht, rfl⟩
    obtain ⟨b, hb, -, hbcode, hparent⟩ :=
      hl.linked t ht a (hmem ha) (hnew ha) (h.tenant a ha) hcode q hq hp
    obtain ⟨hne, q', hbefore, hq'code, c, hc, hccode, -⟩ :=
      (h.parent_iff t (hsorted.mpr ht) a ha hcode q.code hp b.id).mp hparent
    have hq' : q' ∈ entries := hsorted.mp (hbefore.subset List.mem_cons_self)
    rw [hone hq' hq hq'code] at hbefore
    exact ⟨hne, (h.mem_code_iff.mp ⟨c, hc, hccode⟩).1,
      (before_insertionSort_iff hcodes.of_map hq ht).mp hbefore⟩
  · intro hf
    refine ⟨fun t ht => ?_, fun a ha => hacc ▸ List.mem_append_left _ ha, ?_⟩
    · by_cases hex : t.code ∈ existingCodes db T
      · obtain ⟨a, ha, hT, hcode⟩ := mem_existingCodes.mp hex
        exact ⟨a, hacc ▸ List.mem_append_left _ ha, hT, hcode⟩
      · obtain ⟨a, ha, hcode⟩ := h.mem_code_iff.mpr ⟨hex, t, hsorted.mpr ht, rfl⟩
        exact ⟨a, hmem ha, h.tenant a ha, hcode⟩
    · intro t ht a ha hfresh hT hcode q hq hp
      rw [hacc] at ha
      have ha := (List.mem_append.mp ha).resolve_left hfresh
      have htnew := (h.mem_code_iff.mp ⟨a, ha, hcode⟩).1
      obtain ⟨hne, hqnew, hbefore⟩ := hf t (mem_newEntries.mpr ⟨ht, htnew⟩) q hq hp
      obtain ⟨b, hb, hbcode⟩ := h.mem_code_iff.mpr ⟨hqnew, q, hsorted.mpr hq, rfl⟩
      refine ⟨b, hmem hb, h.tenant b hb, hbcode, ?_⟩
      refine (h.parent_iff t (hsorted.mpr ht) a ha hcode q.code hp b.id).mpr ⟨hne, q, ?_, rfl,
        b, hb, hbcode, rfl⟩
      exact (before_insertionSort_iff hcodes.of_map hq ht).mpr hbefore

/-- With nothing saved the template is laid out when there was nothing to make. -/
theorem laidOut_self_iff {db : LedgerDb} :
    LaidOut db db T entries ↔ newEntries db T entries = [] := by
  constructor
  · intro hl
    refine List.eq_nil_iff_forall_not_mem.mpr fun t ht => ?_
    obtain ⟨ht, hnew⟩ := mem_newEntries.mp ht
    exact hnew (mem_existingCodes.mpr (hl.complete t ht))
  · intro hnil
    refine ⟨fun t ht => ?_, fun a ha => ha, fun _ _ a ha hfresh => absurd ha hfresh⟩
    by_contra hc
    have hmem : t ∈ newEntries db T entries :=
      mem_newEntries.mpr ⟨ht, fun hex => hc (mem_existingCodes.mp hex)⟩
    rw [hnil] at hmem
    exact List.not_mem_nil hmem

/-! ## The handler -/

section Handler

variable {db : LedgerDb} {request : InitializeFromTemplateCommand} {template : AccountTemplate}

/-- What the handler prepares, and when the schema allows it. -/
theorem prepare_template (env : Env) (hs : db.Schema)
    (hfound : db.getTemplateByCode request.templateCode = some template)
    (hparsed : template.accounts = some entries) (hcodes : (entries.map (·.code)).Nodup)
    (htypes : ∀ t ∈ entries, ∃ type, parseAccountType t.type = .ok type) :
    ∃ created, Loop env request.tenantId (existingCodes db request.tenantId)
        (entries.insertionSort (entryLe env.culture)) created ∧
      prepare env request db = .ok ({ addedAccounts := created }, created.length) ∧
      created.length = (newEntries db request.tenantId entries).length ∧
      (env.saveFails = false ∧ (ChangeSet.apply { addedAccounts := created } db).Schema ↔
        TakesAccounts env db (newEntries db request.tenantId entries)) := by
  have hperm := List.perm_insertionSort (entryLe env.culture) entries
  have hnew : (newEntries db request.tenantId (entries.insertionSort (entryLe env.culture))).Perm
      (newEntries db request.tenantId entries) := hperm.filter _
  have hnd := ((hperm.map (·.code)).nodup_iff).mpr hcodes
  obtain ⟨created, hrun, hloop⟩ :=
    loop_run env request.tenantId (existingCodes db request.tenantId) hnd
      fun t ht => htypes t (hperm.mem_iff.mp ht)
  have hschema : (ChangeSet.apply { addedAccounts := created } db).Schema ↔ _ :=
    hloop.schema_iff hs hnd rfl (List.append_nil _) (List.append_nil _)
  rw [hnew.length_eq] at hschema
  simp only [hnew.mem_iff] at hschema
  refine ⟨created, hloop, ?_, hloop.length_eq.trans hnew.length_eq,
    and_congr_right fun _ => hschema⟩
  unfold existingCodes at hrun
  simp only [prepare, hfound, hparsed, hrun]
  rfl

/-- The handler saves the new accounts when there are any and the database takes them. -/
theorem handle_template (env : Env) (hs : db.Schema)
    (hfound : db.getTemplateByCode request.templateCode = some template)
    (hparsed : template.accounts = some entries) (hcodes : (entries.map (·.code)).Nodup)
    (htypes : ∀ t ∈ entries, ∃ type, parseAccountType t.type = .ok type) :
    ((newEntries db request.tenantId entries = [] ∨
        ¬TakesAccounts env db (newEntries db request.tenantId entries)) ∧
      (handle env request db).1 = db) ∨
    (TakesAccounts env db (newEntries db request.tenantId entries) ∧
      ∃ created, Loop env request.tenantId (existingCodes db request.tenantId)
          (entries.insertionSort (entryLe env.culture)) created ∧
        (handle env request db).1.accounts = db.accounts ++ created ∧
        (handle env request db).1.Schema) := by
  obtain ⟨created, hloop, hprep, hlen, htakes⟩ :=
    prepare_template env hs hfound hparsed hcodes htypes
  by_cases hnil : newEntries db request.tenantId entries = []
  · -- nothing to make, and no save
    rw [hnil, List.length_nil] at hlen
    refine Or.inl ⟨Or.inl hnil, ?_⟩
    rw [handle, hprep, hlen]
    rfl
  · have hpos : created.length ≠ 0 := by
      rw [hlen]
      exact fun h0 => hnil (List.length_eq_zero_iff.mp h0)
    have hhandle : handle env request db =
        commit env false (.ok ({ addedAccounts := created }, created.length)) db := by
      unfold handle
      rw [hprep]
      split
      · next he => exact absurd (congrArg Prod.snd (Except.ok.inj he)) hpos
      · rfl
    by_cases hsave : TakesAccounts env db (newEntries db request.tenantId entries)
    · obtain ⟨hup, hschema⟩ := htakes.mpr hsave
      have hdb : (handle env request db).1 =
          ChangeSet.apply { addedAccounts := created } db := by
        rw [hhandle]
        simp [commit, saveChanges, hup, LedgerDb.violation_eq_none.mpr hschema]
      refine Or.inr ⟨hsave, created, hloop, ?_, ?_⟩
      · rw [hdb]
        rfl
      · rw [hdb]
        exact hschema
    · refine Or.inl ⟨Or.inr hsave, ?_⟩
      rw [hhandle]
      rcases commit_cases env false (.ok ({ addedAccounts := created }, created.length)) db with
        hsame | ⟨cs, n, hcs, hsaved⟩
      · exact hsame
      · cases hcs
        obtain ⟨heq, hschema⟩ := saveChanges_ok hsaved
        rw [heq] at hschema
        refine absurd (htakes.mp ⟨?_, hschema⟩) hsave
        cases hdown : env.saveFails with
        | false => rfl
        | true => simp [saveChanges, hdown] at hsaved

end Handler

end InitializeFromTemplateHandler

open InitializeFromTemplateHandler

/-- A template is laid out exactly when the handler finds the parents of all new accounts and the
    database takes them, if there are any. -/
theorem template_laidOut_iff {db : LedgerDb} (hs : db.Schema) (env : Env)
    (request : InitializeFromTemplateCommand) {template : AccountTemplate}
    {entries : List TemplateAccountEntry}
    (hfound : db.getTemplateByCode request.templateCode = some template)
    (hparsed : template.accounts = some entries) (hcodes : (entries.map (·.code)).Nodup)
    (htypes : ∀ t ∈ entries, ∃ type, parseAccountType t.type = .ok type) :
    LaidOut db (handle env request db).1 request.tenantId entries ↔
      ParentsFound env.culture db request.tenantId entries ∧
        (newEntries db request.tenantId entries = [] ∨
          TakesAccounts env db (newEntries db request.tenantId entries)) := by
  rcases handle_template env hs hfound hparsed hcodes htypes with
    ⟨hnone, hdb⟩ | ⟨htakes, created, hloop, hacc, hschema⟩
  · rw [hdb, laidOut_self_iff]
    constructor
    · intro hnil
      refine ⟨fun t ht => ?_, Or.inl hnil⟩
      rw [hnil] at ht
      exact absurd ht List.not_mem_nil
    · rintro ⟨-, hnil | htakes⟩
      · exact hnil
      · exact hnone.resolve_right (not_not.mpr htakes)
  · rw [hloop.laidOut_iff hcodes hacc hschema.accounts_pkey]
    exact ⟨fun h => ⟨h, Or.inr htakes⟩, fun h => h.1⟩

section Runs

open Sample

/-- Assets, bank accounts under them, and the main one under these, with a lower code. -/
def assets : List TemplateAccountEntry :=
  [⟨"1000", "Assets", "asset", none⟩, ⟨"1200", "Bank Accounts", "asset", some "1000"⟩,
   ⟨"1100", "Bank Account (Main)", "asset", some "1200"⟩]

theorem assets_types : ∀ t ∈ assets, ∃ type, parseAccountType t.type = .ok type := by
  intro t ht
  refine ⟨.asset, ?_⟩
  have htype : t.type = "asset" := by
    revert t
    decide
  have hlower : "asset".toLower = "asset" := by decide +kernel
  rw [htype, parseAccountType, hlower]
  rfl

/-- The first two entries for a new tenant. -/
theorem template_laidOut_sample :
    let db := LedgerDb.seeded [⟨"assets", some (assets.take 2)⟩]
    LaidOut db (handle (on 1 201) ⟨1, "assets"⟩ db).1 1 (assets.take 2) :=
  (template_laidOut_iff (seeded_schema _) _ _ rfl rfl (by decide)
    fun t ht => assets_types t (List.mem_of_mem_take ht)).mpr
    ⟨by decide +kernel, Or.inr ⟨rfl, by decide +kernel, by decide +kernel⟩⟩

/-- A tenant that has the top account: no other one gets a parent. -/
theorem parents_not_found :
    let db := run step (LedgerDb.seeded [⟨"assets", some assets⟩]) [account 101 1 "1000" .asset]
    let db' := (handle (on 1 201) ⟨1, "assets"⟩ db).1
    Reachable db ∧ (assets.map (·.code)).Nodup ∧
      (db'.accounts.map fun a => (a.code, a.parentId)) =
        [("1000", none), ("1100", none), ("1200", none)] ∧
      ¬LaidOut db db' 1 assets := by
  intro db db'
  refine ⟨⟨_, _, rfl⟩, by decide, by decide +kernel, fun hl => ?_⟩
  obtain ⟨b, -, -, -, hparent⟩ := hl.linked ⟨"1200", "Bank Accounts", "asset", some "1000"⟩
    (by decide) ⟨202, 1, "1200", "Bank Accounts", .asset, none, true, none⟩ (by decide +kernel)
    (by decide +kernel) rfl rfl ⟨"1000", "Assets", "asset", none⟩ (by decide) rfl
  cases hparent

end Runs

end SaasChassis.Ledger
