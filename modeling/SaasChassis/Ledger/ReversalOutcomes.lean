/-
  How a request for a reversal ends.

  `CreateReversal` looks at the status first and at `ReversedById` second. In a reachable ledger
  an entry that names its reversal has the status Reversed (`ReversalStructure.reversed_iff`), so
  the first check refuses it and the second one never does: a second reversal is answered as one of
  a draft would be (`handle_alreadyReversed`, `duplicate_never_answered`).

  `reversal_classified_iff`: a request ends as its entry calls for exactly when the entry is not
  reversed yet and, where there is something to reverse, the database takes the save.
-/
import SaasChassis.Ledger.ReversalChains

namespace SaasChassis.Ledger

open SaasChassis.Lib SaasChassis.Lib.Postgres

/-- The status and the code `ExceptionHandlingMiddleware.WriteErrorAsync` answers. -/
def writeErrorAsync : LedgerException → Nat × String
  | .validation _ => (400, "VALIDATION_ERROR")
  | .unbalancedEntry _ _ _ => (400, "UNBALANCED_ENTRY")
  | .closedPeriod _ => (400, "CLOSED_PERIOD")
  | .duplicateReversal _ => (400, "DUPLICATE_REVERSAL")
  | .invalidOperation _ => (400, "VALIDATION_ERROR")
  | .argumentOutOfRange | .dbUpdate _ | .publishFailed => (500, "INTERNAL_ERROR")

/-! ## What the request finds -/

/-- Entry `id` is stored, posted and not reversed. -/
def Reversible (db : LedgerDb) (id : Guid) : Prop :=
  ∃ e ∈ db.entries, e.id = id ∧ e.status = .posted ∧ e.reversedById = none

/-- Entry `id` is stored and names its reversal. -/
def AlreadyReversed (db : LedgerDb) (id : Guid) : Prop :=
  ∃ e ∈ db.entries, e.id = id ∧ e.reversedById.isSome

/-- There is no entry `id`, or it is a draft. -/
def MissingOrDraft (db : LedgerDb) (id : Guid) : Prop :=
  ∀ e ∈ db.entries, e.id = id → e.status = .draft

instance (db : LedgerDb) (id : Guid) : Decidable (Reversible db id) :=
  inferInstanceAs (Decidable (∃ e ∈ db.entries, _))

instance (db : LedgerDb) (id : Guid) : Decidable (AlreadyReversed db id) :=
  inferInstanceAs (Decidable (∃ e ∈ db.entries, _))

/-- The database is up, the reason has no NUL in it, and `Guid.NewGuid()` returns an id no entry
    has. -/
def TakesReversal (env : Env) (request : ReverseJournalEntryCommand) (db : LedgerDb) : Prop :=
  env.saveFails = false ∧ isText request.reason ∧ env.newGuid 0 ∉ db.entries.map (·.id)

/-- The request ends as its entry calls for. -/
structure ReversalClassified (env : Env) (request : ReverseJournalEntryCommand) (db : LedgerDb) :
    Prop where
  succeeds_iff : (∃ id, (ReverseJournalEntryHandler.handle env request db).2 = .ok id) ↔
    Reversible db request.entryId
  duplicate_iff :
    (∃ id, (ReverseJournalEntryHandler.handle env request db).2 =
      .error (.duplicateReversal id)) ↔ AlreadyReversed db request.entryId
  invalid_iff :
    (∃ message, (ReverseJournalEntryHandler.handle env request db).2 =
      .error (.invalidOperation message)) ↔ MissingOrDraft db request.entryId
  unchanged : ∀ ex, (ReverseJournalEntryHandler.handle env request db).2 = .error ex →
    (ReverseJournalEntryHandler.handle env request db).1 = db

/-! ## The save of a reversal -/

section Save

variable {db db' : LedgerDb} {entry reversal current : JournalEntry} {reason : String} {u g : Guid}
  {now : DateTime}

/-- The journal after the save. -/
theorem entries_reversal (hs : db.Schema) (hmem : entry ∈ db.entries)
    (hr : entry.createReversal reason u g now = .ok (reversal, current)) :
    (ChangeSet.apply { addedEntries := [reversal], modifiedEntries := [(entry, current)] }
      db).entries = updateKey (·.id) entry.id (fun _ => current) db.entries ++ [reversal] := by
  have hst := stored_reversal hs hmem hr
  obtain ⟨-, -, rfl, -⟩ := JournalEntry.createReversal_ok hr
  rw [apply_entries_modified hs hmem rfl (writeChanges_reversed entry g), List.map_singleton, hst]

theorem ids_reversal (hs : db.Schema) (hmem : entry ∈ db.entries)
    (hr : entry.createReversal reason u g now = .ok (reversal, current))
    (he : db'.entries = updateKey (·.id) entry.id (fun _ => current) db.entries ++ [reversal]) :
    db'.entries.map (·.id) = db.entries.map (·.id) ++ [g] := by
  obtain ⟨-, -, rfl, hid, -⟩ := JournalEntry.createReversal_ok hr
  rw [he, List.map_append, List.map_singleton, hid]
  exact congrArg (· ++ [g]) (map_updateKey_const hs.entries_pkey hmem rfl)

/-- A row of the new journal: an old one, the entry marked as reversed, or the reversal. -/
theorem rows_reversal
    (he : db'.entries = updateKey (·.id) entry.id (fun _ => current) db.entries ++ [reversal]) :
    ∀ e ∈ db'.entries, e ∈ db.entries ∨ e = current ∨ e = reversal := by
  intro e hmem'
  rw [he] at hmem'
  rcases List.mem_append.mp hmem' with hmem' | hmem'
  · rcases mem_updateKey.mp hmem' with ⟨_, -, -, rfl⟩ | ⟨hmem', -⟩
    · exact Or.inr (Or.inl rfl)
    · exact Or.inl hmem'
  · exact Or.inr (Or.inr (List.mem_singleton.mp hmem'))

/-- A line of the new journal has the account of an old one and its amounts, exchanged or not. -/
theorem lines_reversal (hmem : entry ∈ db.entries)
    (hr : entry.createReversal reason u g now = .ok (reversal, current))
    (he : db'.entries = updateKey (·.id) entry.id (fun _ => current) db.entries ++ [reversal]) :
    ∀ e ∈ db'.entries, ∀ l ∈ e.lines, ∃ q ∈ db.entries, ∃ k ∈ q.lines,
      l.leg = k.leg ∨ l.leg = k.leg.swap := by
  obtain ⟨-, -, hcur, -, -, -, -, -, -, -, -, -, hlines⟩ := JournalEntry.createReversal_ok hr
  intro e hmem' l hl
  rcases rows_reversal he e hmem' with hold | rfl | rfl
  · exact ⟨e, hold, l, hl, Or.inl rfl⟩
  · rw [hcur] at hl
    exact ⟨entry, hmem, l, hl, Or.inl rfl⟩
  · rw [hlines] at hl
    obtain ⟨k, hk, rfl⟩ := List.mem_map.mp hl
    exact ⟨entry, hmem, k, hk, Or.inr rfl⟩

/-- The text in front of a line's description. -/
theorem isText_reversalOf {d : String} (h : isText d) : isText s!"Reversal of: {d}" := by
  show isText ("Reversal of: " ++ d) = true
  rw [isText_append, h]
  decide

/-- The reversal's description is text when the original's and the reason are. -/
theorem isText_reason {description reason : String} (h : isText description) :
    isText s!"REVERSAL: {description} — {reason}" ↔ isText reason := by
  show isText ("REVERSAL: " ++ description ++ " — " ++ reason) = true ↔ _
  have hfirst : isText "REVERSAL: " = true := by decide
  have hdash : isText " — " = true := by decide
  simp only [isText_append, hfirst, h, hdash, Bool.true_and]

/-- The reversal takes its texts from the entry and the reason. -/
theorem isText_reversal (hentry : entry.IsText)
    (hr : entry.createReversal reason u g now = .ok (reversal, current)) :
    reversal.IsText ↔ isText reason := by
  obtain ⟨hdescription, hreference, -, hlines⟩ := hentry
  have htext : reversal.description = s!"REVERSAL: {entry.description} — {reason}" := by
    unfold JournalEntry.createReversal at hr
    split at hr
    · cases hr
    · split at hr
      · cases hr
      · cases hr
        rfl
  obtain ⟨-, -, -, -, -, -, -, href, -, -, -, hmod, hl⟩ := JournalEntry.createReversal_ok hr
  rw [← isText_reason hdescription, ← htext]
  constructor
  · exact fun h => h.1
  · intro h
    refine ⟨h, ?_, ?_, fun l hmem d hd => ?_⟩
    · rw [href]
      exact hreference
    · rw [hmod]
      exact fun m hm => absurd hm (Option.not_mem_none m)
    · rw [hl] at hmem
      obtain ⟨k, hk, rfl⟩ := List.mem_map.mp hmem
      cases hd
      refine isText_reversalOf ?_
      cases hkd : k.description with
      | none => rfl
      | some x => exact hlines k hk x hkd

/-- A reversal with a new id and a reason that is text breaks no constraint. -/
theorem schema_reversal (hs : db.Schema) (hmem : entry ∈ db.entries)
    (hr : entry.createReversal reason u g now = .ok (reversal, current)) (hreason : isText reason)
    (hfresh : g ∉ db.entries.map (·.id)) (hacc : db'.accounts = db.accounts)
    (hper : db'.periods = db.periods)
    (he : db'.entries = updateKey (·.id) entry.id (fun _ => current) db.entries ++ [reversal]) :
    db'.Schema := by
  have hids := ids_reversal hs hmem hr he
  have hrows := rows_reversal he
  have hlines := lines_reversal hmem hr he
  have htext : reversal.IsText := (isText_reversal (hs.entries_text entry hmem) hr).mpr hreason
  obtain ⟨-, -, rfl, -, -, -, -, href, -, hrev, hof, hmod, -⟩ :=
    JournalEntry.createReversal_ok hr
  have hkeep : ∀ {i : Guid}, i ∈ db.entries.map (·.id) → i ∈ db'.entries.map (·.id) := by
    rw [hids]
    exact fun h => List.mem_append_left _ h
  constructor
  · rw [hacc]
    exact hs.accounts_text
  · intro e hmem'
    rcases hrows e hmem' with hold | rfl | rfl
    · exact hs.entries_text e hold
    · exact hs.entries_text entry hmem
    · exact htext
  · rw [hper]
    exact hs.periods_text
  · rw [hacc]
    exact hs.accounts_pkey
  · rw [hacc]
    exact hs.accounts_columns
  · rw [hacc]
    exact hs.uq_account_code_tenant
  · rw [hacc]
    exact hs.accounts_parent_fkey
  · rw [hids]
    exact List.nodup_append'.mpr ⟨hs.entries_pkey, List.nodup_singleton g,
      List.disjoint_singleton.mpr hfresh⟩
  · intro e hmem'
    rcases hrows e hmem' with hold | rfl | rfl
    · exact hs.entries_columns e hold
    · exact hs.entries_columns entry hmem
    · rw [href, hmod]
      exact ⟨(hs.entries_columns entry hmem).1, fun _ h => absurd h (Option.not_mem_none _)⟩
  · intro e hmem' r hr'
    rcases hrows e hmem' with hold | rfl | rfl
    · exact hkeep (hs.entries_reversed_by_fkey e hold r hr')
    · rw [hids, ← Option.some.inj hr']
      exact List.mem_append_right _ (List.mem_singleton_self g)
    · rw [hrev] at hr'
      exact absurd hr' (Option.not_mem_none _)
  · intro e hmem' r hr'
    rcases hrows e hmem' with hold | rfl | rfl
    · exact hkeep (hs.entries_reversal_of_fkey e hold r hr')
    · exact hkeep (hs.entries_reversal_of_fkey entry hmem r hr')
    · rw [hof] at hr'
      rw [← Option.some.inj hr']
      exact hkeep (List.mem_map_of_mem hmem)
  · intro e hmem' l hl
    obtain ⟨q, hq, k, hk, hleg⟩ := hlines e hmem' l hl
    obtain ⟨hd, hc⟩ := hs.lines_columns q hq k hk
    show FitsColumn l.leg.debit ∧ FitsColumn l.leg.credit
    rcases hleg with hleg | hleg
    · rw [hleg]
      exact ⟨hd, hc⟩
    · rw [hleg]
      exact ⟨hc, hd⟩
  · intro e hmem' l hl
    obtain ⟨q, hq, k, hk, hleg | hleg⟩ := hlines e hmem' l hl
    · rw [hleg]
      exact hs.chk_debit_or_credit q hq k hk
    · rw [hleg, Leg.oneSided_swap]
      exact hs.chk_debit_or_credit q hq k hk
  · intro e hmem' l hl
    obtain ⟨q, hq, k, hk, hleg⟩ := hlines e hmem' l hl
    have hid : l.accountId = k.accountId := by
      rcases hleg with hleg | hleg <;> exact congrArg Leg.account hleg
    rw [hid, hacc]
    exact hs.lines_account_fkey q hq k hk
  · rw [hper]
    exact hs.periods_pkey
  · rw [hper]
    exact hs.periods_columns
  · rw [hper]
    exact hs.uq_period_tenant_dates
  · rw [hper]
    exact fun p hp e hmem' => hkeep (hs.periods_opening_fkey p hp e hmem')

end Save

/-! ## The answer -/

section Answer

variable {db : LedgerDb} (env : Env) {request : ReverseJournalEntryCommand}

theorem findEntry_of_mem (hs : db.Schema) {e : JournalEntry} (he : e ∈ db.entries) :
    findEntry e.id db = .ok e := by
  have hget : db.getEntryById e.id = some e := find?_key hs.entries_pkey he
  simp only [findEntry, hget]

theorem createReversal_posted {e : JournalEntry} (hst : e.status = .posted)
    (hrev : e.reversedById = none) (reason : String) (u g : Guid) (now : DateTime) :
    ∃ reversal current, e.createReversal reason u g now = .ok (reversal, current) := by
  unfold JournalEntry.createReversal
  rw [if_neg (not_not.mpr hst), hrev]
  exact ⟨_, _, rfl⟩

theorem createReversal_not_posted {e : JournalEntry} (hst : e.status ≠ .posted)
    (reason : String) (u g : Guid) (now : DateTime) :
    e.createReversal reason u g now =
      .error (.invalidOperation "Only posted entries can be reversed.") :=
  if_pos hst

/-- A failed request leaves the tables as they were: nothing comes after the save. -/
theorem handle_unchanged {ex : LedgerException}
    (h : (ReverseJournalEntryHandler.handle env request db).2 = .error ex) :
    (ReverseJournalEntryHandler.handle env request db).1 = db := by
  unfold ReverseJournalEntryHandler.handle commit at h ⊢
  cases hp : ReverseJournalEntryHandler.prepare env request db with
  | error e => rfl
  | ok p =>
    simp only [hp] at h ⊢
    cases hsave : saveChanges env p.1 db with
    | error e => rfl
    | ok db' => simp [hsave] at h

/-- No such entry. -/
theorem handle_missing (h : ∀ e ∈ db.entries, e.id ≠ request.entryId) :
    ∃ message, (ReverseJournalEntryHandler.handle env request db).2 =
      .error (.invalidOperation message) := by
  have hget : db.getEntryById request.entryId = none :=
    List.find?_eq_none.mpr fun e he => by simpa using h e he
  have hprep : ReverseJournalEntryHandler.prepare env request db =
      .error (.invalidOperation s!"Journal entry {request.entryId} not found.") := by
    simp only [ReverseJournalEntryHandler.prepare, findEntry, hget]
    rfl
  rw [ReverseJournalEntryHandler.handle, hprep, commit]
  exact ⟨_, rfl⟩

/-- A draft and a reversed entry get one answer. -/
theorem handle_not_posted (hs : db.Schema) {e : JournalEntry} (he : e ∈ db.entries)
    (hid : e.id = request.entryId) (hst : e.status ≠ .posted) :
    (ReverseJournalEntryHandler.handle env request db).2 =
      .error (.invalidOperation "Only posted entries can be reversed.") := by
  have hfind := findEntry_of_mem hs he
  rw [hid] at hfind
  have hprep : ReverseJournalEntryHandler.prepare env request db =
      .error (.invalidOperation "Only posted entries can be reversed.") := by
    simp only [ReverseJournalEntryHandler.prepare, hfind, createReversal_not_posted hst, bind,
      Except.bind]
  rw [ReverseJournalEntryHandler.handle, hprep, commit]

/-- A reversible entry is reversed, unless the database does not take the save. -/
theorem handle_reversible (hs : db.Schema) (hr : Reversible db request.entryId) :
    (TakesReversal env request db ∧
      ∃ id, (ReverseJournalEntryHandler.handle env request db).2 = .ok id) ∨
    (¬TakesReversal env request db ∧
      ∃ e, (ReverseJournalEntryHandler.handle env request db).2 = .error (.dbUpdate e)) := by
  obtain ⟨e, he, hid, hst, hrev⟩ := hr
  have hfind := findEntry_of_mem hs he
  rw [hid] at hfind
  obtain ⟨reversal, current, hcr⟩ :=
    createReversal_posted hst hrev request.reason request.reversedByUserId (env.newGuid 0)
      env.utcNow
  have hprep : ReverseJournalEntryHandler.prepare env request db =
      .ok ({ addedEntries := [reversal], modifiedEntries := [(e, current)] }, reversal.id) := by
    simp only [ReverseJournalEntryHandler.prepare, hfind, hcr, bind, Except.bind]
  have hentries := entries_reversal hs he hcr
  rw [ReverseJournalEntryHandler.handle, hprep, commit]
  by_cases hdown : env.saveFails = true
  · right
    refine ⟨fun ht => absurd hdown (by rw [ht.1]; exact Bool.false_ne_true), .unavailable, ?_⟩
    simp only [saveChanges, hdown, if_true]
  · have hup : env.saveFails = false := Bool.eq_false_iff.mpr hdown
    by_cases ht : isText request.reason = true ∧ env.newGuid 0 ∉ db.entries.map (·.id)
    · left
      have hviol := LedgerDb.violation_eq_none.mpr (schema_reversal hs he hcr ht.1 ht.2
        (List.append_nil _) (List.append_nil _) hentries)
      refine ⟨⟨hup, ht⟩, reversal.id, ?_⟩
      simp [saveChanges, hup, hviol]
    · right
      refine ⟨fun h => ht h.2, ?_⟩
      have hviol : (ChangeSet.apply
          { addedEntries := [reversal], modifiedEntries := [(e, current)] }
          db).violation ≠ none := by
        intro hv
        have hsave := LedgerDb.violation_eq_none.mp hv
        refine ht ⟨?_, fun htaken => ?_⟩
        · -- the server refuses a NUL in the description
          have hnew := hsave.entries_text reversal (by
            rw [hentries]
            exact List.mem_append_right _ (List.mem_singleton_self _))
          exact (isText_reversal (hs.entries_text e he) hcr).mp hnew
        · -- the primary key refuses an id that is taken
          have hnd := hsave.entries_pkey
          rw [ids_reversal hs he hcr hentries] at hnd
          exact List.disjoint_of_nodup_append hnd htaken (List.mem_singleton_self _)
      obtain ⟨c, hc⟩ := Option.ne_none_iff_exists'.mp hviol
      refine ⟨.violates c, ?_⟩
      simp only [saveChanges, hup, hc, Bool.false_eq_true, if_false]

/-- A draft and a missing entry are refused. -/
theorem handle_missingOrDraft (hs : db.Schema) (hm : MissingOrDraft db request.entryId) :
    ∃ message, (ReverseJournalEntryHandler.handle env request db).2 =
      .error (.invalidOperation message) := by
  by_cases h : ∃ e ∈ db.entries, e.id = request.entryId
  · obtain ⟨e, he, hid⟩ := h
    have hst : e.status ≠ .posted := by
      rw [hm e he hid]
      decide
    exact ⟨_, handle_not_posted env hs he hid hst⟩
  · exact handle_missing env fun e he hid => h ⟨e, he, hid⟩

/-- A reversed entry is refused by the first check, never by the second. -/
theorem handle_alreadyReversed (h : Reachable db) (ha : AlreadyReversed db request.entryId) :
    (ReverseJournalEntryHandler.handle env request db).2 =
      .error (.invalidOperation "Only posted entries can be reversed.") := by
  obtain ⟨e, he, hid, hrev⟩ := ha
  have hst : e.status = .reversed := ((reversalStructure h).reversed_iff e he).mpr hrev
  refine handle_not_posted env (reachable_schema h) he hid ?_
  rw [hst]
  decide

/-- In a reachable ledger a request names a reversible entry, a reversed one, a draft or none. -/
theorem request_cases (h : Reachable db) (id : Guid) :
    (Reversible db id ∧ ¬AlreadyReversed db id ∧ ¬MissingOrDraft db id) ∨
    AlreadyReversed db id ∧ ¬MissingOrDraft db id ∨
    (MissingOrDraft db id ∧ ¬Reversible db id ∧ ¬AlreadyReversed db id) := by
  have hnd := (reachable_schema h).entries_pkey
  have hiff := (reversalStructure h).reversed_iff
  by_cases hex : ∃ e ∈ db.entries, e.id = id
  · obtain ⟨e, he, rfl⟩ := hex
    have hone : ∀ q ∈ db.entries, q.id = e.id → q = e :=
      fun q hq hid => nodup_keys_inj hnd hq he hid
    have hnone : e.status ≠ .reversed → ¬AlreadyReversed db e.id := by
      rintro hst ⟨q, hq, hid, hrev⟩
      rw [hone q hq hid] at hrev
      exact hst ((hiff e he).mpr hrev)
    cases hst : e.status with
    | posted =>
      have hrev := hnone (by rw [hst]; decide)
      refine Or.inl ⟨⟨e, he, rfl, hst, ?_⟩, hrev, fun hm => ?_⟩
      · exact Option.not_isSome_iff_eq_none.mp fun hsome => hrev ⟨e, he, rfl, hsome⟩
      · rw [hm e he rfl] at hst
        cases hst
    | reversed =>
      refine Or.inr (Or.inl ⟨⟨e, he, rfl, (hiff e he).mp hst⟩, fun hm => ?_⟩)
      rw [hm e he rfl] at hst
      cases hst
    | draft =>
      refine Or.inr (Or.inr ⟨fun q hq hid => ?_, ?_, hnone (by rw [hst]; decide)⟩)
      · rw [hone q hq hid, hst]
      · rintro ⟨q, hq, hid, hposted, -⟩
        rw [hone q hq hid, hst] at hposted
        cases hposted
  · refine Or.inr (Or.inr ⟨fun q hq hid => absurd ⟨q, hq, hid⟩ hex, ?_, ?_⟩)
    · exact fun ⟨q, hq, hid, _⟩ => hex ⟨q, hq, hid⟩
    · exact fun ⟨q, hq, hid, _⟩ => hex ⟨q, hq, hid⟩

/-- No client of a reachable ledger is told that its reversal is a duplicate. -/
theorem duplicate_never_answered (h : Reachable db) {ex : LedgerException}
    (hex : (ReverseJournalEntryHandler.handle env request db).2 = .error ex) :
    (writeErrorAsync ex).2 ≠ "DUPLICATE_REVERSAL" := by
  have hs := reachable_schema h
  rcases request_cases h request.entryId with ⟨hr, -⟩ | ⟨ha, -⟩ | ⟨hm, -⟩
  · rcases handle_reversible env hs hr with ⟨-, id, hok⟩ | ⟨-, e, herr⟩
    · rw [hok] at hex
      cases hex
    · rw [herr] at hex
      cases hex
      simp [writeErrorAsync]
  · rw [handle_alreadyReversed env h ha] at hex
    cases hex
    decide
  · obtain ⟨message, hm⟩ := handle_missingOrDraft env hs hm
    rw [hm] at hex
    cases hex
    simp [writeErrorAsync]

end Answer

/-- The request is classified as its entry calls for exactly when the entry is not reversed yet
    and the database takes the reversal where there is one to save. -/
theorem reversal_classified_iff {db : LedgerDb} (h : Reachable db) (env : Env)
    (request : ReverseJournalEntryCommand) :
    ReversalClassified env request db ↔ ¬AlreadyReversed db request.entryId ∧
      (Reversible db request.entryId → TakesReversal env request db) := by
  have hs := reachable_schema h
  rcases request_cases h request.entryId with ⟨hr, ha, hm⟩ | ⟨ha, hm⟩ | ⟨hm, hr, ha⟩
  · rcases handle_reversible env hs hr with ⟨ht, id, hok⟩ | ⟨ht, e, herr⟩
    · refine iff_of_true ⟨iff_of_true ⟨id, hok⟩ hr, iff_of_false ?_ ha, iff_of_false ?_ hm,
        fun _ => handle_unchanged env⟩ ⟨ha, fun _ => ht⟩
      · rw [hok]
        exact fun ⟨_, he⟩ => by cases he
      · rw [hok]
        exact fun ⟨_, he⟩ => by cases he
    · refine iff_of_false (fun hc => ?_) (fun hc => ht (hc.2 hr))
      obtain ⟨id, hok⟩ := hc.succeeds_iff.mpr hr
      rw [herr] at hok
      cases hok
  · refine iff_of_false (fun hc => hm ?_) (fun hc => hc.1 ha)
    exact hc.invalid_iff.mp ⟨_, handle_alreadyReversed env h ha⟩
  · obtain ⟨message, hres⟩ := handle_missingOrDraft env hs hm
    refine iff_of_true ⟨iff_of_false ?_ hr, iff_of_false ?_ ha, iff_of_true ⟨message, hres⟩ hm,
      fun _ => handle_unchanged env⟩ ⟨ha, fun hr' => absurd hr' hr⟩
    · rw [hres]
      exact fun ⟨_, he⟩ => by cases he
    · rw [hres]
      exact fun ⟨_, he⟩ => by cases he

section Runs

open Sample

/-- The first reversal of a sale. -/
theorem reversal_classified_sample :
    ReversalClassified (on 25 501) ⟨201, "mistake", 99⟩ (ledger []) :=
  (reversal_classified_iff (ledger_reachable []) _ _).mpr
    ⟨by decide +kernel, fun _ => ⟨rfl, by decide, by decide +kernel⟩⟩

/-- A sale is reversed a second time. -/
theorem second_reversal_misclassified :
    let db := ledger [(on 25 501, .reverseJournalEntry ⟨201, "First reversal", 99⟩)]
    Reachable db ∧ AlreadyReversed db 201 ∧
      (ReverseJournalEntryHandler.handle (on 26 502) ⟨201, "Second reversal", 99⟩ db).2 =
        .error (.invalidOperation "Only posted entries can be reversed.") ∧
      ¬ReversalClassified (on 26 502) ⟨201, "Second reversal", 99⟩ db := by
  intro db
  have hdb : Reachable db := ledger_reachable _
  have ha : AlreadyReversed db 201 := by decide +kernel
  have hres : (ReverseJournalEntryHandler.handle (on 26 502) ⟨201, "Second reversal", 99⟩ db).2 =
      .error (.invalidOperation "Only posted entries can be reversed.") :=
    handle_alreadyReversed _ hdb ha
  refine ⟨hdb, ha, hres, fun hc => ?_⟩
  obtain ⟨id, hdup⟩ := hc.duplicate_iff.mpr ha
  rw [hres] at hdup
  cases hdup

end Runs

end SaasChassis.Ledger
