/-
  Reversals of one entry that run at the same time.

  `createReversal` refuses an entry that has been reversed, but it looks at the copy the request
  has read; the save updates the entry by its primary key and inserts the reversal, and nothing
  in the schema keeps a second reversal of the entry out (`two_reversals_of_one_entry`).

  `reversed_once_iff`: in any schedule of any number of requests, every entry is reversed at
  most once exactly when no save that the database accepts finds the entry reversed since it was
  read. As long as no save does, what a request has prepared is what it would prepare now
  (`HoldsReversal`), its save is the command run at that moment, and every state is `Reachable`.
-/
import SaasChassis.Ledger.Requests
import SaasChassis.Ledger.ReversalChains

namespace SaasChassis.Ledger

open SaasChassis.Lib

/-- Every stored entry has at most one reversal, and names it if it names one. -/
structure ReversedOnce (db : LedgerDb) : Prop where
  one_reversal : ∀ e ∈ db.entries, ∀ r ∈ db.entries, ∀ r' ∈ db.entries,
    r.reversalOfId = some e.id → r'.reversalOfId = some e.id → r = r'
  reversed_by : ∀ e ∈ db.entries, ∀ k, e.reversedById = some k →
    ∃ r ∈ db.entries, r.id = k ∧ r.reversalOfId = some e.id ∧
      ∀ r' ∈ db.entries, r'.reversalOfId = some e.id → r' = r

theorem reversedOnce_of_reachable {db : LedgerDb} (h : Reachable db) : ReversedOnce db := by
  have hnd := (reachable_schema h).entries_pkey
  have hl := (reversalStructure h).linked
  have hone : ∀ e ∈ db.entries, ∀ r ∈ db.entries, ∀ r' ∈ db.entries,
      r.reversalOfId = some e.id → r'.reversalOfId = some e.id → r = r' :=
    fun e _ r hr r' hr' hk hk' => hl.prev_inj hnd hr hr' hk hk'
  refine ⟨hone, fun e he k hk => ?_⟩
  obtain ⟨r, hr, hid, hof⟩ := hl.next_mem e he k hk
  exact ⟨r, hr, hid, hof, fun r' hr' hof' => hone e he r' hr' r hr hof' hof⟩

/-- The request is not about to save, with the database accepting it, over an entry that has
    been reversed. -/
def SavesUnreversed (db : LedgerDb) (r : Request) : Prop :=
  ∀ env cmd cs db', r = .saving env cmd cs → saveChanges env cs db = .ok db' →
    ∀ m ∈ cs.modifiedEntries, ∀ e ∈ db.entries, e.id = m.1.id → e.reversedById = none

/-- The reversal a request has prepared, from the entry as it is stored now unless that has been
    reversed since. -/
structure PreparedReversal (env : Env) (cmd : LedgerCommand) (cs : ChangeSet) (db : LedgerDb) where
  request : ReverseJournalEntryCommand
  entry : JournalEntry
  reversal : JournalEntry
  current : JournalEntry
  cmd_eq : cmd = .reverseJournalEntry request
  entry_id : entry.id = request.entryId
  reversal_ok : entry.createReversal request.reason request.reversedByUserId (env.newGuid 0)
    env.utcNow = .ok (reversal, current)
  changes_eq : cs = { addedEntries := [reversal], modifiedEntries := [(entry, current)] }
  stored : entry ∈ db.entries ∨ ∃ row ∈ db.entries, row.id = entry.id ∧ row.reversedById.isSome

/-- What a request for a reversal holds. -/
def HoldsReversal (db : LedgerDb) : Request → Prop
  | .reverse _ _ | .finished _ => True
  | .saving env cmd cs => Nonempty (PreparedReversal env cmd cs db)
  | _ => False

/-! ## Saving -/

namespace PreparedReversal

variable {env : Env} {cmd : LedgerCommand} {cs : ChangeSet} {db db' : LedgerDb}

theorem modifiedEntries_eq (p : PreparedReversal env cmd cs db) :
    cs.modifiedEntries = [(p.entry, p.current)] := congrArg (·.modifiedEntries) p.changes_eq

/-- The entry is stored as it was read if it has not been reversed. -/
theorem mem_of_unreversed (p : PreparedReversal env cmd cs db)
    (h : ∀ e ∈ db.entries, e.id = p.entry.id → e.reversedById = none) : p.entry ∈ db.entries := by
  rcases p.stored with hmem | ⟨row, hrow, hid, hrev⟩
  · exact hmem
  · rw [h row hrow hid] at hrev
    cases hrev

/-- What was prepared is what the command would prepare now. -/
theorem step_eq (hs : db.Schema) (p : PreparedReversal env cmd cs db)
    (hmem : p.entry ∈ db.entries) (hsave : saveChanges env cs db = .ok db') :
    step db (env, cmd) = db' := by
  have hget : db.getEntryById p.request.entryId = some p.entry := by
    rw [← p.entry_id]
    exact find?_key hs.entries_pkey hmem
  have hfind : findEntry p.request.entryId db = .ok p.entry := by simp only [findEntry, hget]
  have hprep : ReverseJournalEntryHandler.prepare env p.request db = .ok (cs, p.reversal.id) := by
    simp only [ReverseJournalEntryHandler.prepare, hfind, p.reversal_ok, p.changes_eq, bind,
      Except.bind]
  rw [p.cmd_eq]
  exact Request.commit_of_saved (map_fst_ok hprep) hsave

/-- The journal after the save. -/
theorem entries_after (p : PreparedReversal env cmd cs db)
    (hsave : saveChanges env cs db = .ok db') :
    db'.entries = updateKey (·.id) p.entry.id (p.entry.writeChanges p.current) db.entries ++
      [p.reversal.stored] := by
  obtain ⟨rfl, -⟩ := saveChanges_ok hsave
  exact congrArg (fun c : ChangeSet => (c.apply db).entries) p.changes_eq

/-- What becomes of a row: it keeps its id and what it is the reversal of, and it is left alone
    or has been reversed. -/
theorem row_after (p : PreparedReversal env cmd cs db) (hsave : saveChanges env cs db = .ok db')
    {row : JournalEntry} (hrow : row ∈ db.entries) :
    ∃ row' ∈ db'.entries, row'.id = row.id ∧ row'.reversalOfId = row.reversalOfId ∧
      (row' = row ∨ row'.reversedById.isSome) := by
  obtain ⟨-, hnone, hc, -⟩ := JournalEntry.createReversal_ok p.reversal_ok
  have hmem : ∀ q ∈ updateKey (·.id) p.entry.id (p.entry.writeChanges p.current) db.entries,
      q ∈ db'.entries := by
    rw [p.entries_after hsave]
    exact fun q hq => List.mem_append_left _ hq
  obtain ⟨row', hrow', ⟨-, rfl⟩ | ⟨-, rfl⟩⟩ := image_updateKey hrow p.entry.id
  · refine ⟨_, hmem _ hrow', rfl, rfl, Or.inr ?_⟩
    simp [JournalEntry.writeChanges, hc, hnone, changedColumn]
  · exact ⟨row', hmem _ hrow', rfl, rfl, Or.inl rfl⟩

/-- Another request's entry is still stored as it was read, or has been reversed. -/
theorem stored_after (p : PreparedReversal env cmd cs db)
    (hsave : saveChanges env cs db = .ok db') {entry : JournalEntry}
    (h : entry ∈ db.entries ∨
      ∃ row ∈ db.entries, row.id = entry.id ∧ row.reversedById.isSome) :
    entry ∈ db'.entries ∨ ∃ row ∈ db'.entries, row.id = entry.id ∧ row.reversedById.isSome := by
  rcases h with hmem | ⟨row, hrow, hid, hrev⟩
  · obtain ⟨row', hrow', hid', -, rfl | hrev'⟩ := p.row_after hsave hmem
    · exact Or.inl hrow'
    · exact Or.inr ⟨row', hrow', hid', hrev'⟩
  · obtain ⟨row', hrow', hid', -, rfl | hrev'⟩ := p.row_after hsave hrow
    · exact Or.inr ⟨row', hrow', hid, hrev⟩
    · exact Or.inr ⟨row', hrow', hid'.trans hid, hrev'⟩

/-- A second reversal of an entry that has one already. -/
theorem reversed_twice (p : PreparedReversal env cmd cs db)
    (hsave : saveChanges env cs db = .ok db') (ho : ReversedOnce db) {e : JournalEntry}
    (he : e ∈ db.entries) (hid : e.id = p.entry.id) (hrev : e.reversedById.isSome) :
    ¬ReversedOnce db' := by
  intro ho'
  obtain ⟨-, hs'⟩ := saveChanges_ok hsave
  obtain ⟨-, -, -, hrid, -, -, -, -, -, -, hrof, -⟩ := JournalEntry.createReversal_ok p.reversal_ok
  obtain ⟨j, hj⟩ := Option.isSome_iff_exists.mp hrev
  obtain ⟨r, hr, -, hof, -⟩ := ho.reversed_by e he j hj
  obtain ⟨e', he', heid, -⟩ := p.row_after hsave he
  obtain ⟨r', hr', hrid', hof', -⟩ := p.row_after hsave hr
  have hnew : p.reversal.stored ∈ db'.entries := by
    rw [p.entries_after hsave]
    exact List.mem_append_right _ (List.mem_singleton_self _)
  have hsame : r' = p.reversal.stored := ho'.one_reversal e' he' r' hr' _ hnew
    (hof'.trans (hof.trans (congrArg some heid.symm)))
    (hrof.trans (congrArg some (hid.symm.trans heid.symm)))
  -- the new reversal has an id of its own
  have hids : (updateKey (·.id) p.entry.id (p.entry.writeChanges p.current) db.entries).map
      (·.id) = db.entries.map (·.id) :=
    map_updateKey (f := p.entry.writeChanges p.current) _ (fun _ => rfl) _
  have hnd := hs'.entries_pkey
  rw [p.entries_after hsave, List.map_append, hids] at hnd
  refine List.disjoint_of_nodup_append hnd (List.mem_map_of_mem hr) ?_
  rw [← hrid', hsame]
  exact List.mem_singleton_self _

end PreparedReversal

/-! ## Schedules -/

/-- A request that steps keeps its own part, and everyone else's. -/
theorem holdsReversal_next {db : LedgerDb} {r : Request} (h : Reachable db)
    (hr : HoldsReversal db r) (hc : SavesUnreversed db r) :
    Reachable (Request.next db r).1 ∧ HoldsReversal (Request.next db r).1 (Request.next db r).2 ∧
      ∀ q, HoldsReversal db q → HoldsReversal (Request.next db r).1 q := by
  have hs := reachable_schema h
  cases r with
  | reverse env c =>
    refine ⟨h, ?_, fun q hq => hq⟩
    show HoldsReversal db (Request.prepared env _ (changes env (.reverseJournalEntry c) db))
    cases hch : changes env (.reverseJournalEntry c) db with
    | error ex => exact trivial
    | ok cs =>
      cases changes_ok hch with
      | reverseJournalEntry c entry reversal current hmem hid hr =>
        exact ⟨⟨c, entry, reversal, current, rfl, hid, hr, rfl, Or.inl hmem⟩⟩
  | saving env cmd cs =>
    obtain ⟨p⟩ := hr
    cases hsave : saveChanges env cs db with
    | error ex =>
      rw [Request.next_refused hsave]
      exact ⟨h, trivial, fun q hq => hq⟩
    | ok db' =>
      have hmod : (p.entry, p.current) ∈ cs.modifiedEntries := by
        rw [p.modifiedEntries_eq]
        exact List.mem_singleton_self _
      have hun := hc env cmd cs db' rfl hsave _ hmod
      rw [Request.next_saved hsave]
      refine ⟨?_, trivial, fun q hq => ?_⟩
      · -- the save is the command, run now
        rw [← p.step_eq hs (p.mem_of_unreversed hun) hsave]
        exact h.step _
      · cases q with
        | saving env' cmd' cs' =>
          obtain ⟨q⟩ := hq
          exact ⟨{ q with stored := p.stored_after hsave q.stored }⟩
        | reverse env' c' => exact trivial
        | finished result => exact trivial
        | post env' c' => exact hq.elim
        | close env' c' => exact hq.elim
        | periodRead env' c' period => exact hq.elim
        | entriesRead env' c' period entries => exact hq.elim
  | finished result => exact ⟨h, trivial, fun q hq => hq⟩
  | post env c => exact hr.elim
  | close env c => exact hr.elim
  | periodRead env c period => exact hr.elim
  | entriesRead env c period entries => exact hr.elim

/-- At a state that a serial run reaches, the condition on the step says whether every entry is
    still reversed at most once after it. -/
theorem savesUnreversed_iff {p : Pool LedgerDb Request} (h : p.Holds Reachable HoldsReversal)
    (k : Nat) : p.OnStep SavesUnreversed k ↔ ReversedOnce (p.step Request.next k).shared := by
  constructor
  · intro hc
    exact reversedOnce_of_reachable (h.step (fun _ _ => holdsReversal_next) hc).shared
  · intro ho r hk env cmd cs db' hr hsave m hm e he hid
    subst hr
    obtain ⟨q⟩ := h.threads _ (List.mem_of_getElem? hk)
    rw [Pool.step_some hk] at ho
    have hnext : (Request.next p.shared (.saving env cmd cs)).1 = db' := Request.next_saved hsave
    have ho' : ReversedOnce db' := hnext ▸ ho
    rw [q.modifiedEntries_eq, List.mem_singleton] at hm
    subst hm
    by_contra hrev
    exact q.reversed_twice hsave (reversedOnce_of_reachable h.shared) he hid
      (Option.isSome_iff_ne_none.mpr hrev) ho'

/-- Requests to reverse entries, none of which has started. -/
def reversals (requests : List (Env × ReverseJournalEntryCommand)) : List Request :=
  requests.map fun r => .reverse r.1 r.2

/-- From every reachable state, for any number of requests and in any schedule of them: every
    entry is reversed at most once, throughout, if and only if no save that the database accepts
    finds the entry reversed since it was read. -/
theorem reversed_once_iff {db : LedgerDb} (h : Reachable db)
    (requests : List (Env × ReverseJournalEntryCommand)) (schedule : List Nat) :
    ScheduleSatisfies SavesUnreversed db (reversals requests) schedule ↔
      ∀ n, ReversedOnce (interleave db (reversals requests) (schedule.take n)).shared := by
  refine stepsSatisfy_iff_of (I := fun p => p.Holds Reachable HoldsReversal)
    (L := fun p : Pool LedgerDb Request => ReversedOnce p.shared)
    (fun p k hp hc => hp.step (fun _ _ => holdsReversal_next) hc)
    (fun p k hp => savesUnreversed_iff hp k) ⟨h, fun r hr => ?_⟩ (reversedOnce_of_reachable h)
    schedule
  obtain ⟨q, -, rfl⟩ := List.mem_map.mp hr
  exact trivial

namespace Sample

/-- Two requests to reverse the sale. -/
def twoReversals : List Request :=
  reversals [(on 25 501, ⟨201, "mistake", 99⟩), (on 25 601, ⟨201, "mistake", 98⟩)]

end Sample

/-- One after the other, the second request is refused. -/
theorem reversed_once_iff_sample :
    ScheduleSatisfies SavesUnreversed (Sample.ledger []) Sample.twoReversals [0, 0, 1, 1] ↔
      ∀ n, ReversedOnce (interleave (Sample.ledger []) Sample.twoReversals
        (List.take n [0, 0, 1, 1])).shared :=
  reversed_once_iff (Sample.ledger_reachable []) _ [0, 0, 1, 1]

/-- Both requests read the posted sale before either saves: the sale ends up with two reversals
    and names the second. -/
theorem two_reversals_of_one_entry :
    let db' := (interleave (Sample.ledger []) Sample.twoReversals [0, 1, 0, 1]).shared
    Reachable (Sample.ledger []) ∧
      db'.entries.map (fun e => (e.id, e.reversedById, e.reversalOfId)) =
        [(201, some 601, none), (501, none, some 201), (601, none, some 201)] ∧
      ¬ReversedOnce db' := by
  intro db'
  refine ⟨Sample.ledger_reachable [], by decide +kernel, fun h => ?_⟩
  have hrows : ∃ e ∈ db'.entries, ∃ r ∈ db'.entries, ∃ r' ∈ db'.entries,
      r.reversalOfId = some e.id ∧ r'.reversalOfId = some e.id ∧ r ≠ r' := by decide +kernel
  obtain ⟨e, he, r, hr, r', hr', hof, hof', hne⟩ := hrows
  exact hne (h.one_reversal e he r hr r' hr' hof hof')

end SaasChassis.Ledger
