/-
  How entries and their reversals hang together.

  An entry names its reversal (`reversedById`) and the reversal names the entry
  (`reversalOfId`): the journal is a linked table in the sense of `Lib.Chains`, which a reversal
  extends and every other command leaves as it is. `reversalStructure_step` is that case split,
  with the status and the exchanged lines; `reversal_chains` reads off what it means in every
  reachable state.
-/
import SaasChassis.Ledger.Invariants
import SaasChassis.Lib.Chains

namespace SaasChassis.Ledger

open SaasChassis.Lib

/-- The journal as a linked table: `reversedById` leads forward, `reversalOfId` back. -/
def ReversalsLinked (db : LedgerDb) : Prop :=
  Linked JournalEntry.id JournalEntry.reversedById JournalEntry.reversalOfId db.entries

/-- Entry `r` is the reversal of entry `e`. -/
def ReversedBy (db : LedgerDb) (e r : JournalEntry) : Prop :=
  Follows JournalEntry.id JournalEntry.reversedById db.entries e r

structure ReversalStructure (db : LedgerDb) : Prop where
  linked : ReversalsLinked db
  reversed_iff : ∀ e ∈ db.entries, e.status = .reversed ↔ e.reversedById.isSome
  swapped : ∀ e ∈ db.entries, ∀ r ∈ db.entries, r.reversalOfId = some e.id →
    r.legs = e.legs.map Leg.swap

/-! ## One step -/

section Steps

variable {db : LedgerDb}

/-- Appending entries that are not reversed and reverse nothing. -/
theorem reversalStructure_append (hi : ReversalStructure db) {db' : LedgerDb}
    (hs' : db'.Schema) {added : List JournalEntry} (he : db'.entries = db.entries ++ added)
    (hadded : ∀ e ∈ added, e.status ≠ .reversed ∧ e.reversedById = none ∧
      e.reversalOfId = none) : ReversalStructure db' := by
  have hnd := hs'.entries_pkey
  rw [he, List.map_append] at hnd
  refine ⟨?_, fun e hmem => ?_, fun e hmem r hrmem hr => ?_⟩
  · unfold ReversalsLinked
    rw [he]
    exact hi.linked.append fun e hmem => (hadded e hmem).2
  · rw [he] at hmem
    rcases List.mem_append.mp hmem with hold | hnew
    · exact hi.reversed_iff e hold
    · obtain ⟨hst, hrev, -⟩ := hadded e hnew
      simp [hst, hrev]
  · rw [he] at hmem hrmem
    have hrold : r ∈ db.entries := by
      rcases List.mem_append.mp hrmem with hold | hnew
      · exact hold
      · rw [(hadded r hnew).2.2] at hr
        cases hr
    -- what `r` reverses was there before it
    obtain ⟨q, hq, hid, -⟩ := hi.linked.prev_mem r hrold _ hr
    rcases List.mem_append.mp hmem with hold | hnew
    · exact hi.swapped e hold r hrold hr
    · exact absurd (List.mem_map_of_mem hnew)
        fun hin => List.disjoint_of_nodup_append hnd (List.mem_map_of_mem hq) (hid ▸ hin)

theorem reversalStructure_posted (hs : db.Schema) (hi : ReversalStructure db) {db' : LedgerDb}
    {entry current : JournalEntry} (hmem : entry ∈ db.entries)
    (he : db'.entries = updateKey (·.id) entry.id (fun _ => current) db.entries)
    (hst : entry.status ≠ .reversed) (hst' : current.status ≠ .reversed)
    (hcols : (current.id, current.reversedById, current.reversalOfId, current.legs) =
      (entry.id, entry.reversedById, entry.reversalOfId, entry.legs)) :
    ReversalStructure db' := by
  simp only [Prod.mk.injEq] at hcols
  obtain ⟨hid, hrev, hof, hlegs⟩ := hcols
  have hold : ∀ e ∈ db'.entries, ∃ q ∈ db.entries, e.id = q.id ∧
      e.reversalOfId = q.reversalOfId ∧ e.legs = q.legs := by
    intro e hmem'
    rw [he] at hmem'
    rcases mem_updateKey.mp hmem' with ⟨_, -, -, rfl⟩ | ⟨hmem', -⟩
    · exact ⟨entry, hmem, hid, hof, hlegs⟩
    · exact ⟨e, hmem', rfl, rfl, rfl⟩
  refine ⟨?_, fun e hmem' => ?_, fun e hmem' r hrmem hr => ?_⟩
  · refine hi.linked.of_columns ?_
    rw [he]
    exact map_updateKey_const hs.entries_pkey hmem (by simp only [hid, hrev, hof])
  · rw [he] at hmem'
    rcases mem_updateKey.mp hmem' with ⟨_, -, -, rfl⟩ | ⟨hmem', -⟩
    · have hiff := hi.reversed_iff entry hmem
      rw [hrev, ← hiff]
      simp [hst, hst']
    · exact hi.reversed_iff e hmem'
  · obtain ⟨e₀, he₀, heid, -, helegs⟩ := hold e hmem'
    obtain ⟨r₀, hr₀, -, hrof, hrlegs⟩ := hold r hrmem
    rw [hrlegs, helegs]
    exact hi.swapped e₀ he₀ r₀ hr₀ (hrof.symm.trans (hr.trans (congrArg some heid)))

/-- A reversal gives the entry its successor. -/
theorem reversalStructure_reversed (hs : db.Schema) (hi : ReversalStructure db) {db' : LedgerDb}
    (hs' : db'.Schema) {entry reversal current : JournalEntry} {reason : String} {u g : Guid}
    {now : DateTime} (hmem : entry ∈ db.entries)
    (hr : entry.createReversal reason u g now = .ok (reversal, current))
    (he : db'.entries =
      updateKey (·.id) entry.id (fun _ => current) db.entries ++ [reversal]) :
    ReversalStructure db' := by
  have hlegs := legs_reversal hr
  obtain ⟨-, hnone, rfl, hrid, -, -, hrst, -, -, hrrev, hrof, -⟩ :=
    JournalEntry.createReversal_ok hr
  have hids : db'.entries.map (·.id) = db.entries.map (·.id) ++ [reversal.id] := by
    rw [he, List.map_append, List.map_singleton]
    exact congrArg (· ++ [reversal.id]) (map_updateKey_const hs.entries_pkey hmem rfl)
  have hfresh : reversal.id ∉ db.entries.map (·.id) := by
    have hnd := hs'.entries_pkey
    rw [hids] at hnd
    exact fun hin => List.disjoint_of_nodup_append hnd hin (List.mem_singleton_self _)
  have hold : ∀ e ∈ db'.entries, e = reversal ∨ ∃ q ∈ db.entries, e.id = q.id ∧
      e.reversalOfId = q.reversalOfId ∧ e.legs = q.legs := by
    intro e hmem'
    rw [he] at hmem'
    rcases List.mem_append.mp hmem' with hmem' | hmem'
    · rcases mem_updateKey.mp hmem' with ⟨_, -, -, rfl⟩ | ⟨hmem', -⟩
      · exact Or.inr ⟨entry, hmem, rfl, rfl, rfl⟩
      · exact Or.inr ⟨e, hmem', rfl, rfl, rfl⟩
    · exact Or.inl (List.mem_singleton.mp hmem')
  refine ⟨?_, fun e hmem' => ?_, fun e hmem' r hrmem hr' => ?_⟩
  · unfold ReversalsLinked
    rw [he]
    exact hi.linked.extend hs.entries_pkey hmem hnone hfresh hrrev hrof rfl
      (congrArg some hrid.symm) rfl
  · rw [he] at hmem'
    rcases List.mem_append.mp hmem' with hmem' | hmem'
    · rcases mem_updateKey.mp hmem' with ⟨_, -, -, rfl⟩ | ⟨hmem', -⟩
      · simp
      · exact hi.reversed_iff e hmem'
    · rw [List.mem_singleton.mp hmem', hrst, hrrev]
      simp
  · rcases hold e hmem' with rfl | ⟨e₀, he₀, heid, -, helegs⟩
    · -- nothing reverses the new reversal
      exfalso
      rcases hold r hrmem with rfl | ⟨r₀, hr₀, -, hrof', -⟩
      · rw [hrof] at hr'
        exact hfresh (Option.some.inj hr' ▸ List.mem_map_of_mem hmem)
      · obtain ⟨q, hq, hid, -⟩ := hi.linked.prev_mem r₀ hr₀ _ (hrof'.symm.trans hr')
        exact hfresh (hid ▸ List.mem_map_of_mem hq)
    · rcases hold r hrmem with rfl | ⟨r₀, hr₀, -, hrof', hrlegs⟩
      · rw [hrof] at hr'
        rw [hlegs, helegs, nodup_keys_inj hs.entries_pkey hmem he₀
          ((Option.some.inj hr').trans heid)]
      · rw [hrlegs, helegs]
        exact hi.swapped e₀ he₀ r₀ hr₀ (hrof'.symm.trans (hr'.trans (congrArg some heid)))

end Steps

theorem reversalStructure_step {env : Env} {cmd : LedgerCommand} {db : LedgerDb} {cs : ChangeSet}
    (hs : db.Schema) (hi : ReversalStructure db) (hs' : (cs.apply db).Schema)
    (w : JournalWrite env db cmd cs) : ReversalStructure (cs.apply db) := by
  cases w with
  | untouched ha hm =>
    refine reversalStructure_append hi hs' (apply_entries cs db hm) ?_
    simp [ha]
  | created c hv =>
    refine reversalStructure_append hi hs' (apply_entries _ db rfl) ?_
    intro e he
    rw [List.mem_singleton.mp he, CreateJournalEntryHandler.newEntry_eq]
    exact ⟨EntryStatus.noConfusion, rfl, rfl⟩
  | posted c entry hmem hid hd hb =>
    refine reversalStructure_posted hs hi hmem
      ((apply_entries_modified hs hmem rfl (writeChanges_posted entry _ _)).trans
        (List.append_nil _)) ?_ EntryStatus.noConfusion rfl
    rw [hd]
    exact EntryStatus.noConfusion
  | reversed c entry reversal current hmem hid hr =>
    refine reversalStructure_reversed hs hi hs' hmem hr ?_
    have hst := stored_reversal hs hmem hr
    obtain ⟨-, -, rfl, -⟩ := JournalEntry.createReversal_ok hr
    rw [apply_entries_modified hs hmem rfl (writeChanges_reversed entry _), List.map_singleton,
      hst]
  | closed c _ p =>
    refine reversalStructure_append hi hs' (p.entries_after hs) fun e he => ?_
    obtain ⟨hps, hrev, hof⟩ := p.added_header he
    exact ⟨by rw [hps]; decide, hrev, hof⟩

theorem reversalStructure {db : LedgerDb} (h : Reachable db) : ReversalStructure db :=
  (reachable_invariant (I := ReversalStructure)
    (fun _ => ⟨Linked.nil, fun _ he => absurd he List.not_mem_nil,
      fun _ he => absurd he List.not_mem_nil⟩)
    (fun _ _ _ _ _ hs hi hc he hs' => by
      subst he
      exact reversalStructure_step hs hi hs' (changes_journal hc)) h).2

/-! ## Reachable states -/

/-- How the entries of a ledger and their reversals are linked. -/
structure ReversalChains (db : LedgerDb) : Prop where
  reversed_iff : ∀ e ∈ db.entries, e.status = .reversed ↔ e.reversedById.isSome
  /-- What a link names is stored. -/
  stored : ∀ e ∈ db.entries, ∀ k, e.reversedById = some k ∨ e.reversalOfId = some k →
    ∃ q ∈ db.entries, q.id = k
  links_mutual : ∀ e ∈ db.entries, ∀ r ∈ db.entries,
    e.reversedById = some r.id ↔ r.reversalOfId = some e.id
  one_reversed : ∀ e ∈ db.entries, ∀ e' ∈ db.entries, ∀ k, e.reversedById = some k →
    e'.reversedById = some k → e = e'
  one_reversal : ∀ r ∈ db.entries, ∀ r' ∈ db.entries, ∀ k, r.reversalOfId = some k →
    r'.reversalOfId = some k → r = r'
  acyclic : ∀ e, ¬Relation.TransGen (ReversedBy db) e e
  /-- The chain of reversals of reversals from any entry ends in an unreversed one. -/
  chain_ends : ∀ e ∈ db.entries, ∃ u ∈ db.entries,
    Relation.ReflTransGen (ReversedBy db) e u ∧ u.status ≠ .reversed
  swapped : ∀ e ∈ db.entries, ∀ r ∈ db.entries, e.reversedById = some r.id → ∀ a,
    Leg.debitOn a r.legs = Leg.creditOn a e.legs ∧ Leg.creditOn a r.legs = Leg.debitOn a e.legs

theorem reversal_chains {db : LedgerDb} (h : Reachable db) : ReversalChains db := by
  have hnd := (reachable_schema h).entries_pkey
  obtain ⟨hl, hst, hsw⟩ := reversalStructure h
  constructor
  · exact hst
  · rintro e he k (hk | hk)
    · obtain ⟨q, hq, hid, -⟩ := hl.next_mem e he k hk
      exact ⟨q, hq, hid⟩
    · obtain ⟨q, hq, hid, -⟩ := hl.prev_mem e he k hk
      exact ⟨q, hq, hid⟩
  · exact fun e he r hr => hl.next_iff hnd he hr
  · exact fun e he e' he' k hk hk' => hl.next_inj hnd he he' hk hk'
  · exact fun r hr r' hr' k hk hk' => hl.prev_inj hnd hr hr' hk hk'
  · exact fun e => hl.acyclic e
  · intro e he
    obtain ⟨u, hu, hchain, hend⟩ := hl.chain_ends he
    refine ⟨u, hu, hchain, fun hrev => ?_⟩
    rw [hst u hu, hend] at hrev
    cases hrev
  · intro e he r hr hk a
    rw [hsw e he r hr ((hl.next_iff hnd he hr).mp hk), Leg.debitOn_swap, Leg.creditOn_swap]
    exact ⟨rfl, rfl⟩

/-- A sale, its reversal, and the reversal of the reversal. -/
theorem reversal_chains_sample :
    ReversalChains (Sample.ledger [(Sample.on 25 501, .reverseJournalEntry ⟨201, "mistake", 99⟩),
      (Sample.on 26 502, .reverseJournalEntry ⟨501, "no mistake", 99⟩)]) :=
  reversal_chains (Sample.ledger_reachable _)

end SaasChassis.Ledger
