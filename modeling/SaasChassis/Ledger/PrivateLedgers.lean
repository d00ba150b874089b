/-
  Tenants that share the ledger's tables, and what each of them sees.

  `view t` is the part of the tables that tenant `t` sees. The commands of the others leave it alone
  (`stepAs_others`). An own command does to it, with the same reply, what it would do if there were
  no other tenants (`stepAs_own`), where nothing is read across tenants but keys: the primary and
  foreign keys are checked against all rows. So an own command must not name an id that only
  another tenant's row has (`KeysOwn`): neither draw it as a new id nor write it as a reference.

  `private_ledger`: however the commands of the tenants are interleaved, each tenant's part of the
  tables and the replies it gets are those of a ledger of its own.
-/
import SaasChassis.Ledger.RowSecurity

namespace SaasChassis.Ledger

open SaasChassis.Lib SaasChassis.Lib.RowPolicies SaasChassis.Rls

/-- The tables as tenant `t` sees them. -/
def view (t : Guid) (db : LedgerDb) : LedgerDb := db.visible (.tenant t)

theorem filter_sees_tenant {ρ : Type} (owner : ρ → Guid) (t : Guid) (rows : List ρ) :
    (rows.filter fun r => (Session.tenant t).sees (owner r)) = rowsOf owner t rows :=
  List.filter_congr fun r _ => sees_tenant t (owner r)

theorem view_accounts (t : Guid) (db : LedgerDb) :
    (view t db).accounts = rowsOf Account.tenantId t db.accounts := by
  rw [view, visible_accounts, filter_sees_tenant]

theorem view_periods (t : Guid) (db : LedgerDb) :
    (view t db).periods = rowsOf FiscalPeriod.tenantId t db.periods := by
  rw [view, visible_periods, filter_sees_tenant]

theorem view_entries {db : LedgerDb} (hl : LinesOwned db) (t : Guid) :
    (view t db).entries = rowsOf JournalEntry.tenantId t db.entries := by
  rw [view, visible_entries hl, filter_sees_tenant]

theorem view_eq {db : LedgerDb} (hl : LinesOwned db) (t : Guid) :
    view t db =
      { accounts := rowsOf Account.tenantId t db.accounts
        entries := rowsOf JournalEntry.tenantId t db.entries
        periods := rowsOf FiscalPeriod.tenantId t db.periods
        templates := db.templates } := by
  rw [← view_accounts, ← view_entries hl, ← view_periods]
  rfl

theorem linesOwned_view {db : LedgerDb} (hl : LinesOwned db) (t : Guid) :
    LinesOwned (view t db) := by
  intro e he
  rw [view_entries hl] at he
  exact hl e (mem_rowsOf.mp he).1

theorem rowsOf_rowsOf {ρ : Type} (owner : ρ → Guid) (t : Guid) (rows : List ρ) :
    rowsOf owner t (rowsOf owner t rows) = rowsOf owner t rows :=
  List.filter_eq_self.mpr fun r hr => by simpa using (mem_rowsOf.mp hr).2

theorem view_view {db : LedgerDb} (hl : LinesOwned db) (t : Guid) :
    view t (view t db) = view t db := by
  rw [view_eq (linesOwned_view hl t), view_eq hl]
  simp only [rowsOf_rowsOf]

/-! ## Statements -/

section Rows

variable {ρ : Type} {owner : ρ → Guid} {ps : RowPolicies (Session Guid) ρ} {s : Session Guid}
  {table : String} {key : ρ → Guid} {rows rows' : List ρ}

theorem updateRow_unseen (h : Confines ps Session.sees owner) {m : Guid × (ρ → ρ)}
    (hok : updateRow ps s table key rows m = .ok rows') :
    unseen Session.sees owner s rows' = unseen Session.sees owner s rows := by
  have hexec := exec_unseen h s (.update (fun r => decide (key r = m.1)) m.2) rows
  unfold updateRow at hok
  split at hok
  next x rows₁ heq =>
    cases hok
    rwa [heq] at hexec
  next => cases hok
  next => cases hok

theorem insertRows_unseen (h : Confines ps Session.sees owner) {new : List ρ}
    (hok : insertRows ps s table rows new = .ok rows') :
    unseen Session.sees owner s rows' = unseen Session.sees owner s rows := by
  have hexec := exec_unseen h s (.insert new false) rows
  unfold insertRows at hok
  split at hok
  next rs rows₁ heq =>
    cases hok
    rwa [heq] at hexec
  next => cases hok

/-- The statements of a save leave the rows its session does not see as they are. -/
theorem saveRows_unseen (h : Confines ps Session.sees owner) {modified : List (Guid × (ρ → ρ))}
    {added : List ρ} (hok : saveRows ps s table key modified added rows = .ok rows') :
    unseen Session.sees owner s rows' = unseen Session.sees owner s rows := by
  obtain ⟨rows₁, hmod, hins⟩ := bind_eq_ok.mp hok
  rw [insertRows_unseen h hins]
  clear hins hok
  induction modified generalizing rows with
  | nil =>
    cases hmod
    rfl
  | cons m modified ih =>
    rw [List.foldlM_cons] at hmod
    obtain ⟨rows₂, hm, hrest⟩ := bind_eq_ok.mp hmod
    rw [ih hrest, updateRow_unseen h hm]

/-- A tenant's UPDATE does to its own rows what it does to them among all rows. -/
theorem updateRow_own (h : Isolates ps Session.sees owner) (t : Guid) (m : Guid × (ρ → ρ)) :
    updateRow ps (.tenant t) table key (rowsOf owner t rows) m =
      (updateRow ps (.tenant t) table key rows m).map (rowsOf owner t) := by
  unfold updateRow
  rw [exec_own h (sees_tenant t)]
  rcases ps.exec (.tenant t) (.update (fun r => decide (key r = m.1)) m.2) rows with ⟨a, rows'⟩
  rcases a with ⟨_ | ⟨x, _ | ⟨y, rs⟩⟩⟩ | _
  · rfl
  · rfl
  · rfl
  · rfl

theorem insertRows_own (h : Isolates ps Session.sees owner) (t : Guid) (new : List ρ) :
    insertRows ps (.tenant t) table (rowsOf owner t rows) new =
      (insertRows ps (.tenant t) table rows new).map (rowsOf owner t) := by
  unfold insertRows
  rw [exec_own h (sees_tenant t)]
  rcases ps.exec (.tenant t) (.insert new false) rows with ⟨a, rows'⟩
  cases a with
  | rows rs => rfl
  | refused => rfl

theorem saveRows_own (h : Isolates ps Session.sees owner) (t : Guid)
    (modified : List (Guid × (ρ → ρ))) (added rows : List ρ) :
    saveRows ps (.tenant t) table key modified added (rowsOf owner t rows) =
      (saveRows ps (.tenant t) table key modified added rows).map (rowsOf owner t) := by
  unfold saveRows
  induction modified generalizing rows with
  | nil => exact insertRows_own h t added
  | cons m modified ih =>
    rw [List.foldlM_cons, List.foldlM_cons, updateRow_own h]
    cases hm : updateRow ps (.tenant t) table key rows m with
    | error e => rfl
    | ok rows₁ => exact ih rows₁

end Rows

/-! ## Change sets -/

section Save

variable {t : Guid} {s : Session Guid} {cs : ChangeSet} {db db' : LedgerDb}

/-- A property that every UPDATE keeps. -/
theorem forall_updates {ρ : Type} {key : ρ → Guid} {P : ρ → Prop} {μ : Type} {k : μ → Guid}
    (f : μ → ρ → ρ) {ms : List μ} (hkeep : ∀ m ∈ ms, ∀ r, P r → P (f m r)) {rows : List ρ}
    (h : ∀ r ∈ rows, P r) :
    ∀ r ∈ ms.foldl (fun rows m => updateKey key (k m) (f m) rows) rows, P r := by
  induction ms generalizing rows with
  | nil => exact h
  | cons m ms ih =>
    refine ih (fun m' hm' => hkeep m' (List.mem_cons_of_mem m hm')) fun r hr => ?_
    rcases mem_updateKey.mp hr with ⟨q, hq, -, rfl⟩ | ⟨hq, -⟩
    · exact hkeep m List.mem_cons_self q (h q hq)
    · exact h r hq

/-- The lines a tenant saves are its own, as the entries are. -/
theorem linesOwned_apply (hl : LinesOwned db) (hown : OwnRows (.tenant t) cs) :
    LinesOwned (cs.apply db) := by
  intro e he
  rcases List.mem_append.mp he with he | he
  · exact forall_updates (P := JournalEntry.LinesOwned)
      (fun m : JournalEntry × JournalEntry => m.1.writeChanges m.2) (fun _ _ _ hr => hr) hl e he
  · obtain ⟨x, hx, rfl⟩ := List.mem_map.mp he
    refine JournalEntry.LinesOwned.stored fun l hlx => ?_
    have he := hown.entries x hx
    have hlt := hown.lines x hx l hlx
    rw [sees_tenant, decide_eq_true_eq] at he hlt
    exact hlt.trans he.symm

/-- A tenant's statements do to its part of the tables what they do to it in the whole. -/
theorem execute_own (hs : db.Schema) (hl : LinesOwned db) (t : Guid) (cs : ChangeSet) :
    cs.execute (.tenant t) (view t db) = (cs.execute (.tenant t) db).map (view t) := by
  have hview : ∀ {db'}, cs.execute (.tenant t) db = .ok db' →
      view t db' =
        { accounts := rowsOf Account.tenantId t db'.accounts
          entries := rowsOf JournalEntry.tenantId t db'.entries
          periods := rowsOf FiscalPeriod.tenantId t db'.periods
          templates := db'.templates } := by
    intro db' hok
    obtain ⟨rfl, hown⟩ := execute_ok hs hok
    exact view_eq (linesOwned_apply hl hown) t
  revert hview
  unfold ChangeSet.execute accountPolicies entryPolicies periodPolicies
  rw [view_accounts, view_entries hl, view_periods,
    saveRows_own (isolates_supplemented _), saveRows_own (isolates_supplemented _),
    saveRows_own (isolates_supplemented _)]
  generalize saveRows (supplemented Account.tenantId) _ _ _ _ _ db.accounts = accounts
  generalize saveRows (supplemented JournalEntry.tenantId) _ _ _ _ _ db.entries = entries
  generalize saveRows (supplemented FiscalPeriod.tenantId) _ _ _ _ _ db.periods = periods
  generalize checkLines _ _ = lines
  intro hview
  cases accounts with
  | error ex => rfl
  | ok accounts =>
    cases entries with
    | error ex => rfl
    | ok entries =>
      cases lines with
      | error ex => rfl
      | ok u =>
        cases periods with
        | error ex => rfl
        | ok periods => exact congrArg Except.ok (hview rfl).symm

end Save

/-! ## Names -/

namespace ChangeSet

/-- The account ids a change set writes, as keys and as references. -/
def accountNames (cs : ChangeSet) : List Guid :=
  cs.addedAccounts.map (·.id) ++ cs.addedAccounts.flatMap (·.parentId.toList) ++
    cs.addedEntries.flatMap fun e => e.lines.map (·.accountId)

/-- The entry ids it writes. -/
def entryNames (cs : ChangeSet) : List Guid :=
  cs.addedEntries.map (·.id) ++
    cs.addedEntries.flatMap (fun e => e.reversedById.toList ++ e.reversalOfId.toList) ++
    cs.modifiedEntries.flatMap (fun m => m.2.reversedById.toList) ++
    cs.modifiedPeriods.flatMap (fun m => m.2.openingBalanceEntryId.toList) ++
    cs.addedPeriods.flatMap (·.openingBalanceEntryId.toList)

/-- The period ids it writes. -/
def periodNames (cs : ChangeSet) : List Guid := cs.addedPeriods.map (·.id)

end ChangeSet

/-- Of the ids the change set writes, those that a row has already are ids of the tenant's rows. -/
structure KeysOwn (t : Guid) (db : LedgerDb) (cs : ChangeSet) : Prop where
  accounts : ∀ k ∈ cs.accountNames, k ∈ db.accounts.map (·.id) →
    k ∈ (view t db).accounts.map (·.id)
  entries : ∀ k ∈ cs.entryNames, k ∈ db.entries.map (·.id) → k ∈ (view t db).entries.map (·.id)
  periods : ∀ k ∈ cs.periodNames, k ∈ db.periods.map (·.id) → k ∈ (view t db).periods.map (·.id)

instance (t : Guid) (db : LedgerDb) (cs : ChangeSet) : Decidable (KeysOwn t db cs) :=
  decidable_of_iff ((∀ k ∈ cs.accountNames, k ∈ db.accounts.map (·.id) →
      k ∈ (view t db).accounts.map (·.id)) ∧
    (∀ k ∈ cs.entryNames, k ∈ db.entries.map (·.id) → k ∈ (view t db).entries.map (·.id)) ∧
    ∀ k ∈ cs.periodNames, k ∈ db.periods.map (·.id) → k ∈ (view t db).periods.map (·.id))
    ⟨fun h => ⟨h.1, h.2.1, h.2.2⟩, fun h => ⟨h.1, h.2, h.3⟩⟩

section Constraints

variable {ρ : Type} {owner key : ρ → Guid} {t : Guid} {rows rows' : List ρ}

/-- A save of `t` leaves the rows of the others as they are. -/
def OthersKept (owner : ρ → Guid) (t : Guid) (rows rows' : List ρ) : Prop :=
  (rows'.filter fun r => owner r ≠ t) = rows.filter fun r => owner r ≠ t

theorem OthersKept.mem (h : OthersKept owner t rows rows') {r : ρ} (hr : r ∈ rows')
    (ht : owner r ≠ t) : r ∈ rows := by
  have hmem : r ∈ rows'.filter fun r => owner r ≠ t := List.mem_filter.mpr ⟨hr, by simpa using ht⟩
  rw [h] at hmem
  exact List.mem_of_mem_filter hmem

/-- Keys that are new, or the tenant's, clash with no row of the others. -/
theorem OthersKept.fresh (h : OthersKept owner t rows rows') (hnd : (rows.map key).Nodup)
    {added : List Guid}
    (hkeys : (rowsOf owner t rows').map key = (rowsOf owner t rows).map key ++ added)
    (hnames : ∀ k ∈ added, k ∈ rows.map key → k ∈ (rowsOf owner t rows).map key) :
    ∀ r ∈ rows', owner r = t → ∀ q ∈ rows', owner q ≠ t → key r ≠ key q := by
  intro r hr hrt q hq hqt he
  have hq' := h.mem hq hqt
  have hown : key q ∈ (rowsOf owner t rows).map key := by
    have hk : key r ∈ (rowsOf owner t rows').map key :=
      List.mem_map_of_mem (mem_rowsOf.mpr ⟨hr, hrt⟩)
    rw [hkeys, he] at hk
    rcases List.mem_append.mp hk with hk | hk
    · exact hk
    · exact hnames _ hk (List.mem_map_of_mem hq')
  obtain ⟨r₀, hr₀, hk⟩ := List.mem_map.mp hown
  obtain ⟨hmem, hown⟩ := mem_rowsOf.mp hr₀
  rw [nodup_keys_inj hnd hmem hq' hk] at hown
  exact hqt hown

theorem OthersKept.nodup {κ : Type} {f : ρ → κ} (h : OthersKept owner t rows rows')
    (hnd : (rows.map f).Nodup) : ((rows'.filter fun r => owner r ≠ t).map f).Nodup := by
  rw [h]
  exact hnd.sublist (List.filter_sublist.map f)

/-- A primary key. -/
theorem pkey_iff (h : OthersKept owner t rows rows') (hnd : (rows.map key).Nodup)
    {added : List Guid}
    (hkeys : (rowsOf owner t rows').map key = (rowsOf owner t rows).map key ++ added)
    (hnames : ∀ k ∈ added, k ∈ rows.map key → k ∈ (rowsOf owner t rows).map key) :
    (rows'.map key).Nodup ↔ ((rowsOf owner t rows').map key).Nodup :=
  nodup_rowsOf_iff (h.nodup hnd) (h.fresh hnd hkeys hnames)

/-- A key that begins with the tenant. -/
theorem tenantKey_iff {β : Type} (f : ρ → β) (h : OthersKept owner t rows rows')
    (hnd : (rows.map fun r => (owner r, f r)).Nodup) :
    (rows'.map fun r => (owner r, f r)).Nodup ↔
      ((rowsOf owner t rows').map fun r => (owner r, f r)).Nodup :=
  nodup_rowsOf_iff (h.nodup hnd) fun _ _ hrt _ _ hqt he =>
    hqt ((congrArg Prod.fst he).symm.trans hrt)

/-- A check on columns. -/
theorem check_iff {P : ρ → Prop} (h : OthersKept owner t rows rows') (hp : ∀ r ∈ rows, P r) :
    (∀ r ∈ rows', P r) ↔ ∀ r ∈ rowsOf owner t rows', P r :=
  forall_rowsOf_iff fun r hr ht => hp r (h.mem hr ht)

/-- A reference to `keys`, of which `own` are the tenant's: the tenant's rows name no other's. -/
theorem fkey_iff {P : ρ → Guid → Prop} {keys keys' own : List Guid}
    (h : OthersKept owner t rows rows') (hp : ∀ r ∈ rows, ∀ k, P r k → k ∈ keys)
    (hkeys : ∀ k ∈ keys, k ∈ keys') (hown : ∀ k ∈ own, k ∈ keys')
    (hnames : ∀ r ∈ rowsOf owner t rows', ∀ k, P r k → k ∈ keys' → k ∈ own) :
    (∀ r ∈ rows', ∀ k, P r k → k ∈ keys') ↔
      ∀ r ∈ rowsOf owner t rows', ∀ k, P r k → k ∈ own := by
  rw [forall_rowsOf_iff fun r hr ht k hk => hkeys k (hp r (h.mem hr ht) k hk)]
  exact ⟨fun hall r hr k hk => hnames r hr k hk (hall r hr k hk),
    fun hall r hr k hk => hown k (hall r hr k hk)⟩

end Constraints

/-! ## The constraints do not tell a tenant's ledger from the shared one -/

section Shared

variable {t : Guid} {s : Session Guid} {cs : ChangeSet} {db db' : LedgerDb}

/-- An UPDATE writes the tracked value of a column or leaves the row's. -/
theorem changedColumn_cases {β : Type} [DecidableEq β] (snapshot current row : β) :
    changedColumn snapshot current row = current ∨ changedColumn snapshot current row = row := by
  unfold changedColumn
  split
  · exact Or.inr rfl
  · exact Or.inl rfl

/-- A save leaves the rows that its session does not see as they are. -/
theorem execute_unseen (hex : cs.execute s db = .ok db') :
    unseen Session.sees Account.tenantId s db'.accounts =
        unseen Session.sees Account.tenantId s db.accounts ∧
      unseen Session.sees JournalEntry.tenantId s db'.entries =
        unseen Session.sees JournalEntry.tenantId s db.entries ∧
      unseen Session.sees FiscalPeriod.tenantId s db'.periods =
        unseen Session.sees FiscalPeriod.tenantId s db.periods ∧ db'.templates = db.templates := by
  obtain ⟨accounts, ha, hex⟩ := bind_eq_ok.mp hex
  obtain ⟨entries, he, hex⟩ := bind_eq_ok.mp hex
  obtain ⟨_, -, hex⟩ := bind_eq_ok.mp hex
  obtain ⟨periods, hp, hex⟩ := bind_eq_ok.mp hex
  cases hex
  exact ⟨saveRows_unseen (isolates_supplemented _).confines ha,
    saveRows_unseen (isolates_supplemented _).confines he,
    saveRows_unseen (isolates_supplemented _).confines hp, rfl⟩

theorem othersKept_of_unseen {ρ : Type} {owner : ρ → Guid} {rows rows' : List ρ}
    (h : unseen Session.sees owner (.tenant t) rows' =
      unseen Session.sees owner (.tenant t) rows) : OthersKept owner t rows rows' := by
  simpa [unseen, sees_tenant, OthersKept] using h

/-- A save of tenant `t` on the shared tables, seen from its part of them. -/
structure OwnSave (t : Guid) (cs : ChangeSet) (db db' : LedgerDb) : Prop where
  schema : db.Schema
  own_schema : (view t db).Schema
  names : KeysOwn t db cs
  whole : db' = cs.apply db
  own : view t db' = cs.apply (view t db)
  lines : LinesOwned db
  lines_after : LinesOwned db'
  accounts_kept : OthersKept Account.tenantId t db.accounts db'.accounts
  entries_kept : OthersKept JournalEntry.tenantId t db.entries db'.entries
  periods_kept : OthersKept FiscalPeriod.tenantId t db.periods db'.periods

theorem ownSave_of_execute (hs : db.Schema) (hl : LinesOwned db) (hv : (view t db).Schema)
    (hn : KeysOwn t db cs) (hex : cs.execute (.tenant t) db = .ok db') : OwnSave t cs db db' := by
  obtain ⟨hwhole, hrows⟩ := execute_ok hs hex
  obtain ⟨hA, hE, hP, -⟩ := execute_unseen hex
  have hview := execute_own hs hl t cs
  rw [hex] at hview
  obtain ⟨hown, -⟩ := execute_ok hv hview
  exact ⟨hs, hv, hn, hwhole, hown, hl, hwhole ▸ linesOwned_apply hl hrows,
    othersKept_of_unseen hA, othersKept_of_unseen hE, othersKept_of_unseen hP⟩

namespace OwnSave

variable (h : OwnSave t cs db db')

include h

theorem account_ids : (view t db').accounts.map (·.id) =
    (view t db).accounts.map (·.id) ++ cs.addedAccounts.map (·.id) := by
  rw [h.own, account_ids_apply]

theorem entry_ids : (view t db').entries.map (·.id) =
    (view t db).entries.map (·.id) ++ cs.addedEntries.map (·.id) := by
  rw [h.own, entry_ids_apply]

theorem period_ids : (view t db').periods.map (·.id) =
    (view t db).periods.map (·.id) ++ cs.addedPeriods.map (·.id) := by
  rw [h.own, period_ids_apply]

/-- An account that the save names and that is there after it is the tenant's. -/
theorem account_named {k : Guid} (hk : k ∈ cs.accountNames)
    (hmem : k ∈ db'.accounts.map (·.id)) : k ∈ (view t db').accounts.map (·.id) := by
  rw [h.whole, account_ids_apply] at hmem
  rw [h.account_ids]
  rcases List.mem_append.mp hmem with hmem | hmem
  · exact List.mem_append_left _ (h.names.accounts k hk hmem)
  · exact List.mem_append_right _ hmem

theorem entry_named {k : Guid} (hk : k ∈ cs.entryNames)
    (hmem : k ∈ db'.entries.map (·.id)) : k ∈ (view t db').entries.map (·.id) := by
  rw [h.whole, entry_ids_apply] at hmem
  rw [h.entry_ids]
  rcases List.mem_append.mp hmem with hmem | hmem
  · exact List.mem_append_left _ (h.names.entries k hk hmem)
  · exact List.mem_append_right _ hmem

theorem parent_own : ∀ a ∈ (view t db').accounts, ∀ k, k ∈ a.parentId →
    k ∈ db'.accounts.map (·.id) → k ∈ (view t db').accounts.map (·.id) := by
  have hold : ∀ a ∈ (view t db).accounts, ∀ k ∈ a.parentId,
      k ∈ (view t db').accounts.map (·.id) := fun a ha k hk => by
    rw [h.account_ids]
    exact List.mem_append_left _ (h.own_schema.accounts_parent_fkey a ha k hk)
  intro a ha k hk hmem
  rw [h.own] at ha
  rcases List.mem_append.mp ha with ha | ha
  · exact forall_updates (P := fun a : Account => ∀ k ∈ a.parentId,
      k ∈ (view t db').accounts.map Account.id)
      (fun m : Account × Account => m.1.writeChanges m.2) (fun _ _ _ hr => hr) hold a ha k hk
  · refine h.account_named ?_ hmem
    exact List.mem_append_left _ (List.mem_append_right _
      (List.mem_flatMap.mpr ⟨a, ha, Option.mem_toList.mpr hk⟩))

theorem line_own : ∀ e ∈ (view t db').entries, ∀ k, (∃ l ∈ e.lines, l.accountId = k) →
    k ∈ db'.accounts.map (·.id) → k ∈ (view t db').accounts.map (·.id) := by
  have hold : ∀ e ∈ (view t db).entries, ∀ l ∈ e.lines,
      l.accountId ∈ (view t db').accounts.map (·.id) := fun e he l hl => by
    rw [h.account_ids]
    exact List.mem_append_left _ (h.own_schema.lines_account_fkey e he l hl)
  rintro e he k ⟨l, hl, rfl⟩ hmem
  rw [h.own] at he
  rcases List.mem_append.mp he with he | he
  · exact forall_updates (P := fun e : JournalEntry => ∀ l ∈ e.lines,
      l.accountId ∈ (view t db').accounts.map Account.id)
      (fun m : JournalEntry × JournalEntry => m.1.writeChanges m.2) (fun _ _ _ hr => hr) hold e he
      l hl
  · obtain ⟨x, hx, rfl⟩ := List.mem_map.mp he
    obtain ⟨j, hj, rfl⟩ := List.mem_map.mp hl
    have hj' : j.accountId ∈ x.lines.map (·.accountId) := List.mem_map_of_mem hj
    refine h.account_named ?_ hmem
    exact List.mem_append_right _ (List.mem_flatMap.mpr ⟨x, hx, hj'⟩)

theorem reversalOf_own : ∀ e ∈ (view t db').entries, ∀ k, k ∈ e.reversalOfId →
    k ∈ db'.entries.map (·.id) → k ∈ (view t db').entries.map (·.id) := by
  have hold : ∀ e ∈ (view t db).entries, ∀ k ∈ e.reversalOfId,
      k ∈ (view t db').entries.map (·.id) := fun e he k hk => by
    rw [h.entry_ids]
    exact List.mem_append_left _ (h.own_schema.entries_reversal_of_fkey e he k hk)
  intro e he k hk hmem
  rw [h.own] at he
  rcases List.mem_append.mp he with he | he
  · exact forall_updates (P := fun e : JournalEntry => ∀ k ∈ e.reversalOfId,
      k ∈ (view t db').entries.map JournalEntry.id)
      (fun m : JournalEntry × JournalEntry => m.1.writeChanges m.2) (fun _ _ _ hr => hr) hold e he
      k hk
  · obtain ⟨x, hx, rfl⟩ := List.mem_map.mp he
    refine h.entry_named ?_ hmem
    simp only [ChangeSet.entryNames, List.mem_append, List.mem_flatMap]
    exact Or.inl (Or.inl (Or.inl (Or.inr ⟨x, hx, Or.inr (Option.mem_toList.mpr hk)⟩)))

theorem reversedBy_own : ∀ e ∈ (view t db').entries, ∀ k, k ∈ e.reversedById →
    k ∈ db'.entries.map (·.id) → k ∈ (view t db').entries.map (·.id) := by
  have hold : ∀ e ∈ (view t db).entries, ∀ k ∈ e.reversedById, k ∈ db'.entries.map (·.id) →
      k ∈ (view t db').entries.map (·.id) := fun e he k hk _ => by
    rw [h.entry_ids]
    exact List.mem_append_left _ (h.own_schema.entries_reversed_by_fkey e he k hk)
  intro e he k hk hmem
  rw [h.own] at he
  rcases List.mem_append.mp he with he | he
  · refine forall_updates (P := fun e : JournalEntry => ∀ k ∈ e.reversedById,
      k ∈ db'.entries.map (·.id) → k ∈ (view t db').entries.map (·.id))
      (fun m : JournalEntry × JournalEntry => m.1.writeChanges m.2) ?_ hold e he k hk hmem
    intro m hm r hr k hk hmem
    rcases changedColumn_cases m.1.reversedById m.2.reversedById r.reversedById with hc | hc
    · refine h.entry_named ?_ hmem
      have hk' : k ∈ m.2.reversedById := hc ▸ hk
      simp only [ChangeSet.entryNames, List.mem_append, List.mem_flatMap]
      exact Or.inl (Or.inl (Or.inr ⟨m, hm, Option.mem_toList.mpr hk'⟩))
    · exact hr k (hc ▸ hk) hmem
  · obtain ⟨x, hx, rfl⟩ := List.mem_map.mp he
    refine h.entry_named ?_ hmem
    simp only [ChangeSet.entryNames, List.mem_append, List.mem_flatMap]
    exact Or.inl (Or.inl (Or.inl (Or.inr ⟨x, hx, Or.inl (Option.mem_toList.mpr hk)⟩)))

theorem opening_own : ∀ p ∈ (view t db').periods, ∀ k, k ∈ p.openingBalanceEntryId →
    k ∈ db'.entries.map (·.id) → k ∈ (view t db').entries.map (·.id) := by
  have hold : ∀ p ∈ (view t db).periods, ∀ k ∈ p.openingBalanceEntryId,
      k ∈ db'.entries.map (·.id) → k ∈ (view t db').entries.map (·.id) := fun p hp k hk _ => by
    rw [h.entry_ids]
    exact List.mem_append_left _ (h.own_schema.periods_opening_fkey p hp k hk)
  intro p hp k hk hmem
  rw [h.own] at hp
  rcases List.mem_append.mp hp with hp | hp
  · refine forall_updates (P := fun p : FiscalPeriod => ∀ k ∈ p.openingBalanceEntryId,
      k ∈ db'.entries.map (·.id) → k ∈ (view t db').entries.map (·.id))
      (fun m : FiscalPeriod × FiscalPeriod => m.1.writeChanges m.2) ?_ hold p hp k hk hmem
    intro m hm r hr k hk hmem
    rcases changedColumn_cases m.1.openingBalanceEntryId m.2.openingBalanceEntryId
      r.openingBalanceEntryId with hc | hc
    · refine h.entry_named ?_ hmem
      have hk' : k ∈ m.2.openingBalanceEntryId := hc ▸ hk
      simp only [ChangeSet.entryNames, List.mem_append, List.mem_flatMap]
      exact Or.inl (Or.inr ⟨m, hm, Option.mem_toList.mpr hk'⟩)
    · exact hr k (hc ▸ hk) hmem
  · refine h.entry_named ?_ hmem
    simp only [ChangeSet.entryNames, List.mem_append, List.mem_flatMap]
    exact Or.inr ⟨p, hp, Option.mem_toList.mpr hk⟩

theorem accounts_pkey_iff :
    (db'.accounts.map (·.id)).Nodup ↔ ((view t db').accounts.map (·.id)).Nodup := by
  have hkeys := h.account_ids
  have hnames := h.names.accounts
  rw [view_accounts, view_accounts] at hkeys
  rw [view_accounts] at hnames ⊢
  exact pkey_iff h.accounts_kept h.schema.accounts_pkey hkeys fun k hk =>
    hnames k (List.mem_append_left _ (List.mem_append_left _ hk))

theorem entries_pkey_iff :
    (db'.entries.map (·.id)).Nodup ↔ ((view t db').entries.map (·.id)).Nodup := by
  have hkeys := h.entry_ids
  have hnames := h.names.entries
  rw [view_entries h.lines, view_entries h.lines_after] at hkeys
  rw [view_entries h.lines] at hnames
  rw [view_entries h.lines_after]
  refine pkey_iff h.entries_kept h.schema.entries_pkey hkeys fun k hk => hnames k ?_
  simp only [ChangeSet.entryNames, List.mem_append]
  exact Or.inl (Or.inl (Or.inl (Or.inl hk)))

theorem periods_pkey_iff :
    (db'.periods.map (·.id)).Nodup ↔ ((view t db').periods.map (·.id)).Nodup := by
  have hkeys := h.period_ids
  have hnames := h.names.periods
  rw [view_periods, view_periods] at hkeys
  rw [view_periods] at hnames ⊢
  exact pkey_iff h.periods_kept h.schema.periods_pkey hkeys hnames

theorem account_ids_grow : ∀ k ∈ db.accounts.map (·.id), k ∈ db'.accounts.map (·.id) := by
  intro k hk
  rw [h.whole, account_ids_apply]
  exact List.mem_append_left _ hk

theorem entry_ids_grow : ∀ k ∈ db.entries.map (·.id), k ∈ db'.entries.map (·.id) := by
  intro k hk
  rw [h.whole, entry_ids_apply]
  exact List.mem_append_left _ hk

omit h in
theorem own_account_ids : ∀ k ∈ (view t db').accounts.map (·.id), k ∈ db'.accounts.map (·.id) := by
  intro k hk
  rw [view_accounts] at hk
  exact (List.filter_sublist.map _).subset hk

theorem own_entry_ids : ∀ k ∈ (view t db').entries.map (·.id), k ∈ db'.entries.map (·.id) := by
  intro k hk
  rw [view_entries h.lines_after] at hk
  exact (List.filter_sublist.map _).subset hk

theorem parent_fkey_iff :
    (∀ a ∈ db'.accounts, ∀ k ∈ a.parentId, k ∈ db'.accounts.map (·.id)) ↔
      ∀ a ∈ (view t db').accounts, ∀ k ∈ a.parentId, k ∈ (view t db').accounts.map (·.id) := by
  have hnames := h.parent_own
  have hown : ∀ k ∈ (view t db').accounts.map (·.id), k ∈ db'.accounts.map (·.id) :=
    own_account_ids
  rw [view_accounts] at hnames hown ⊢
  exact fkey_iff (P := fun (a : Account) k => k ∈ a.parentId) h.accounts_kept
    h.schema.accounts_parent_fkey h.account_ids_grow hown hnames

theorem reversedBy_fkey_iff :
    (∀ e ∈ db'.entries, ∀ k ∈ e.reversedById, k ∈ db'.entries.map (·.id)) ↔
      ∀ e ∈ (view t db').entries, ∀ k ∈ e.reversedById, k ∈ (view t db').entries.map (·.id) := by
  have hnames := h.reversedBy_own
  have hown := h.own_entry_ids
  rw [view_entries h.lines_after] at hnames hown ⊢
  exact fkey_iff (P := fun (e : JournalEntry) k => k ∈ e.reversedById) h.entries_kept
    h.schema.entries_reversed_by_fkey h.entry_ids_grow hown hnames

theorem reversalOf_fkey_iff :
    (∀ e ∈ db'.entries, ∀ k ∈ e.reversalOfId, k ∈ db'.entries.map (·.id)) ↔
      ∀ e ∈ (view t db').entries, ∀ k ∈ e.reversalOfId, k ∈ (view t db').entries.map (·.id) := by
  have hnames := h.reversalOf_own
  have hown := h.own_entry_ids
  rw [view_entries h.lines_after] at hnames hown ⊢
  exact fkey_iff (P := fun (e : JournalEntry) k => k ∈ e.reversalOfId) h.entries_kept
    h.schema.entries_reversal_of_fkey h.entry_ids_grow hown hnames

theorem line_fkey_iff :
    (∀ e ∈ db'.entries, ∀ l ∈ e.lines, l.accountId ∈ db'.accounts.map (·.id)) ↔
      ∀ e ∈ (view t db').entries, ∀ l ∈ e.lines,
        l.accountId ∈ (view t db').accounts.map (·.id) := by
  have hlines : ∀ {entries : List JournalEntry} {ids : List Guid},
      (∀ e ∈ entries, ∀ k, (∃ l ∈ e.lines, l.accountId = k) → k ∈ ids) ↔
        ∀ e ∈ entries, ∀ l ∈ e.lines, l.accountId ∈ ids := by
    intro entries ids
    refine forall₂_congr fun e _ => ⟨fun hall l hl => hall _ ⟨l, hl, rfl⟩, ?_⟩
    rintro hall k ⟨l, hl, rfl⟩
    exact hall l hl
  have hnames := h.line_own
  rw [view_entries h.lines_after] at hnames ⊢
  rw [← hlines, ← hlines]
  exact fkey_iff (P := fun (e : JournalEntry) k => ∃ l ∈ e.lines, l.accountId = k) h.entries_kept
    (hlines.mpr h.schema.lines_account_fkey) h.account_ids_grow own_account_ids hnames

theorem opening_fkey_iff :
    (∀ p ∈ db'.periods, ∀ k ∈ p.openingBalanceEntryId, k ∈ db'.entries.map (·.id)) ↔
      ∀ p ∈ (view t db').periods, ∀ k ∈ p.openingBalanceEntryId,
        k ∈ (view t db').entries.map (·.id) := by
  have hnames := h.opening_own
  rw [view_periods] at hnames ⊢
  exact fkey_iff (P := fun (p : FiscalPeriod) k => k ∈ p.openingBalanceEntryId) h.periods_kept
    h.schema.periods_opening_fkey h.entry_ids_grow h.own_entry_ids hnames

/-- Every constraint says of the shared tables what it says of the tenant's part. -/
theorem constraints_eq : db'.constraints = (view t db').constraints := by
  have hcode := tenantKey_iff (·.code) h.accounts_kept h.schema.uq_account_code_tenant
  have hdates := tenantKey_iff (fun p => (p.startDate, p.endDate)) h.periods_kept
    h.schema.uq_period_tenant_dates
  have haccountsText := check_iff h.accounts_kept h.schema.accounts_text
  have hentriesText := check_iff h.entries_kept h.schema.entries_text
  have hperiodsText := check_iff h.periods_kept h.schema.periods_text
  have haccounts := check_iff h.accounts_kept h.schema.accounts_columns
  have hentries := check_iff h.entries_kept h.schema.entries_columns
  have hamounts := check_iff h.entries_kept h.schema.lines_columns
  have hsided := check_iff h.entries_kept h.schema.chk_debit_or_credit
  have hperiods := check_iff h.periods_kept h.schema.periods_columns
  rw [← view_accounts] at hcode haccounts haccountsText
  rw [← view_entries h.lines_after] at hentries hentriesText hamounts hsided
  rw [← view_periods] at hdates hperiods hperiodsText
  simp only [LedgerDb.constraints, decide_eq_decide.mpr haccountsText,
    decide_eq_decide.mpr hentriesText, decide_eq_decide.mpr hperiodsText,
    decide_eq_decide.mpr h.accounts_pkey_iff, decide_eq_decide.mpr haccounts,
    decide_eq_decide.mpr hcode,
    decide_eq_decide.mpr h.parent_fkey_iff, decide_eq_decide.mpr h.entries_pkey_iff,
    decide_eq_decide.mpr hentries, decide_eq_decide.mpr h.reversedBy_fkey_iff,
    decide_eq_decide.mpr h.reversalOf_fkey_iff, decide_eq_decide.mpr hamounts,
    decide_eq_decide.mpr hsided, decide_eq_decide.mpr h.line_fkey_iff,
    decide_eq_decide.mpr h.periods_pkey_iff, decide_eq_decide.mpr hperiods,
    decide_eq_decide.mpr hdates, decide_eq_decide.mpr h.opening_fkey_iff]

theorem violation_eq : db'.violation = (view t db').violation := by
  rw [LedgerDb.violation, LedgerDb.violation, h.constraints_eq]

end OwnSave

end Shared

/-! ## Commands -/

section Commands

variable {t : Guid} {cs : ChangeSet} {db : LedgerDb}

theorem saveChangesAs_own (hs : db.Schema) (hl : LinesOwned db) (hv : (view t db).Schema)
    (hn : KeysOwn t db cs) (env : Env) :
    saveChangesAs (.tenant t) env cs (view t db) =
      (saveChangesAs (.tenant t) env cs db).map (view t) := by
  unfold saveChangesAs
  split
  next => rfl
  next =>
    rw [execute_own hs hl]
    cases hex : cs.execute (.tenant t) db with
    | error e => rfl
    | ok db' =>
      have hsave := ownSave_of_execute hs hl hv hn hex
      simp only [Except.map, ← hsave.violation_eq]
      split <;> rfl

theorem commitAs_own {α : Type} (hs : db.Schema) (hl : LinesOwned db) (hv : (view t db).Schema)
    (env : Env) (publishes : Bool) (reply : α → Reply)
    {prepared : Except LedgerException (ChangeSet × α)}
    (hn : ∀ cs, prepared.map (·.1) = .ok cs → KeysOwn t db cs) :
    commitAs (.tenant t) env publishes reply prepared (view t db) =
      (view t (commitAs (.tenant t) env publishes reply prepared db).1,
        (commitAs (.tenant t) env publishes reply prepared db).2) := by
  cases prepared with
  | error ex => rfl
  | ok p =>
    obtain ⟨cs, a⟩ := p
    have hsave := saveChangesAs_own hs hl hv (hn cs rfl) env
    simp only [commitAs, hsave]
    cases saveChangesAs (.tenant t) env cs db with
    | error ex => rfl
    | ok db' =>
      simp only [Except.map]
      split <;> rfl

/-- The ids that the command would write, of those that exist, are the tenant's. -/
def WritesOwn (t : Guid) (db : LedgerDb) (i : Env × LedgerCommand) : Prop :=
  ∀ cs, changes i.1 i.2 (view t db) = .ok cs → KeysOwn t db cs

instance (t : Guid) (db : LedgerDb) (i : Env × LedgerCommand) : Decidable (WritesOwn t db i) :=
  match h : changes i.1 i.2 (view t db) with
  | .error _ => isTrue fun _ hc => nomatch h.symm.trans hc
  | .ok cs => decidable_of_iff (KeysOwn t db cs)
    ⟨fun hn _ hc => Except.ok.inj (h.symm.trans hc) ▸ hn, fun hall => hall cs h⟩

/-- A tenant's command does to the tenant's part of the tables, with the same reply, what it would do
    if they were all. -/
theorem handleAs_own (hs : db.Schema) (hl : LinesOwned db) (hv : (view t db).Schema)
    {i : Env × LedgerCommand} (hn : WritesOwn t db i) :
    handleAs (.tenant t) i (view t db) =
      (view t (handleAs (.tenant t) i db).1, (handleAs (.tenant t) i db).2) := by
  obtain ⟨env, cmd⟩ := i
  have hsees : (view t db).visible (.tenant t) = view t db := view_view hl t
  have hread : db.visible (.tenant t) = view t db := rfl
  unfold handleAs
  rw [hsees, hread]
  cases cmd with
  | createAccount c => exact commitAs_own hs hl hv env true .id hn
  | createJournalEntry c => exact commitAs_own hs hl hv env false .id hn
  | postJournalEntry c => exact commitAs_own hs hl hv env true (fun _ => .done) hn
  | reverseJournalEntry c => exact commitAs_own hs hl hv env false .id hn
  | createFiscalPeriod c => exact commitAs_own hs hl hv env false .id hn
  | closeFiscalPeriod c => exact commitAs_own hs hl hv env true (fun _ => .done) hn
  | initializeFromTemplate c =>
    dsimp only
    split
    · rfl
    · exact commitAs_own hs hl hv env false .accountsCreated hn
  | updateAccount id req =>
    dsimp only
    split
    · rfl
    · exact commitAs_own hs hl hv env false .account hn

/-- A session that does not see a tenant leaves the tenant's part alone. -/
theorem handleAs_others (h : Reachable db) {s : Session Guid} (hs : s.sees t = false)
    (i : Env × LedgerCommand) : view t (handleAs s i db).1 = view t db := by
  rcases handleAs_cases s i db with he | ⟨cs, hc, hsave⟩
  · rw [he]
  · have hlines : LinesOwned (handleAs s i db).1 :=
      lines_owned (stepAs_reachable h ⟨s, i.1, i.2⟩)
    have hex : cs.execute s db = .ok (handleAs s i db).1 := by
      unfold saveChangesAs at hsave
      split at hsave
      next => cases hsave
      next =>
        split at hsave
        next => cases hsave
        next db' hex =>
          split at hsave
          next => cases hsave
          next => rw [hex, Except.ok.inj hsave]
    obtain ⟨hA, hE, hP, hT⟩ := execute_unseen hex
    rw [view_eq hlines, view_eq (lines_owned h), ← rowsOf_unseen hs (handleAs s i db).1.accounts,
      ← rowsOf_unseen hs (handleAs s i db).1.entries,
      ← rowsOf_unseen hs (handleAs s i db).1.periods, hA, hE, hP, hT, rowsOf_unseen hs,
      rowsOf_unseen hs, rowsOf_unseen hs]

end Commands

/-! ## Runs -/

/-- No platform admin takes part, and tenant `t` writes no id of another tenant's row. -/
def TenantsOnly (t : Guid) (db : LedgerDb) (i : SessionCommand) : Prop :=
  i.session.isPlatformAdmin = false ∧
    (i.session = .tenant t → WritesOwn t db (i.env, i.command))

instance (t : Guid) (db : LedgerDb) (i : SessionCommand) : Decidable (TenantsOnly t db i) :=
  inferInstanceAs (Decidable (_ ∧ (_ → _)))

/-- The commands of tenant `t`. -/
def isOf (t : Guid) (i : SessionCommand) : Bool := decide (i.session = .tenant t)

/-- The state of a run that tenant `t` looks at. -/
structure Shared (t : Guid) (db : LedgerDb) : Prop where
  reachable : Reachable db
  own_schema : (view t db).Schema

theorem unwinds (t : Guid) : Unwinds stepAs (isOf t) (view t) (Shared t) (TenantsOnly t) := by
  have hothers : ∀ db i, Shared t db → TenantsOnly t db i → isOf t i = false →
      view t (stepAs db i).1 = view t db := by
    intro db i h hc hi
    refine handleAs_others h.reachable ?_ (i.env, i.command)
    -- a session of no admin that sees `t` is the session of `t`
    rw [Bool.eq_false_iff]
    intro hsees
    rw [sees_iff hc.1] at hsees
    have heq : i.session = .tenant t := by
      obtain ⟨⟨tenant, admin⟩, env, cmd⟩ := i
      exact congrArg₂ Session.mk hsees hc.1
    simp [isOf, heq] at hi
  have hown : ∀ db i, Shared t db → TenantsOnly t db i → isOf t i = true →
      stepAs (view t db) i = (view t (stepAs db i).1, (stepAs db i).2) := by
    intro db i h hc hi
    have heq : i.session = .tenant t := by simpa [isOf] using hi
    unfold stepAs
    rw [heq]
    exact handleAs_own (reachable_schema h.reachable) (lines_owned h.reachable) h.own_schema
      (hc.2 heq)
  refine ⟨fun db i h hc => ⟨stepAs_reachable h.reachable i, ?_⟩, hothers, hown⟩
  cases hi : isOf t i with
  | false =>
    rw [hothers db i h hc hi]
    exact h.own_schema
  | true =>
    -- the tenant's own ledger is one, and a command keeps its constraints
    have hview : (stepAs (view t db) i).1 = view t (stepAs db i).1 :=
      congrArg Prod.fst (hown db i h hc hi)
    rw [← hview]
    rcases handleAs_cases i.session (i.env, i.command) (view t db) with he | ⟨cs, -, hsave⟩
    · rw [stepAs, he]
      exact h.own_schema
    · exact (saveChanges_ok (saveChangesAs_ok h.own_schema hsave).1).2

/-- However the commands of the tenants are interleaved, a tenant's part of the tables is the ledger
    that its own commands alone would have made, and they got the replies they would have got. -/
theorem private_ledger (templates : List AccountTemplate) (t : Guid) (is : List SessionCommand)
    (hc : StepsSatisfy (afterInput stepAs) (TenantsOnly t) (LedgerDb.seeded templates) is) :
    view t (runAs (LedgerDb.seeded templates) is) =
        runAs (LedgerDb.seeded templates) (is.filter (isOf t)) ∧
      (answerLog stepAs (LedgerDb.seeded templates) is).filter (fun a => isOf t a.1) =
        answerLog stepAs (LedgerDb.seeded templates) (is.filter (isOf t)) := by
  have h0 : Shared t (LedgerDb.seeded templates) :=
    ⟨⟨templates, [], rfl⟩, seeded_schema templates⟩
  exact ⟨(unwinds t).run h0 hc, (unwinds t).answerLog h0 hc⟩

namespace Sample

/-- A command in the session of tenant `t`. -/
def as (t : Guid) (i : Env × LedgerCommand) : SessionCommand := ⟨.tenant t, i.1, i.2⟩

/-- Tenants 1 and 2 use one account code, and tenant 2 tries to post tenant 1's entry. -/
def twoTenants : List SessionCommand :=
  [as 1 (account 101 1 "1001" .asset), as 2 (account 201 2 "1001" .asset),
   as 1 (account 102 1 "4001" .revenue), as 1 (draft 301 1 10 101 102 100), as 2 (post 301),
   as 1 (post 301)]

end Sample

theorem private_ledger_sample :
    view 1 (runAs (LedgerDb.seeded []) Sample.twoTenants) =
        runAs (LedgerDb.seeded []) (Sample.twoTenants.filter (isOf 1)) ∧
      (answerLog stepAs (LedgerDb.seeded []) Sample.twoTenants).filter (fun a => isOf 1 a.1) =
        answerLog stepAs (LedgerDb.seeded []) (Sample.twoTenants.filter (isOf 1)) :=
  private_ledger [] 1 Sample.twoTenants (by decide +kernel)

end SaasChassis.Ledger
