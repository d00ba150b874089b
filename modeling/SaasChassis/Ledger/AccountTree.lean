/-
  The tree of accounts that `GET /accounts` returns.

  The handler puts the dtos of a tenant's accounts into a dictionary and goes through it once: a
  dto is added to the child list of the dto its ParentId names, or to `roots` when the dictionary
  has none. `foldl_place` says what the lists hold in the end. The forest is what one finds going
  down from the roots; a dto that is below itself would not be found.

  No account of the ledger is below itself, because its parent was there before it (`Grown`).
  Every command keeps that (`ParentsFirst.apply`), with one proviso on `Guid.NewGuid()`: an account
  would be its own parent if the request named the id that is drawn for it. `accountTree_complete`
  reads the tree off the invariant.

  The forest is modelled up to the value that is handed to `Results.Ok`. Writing it as JSON, with
  the limit on nesting that System.Text.Json has, is left to the framework.
-/
import SaasChassis.Ledger.Templates
import SaasChassis.Lib.Forest

namespace SaasChassis.Ledger

open SaasChassis.Lib

/-- The columns of an account, with its `Children`. -/
abbrev AccountDto := RoseTree Account

namespace AccountEndpoints

/-- What the loop fills: the child list of each dto, by the dto's id, and `roots`. -/
structure Placed where
  children : Guid → List Account
  roots : List Account

def Placed.start : Placed := { children := fun _ => [], roots := [] }

/-- `dtoMap.TryGetValue(dto.ParentId.Value, out var parent)`. -/
def parentIn (dtoMap : List Account) (dto : Account) : Option Account :=
  dto.parentId.bind fun id => dtoMap.find? (·.id = id)

def place (dtoMap : List Account) (s : Placed) (dto : Account) : Placed :=
  match parentIn dtoMap dto with
  | some parent =>
    { s with children :=
      Function.update s.children parent.id (s.children parent.id ++ [dto]) }
  | none => { s with roots := s.roots ++ [dto] }

/-- `GET /accounts`; `none` is the exception of `ToDictionary` for an id it meets twice. -/
def getAccounts (db : LedgerDb) (tenantId : Guid) : Option (List AccountDto) :=
  let dtoMap := db.getAllByTenant tenantId
  if (dtoMap.map (·.id)).Nodup then
    let placed := dtoMap.foldl (place dtoMap) .start
    -- dtos are shared, so the lists are read when the loop has filled them all; no chain of
    -- dtos is longer than their number
    some (placed.roots.map (RoseTree.grow (fun dto => placed.children dto.id) dtoMap.length))
  else none

/-! ## Statement -/

/-- `Guid.NewGuid()` does not return the very id that the request names as the parent. -/
def NewIdUnasked (i : Env × LedgerCommand) : Prop :=
  match i.2 with
  | .createAccount c => c.parentId ≠ some (i.1.newGuid 0)
  | _ => True

instance (i : Env × LedgerCommand) : Decidable (NewIdUnasked i) := by
  unfold NewIdUnasked
  cases i.2 <;> infer_instance

/-- The forest has the accounts of `T`, each once and in its place. -/
structure Complete (db : LedgerDb) (T : Guid) (forest : List AccountDto) : Prop where
  once : ∀ a ∈ db.accounts, a.tenantId = T → (RoseTree.flatten forest).count a = 1
  own : ∀ a ∈ RoseTree.flatten forest, a ∈ db.accounts ∧ a.tenantId = T
  under : ∀ a ∈ db.accounts, a.tenantId = T → ∀ p ∈ db.accounts, p.tenantId = T →
    a.parentId = some p.id →
    ∃ node ∈ RoseTree.nodesAll forest, node.value = p ∧ a ∈ node.children.map RoseTree.value
  root : ∀ a ∈ db.accounts, a.tenantId = T →
    (∀ p ∈ db.accounts, p.tenantId = T → a.parentId ≠ some p.id) →
    a ∈ forest.map RoseTree.value

/-! ## The loop -/

section Loop

variable {dtoMap : List Account} {dto : Account} {i : Guid}

theorem parentIn_id : (parentIn dtoMap dto).map (·.id) = some i ↔
    dto.parentId = some i ∧ ∃ p ∈ dtoMap, p.id = i := by
  unfold parentIn
  cases hparent : dto.parentId with
  | none => simp
  | some j =>
    rw [Option.bind_some]
    constructor
    · intro h
      obtain ⟨p, hp, rfl⟩ := Option.map_eq_some_iff.mp h
      have hid : p.id = j := by simpa using List.find?_some hp
      exact ⟨congrArg some hid.symm, p, List.mem_of_find?_eq_some hp, rfl⟩
    · intro h
      obtain ⟨hji, p, hp, rfl⟩ := h
      obtain rfl := Option.some.inj hji
      cases hfind : dtoMap.find? (·.id = p.id) with
      | none =>
        have hnone := List.find?_eq_none.mp hfind p hp
        simp at hnone
      | some q => exact congrArg some (by simpa using List.find?_some hfind)

theorem parentIn_none : parentIn dtoMap dto = none ↔ ∀ p ∈ dtoMap, dto.parentId ≠ some p.id := by
  constructor
  · intro h p hp hparent
    have hfound := parentIn_id.mpr ⟨hparent, p, hp, rfl⟩
    rw [h] at hfound
    cases hfound
  · intro h
    cases hfind : parentIn dtoMap dto with
    | none => rfl
    | some q =>
      obtain ⟨hparent, p, hp, hid⟩ := parentIn_id.mp (congrArg (Option.map (·.id)) hfind)
      exact absurd (hid ▸ hparent) (h p hp)

/-- After some of the dtos. -/
theorem foldl_place (done : List Account) : done.foldl (place dtoMap) .start =
    { children := fun i => done.filter fun dto => (parentIn dtoMap dto).map (·.id) = some i
      roots := done.filter fun dto => (parentIn dtoMap dto).isNone } := by
  induction done using List.reverseRecOn with
  | nil => rfl
  | append_singleton done dto ih =>
    rw [List.foldl_append, List.foldl_cons, List.foldl_nil, ih]
    unfold place
    cases hparent : parentIn dtoMap dto with
    | none => simp [List.filter_append, hparent]
    | some parent =>
      simp only [List.filter_append, Placed.mk.injEq]
      refine ⟨funext fun i => ?_, by simp [hparent]⟩
      by_cases hi : i = parent.id
      · subst hi
        simp [hparent]
      · rw [Function.update_of_ne hi]
        simp [hparent, Ne.symm hi]

end Loop

/-! ## The forest of a table -/

section Forest

variable {db : LedgerDb} {T : Guid}

/-- The child list of a dto when the loop is done. -/
def childrenOf (dtoMap : List Account) (dto : Account) : List Account :=
  dtoMap.filter fun d => (parentIn dtoMap d).map (·.id) = some dto.id

theorem mem_childrenOf {dtoMap : List Account} {p a : Account} (hp : p ∈ dtoMap) :
    a ∈ childrenOf dtoMap p ↔ a ∈ dtoMap ∧ a.parentId = some p.id := by
  unfold childrenOf
  rw [List.mem_filter, decide_eq_true_eq, parentIn_id]
  exact and_congr_right fun _ => and_iff_left ⟨p, hp, rfl⟩

def rootsOf (dtoMap : List Account) : List Account :=
  dtoMap.filter fun d => (parentIn dtoMap d).isNone

theorem mem_rootsOf {dtoMap : List Account} {a : Account} :
    a ∈ rootsOf dtoMap ↔ a ∈ dtoMap ∧ ∀ p ∈ dtoMap, a.parentId ≠ some p.id := by
  unfold rootsOf
  rw [List.mem_filter, Option.isNone_iff_eq_none, parentIn_none]

theorem getAccounts_eq (hs : db.Schema) (T : Guid) : getAccounts db T =
    some ((rootsOf (db.getAllByTenant T)).map
      (RoseTree.grow (childrenOf (db.getAllByTenant T)) (db.getAllByTenant T).length)) := by
  unfold getAccounts
  dsimp only
  rw [if_pos (LedgerDb.getAllByTenant_ids_nodup hs T), foldl_place]
  rfl

/-- In a table in which parents come first, a tenant's accounts are a hierarchy. -/
theorem hierarchy (hs : db.Schema) (hgrown : Grown Account.id Account.parentId db.accounts) :
    Hierarchy (db.getAllByTenant T) (childrenOf (db.getAllByTenant T))
      fun a => (db.accounts.map (·.id)).idxOf a.id where
  closed _ _ _ hc := List.mem_of_mem_filter hc
  nodup _ _ := (LedgerDb.getAllByTenant_ids_nodup hs T).of_map.filter _
  one a ha b hb c hca hcb := by
    have hpa := ((mem_childrenOf ha).mp hca).2
    have hpb := ((mem_childrenOf hb).mp hcb).2
    exact nodup_keys_inj (LedgerDb.getAllByTenant_ids_nodup hs T) ha hb
      (Option.some.inj (hpa.symm.trans hpb))
  rank_lt a ha c hc := by
    obtain ⟨hmem, hparent⟩ := (mem_childrenOf ha).mp hc
    exact hgrown.idxOf_lt hs.accounts_pkey (LedgerDb.mem_getAllByTenant.mp hmem).1 hparent

theorem getAccounts_complete (hs : db.Schema)
    (hgrown : Grown Account.id Account.parentId db.accounts) (T : Guid) :
    ∃ forest, getAccounts db T = some forest ∧ Complete db T forest := by
  have hh := @hierarchy db T hs hgrown
  have hnd : (db.getAllByTenant T).Nodup := (LedgerDb.getAllByTenant_ids_nodup hs T).of_map
  have hplaced : ∀ a ∈ db.getAllByTenant T, a ∈ rootsOf (db.getAllByTenant T) ∨
      ∃ p ∈ db.getAllByTenant T, a ∈ childrenOf (db.getAllByTenant T) p := by
    intro a ha
    by_cases hparent : ∃ p ∈ db.getAllByTenant T, a.parentId = some p.id
    · obtain ⟨p, hp, hid⟩ := hparent
      exact Or.inr ⟨p, hp, (mem_childrenOf hp).mpr ⟨ha, hid⟩⟩
    · exact Or.inl (mem_rootsOf.mpr ⟨ha, fun p hp hid => hparent ⟨p, hp, hid⟩⟩)
  have hroots : ∀ r ∈ rootsOf (db.getAllByTenant T), ∀ p ∈ db.getAllByTenant T,
      r ∉ childrenOf (db.getAllByTenant T) p := fun r hr p hp hchild =>
    (mem_rootsOf.mp hr).2 p hp ((mem_childrenOf hp).mp hchild).2
  have hrootsNodup : (rootsOf (db.getAllByTenant T)).Nodup := hnd.filter _
  have hrootsSubset : rootsOf (db.getAllByTenant T) ⊆ db.getAllByTenant T :=
    List.filter_subset_self _
  have hperm := hh.flatten_perm hnd hrootsNodup hrootsSubset hroots hplaced
  refine ⟨_, getAccounts_eq hs T, ?_, ?_, ?_, ?_⟩
  · intro a ha hT
    rw [hperm.count_eq]
    exact List.count_eq_one_of_mem hnd (LedgerDb.mem_getAllByTenant.mpr ⟨ha, hT⟩)
  · intro a ha
    exact LedgerDb.mem_getAllByTenant.mp (hperm.mem_iff.mp ha)
  · intro a ha haT p hp hpT hparent
    have hp' := LedgerDb.mem_getAllByTenant.mpr ⟨hp, hpT⟩
    have hchild : a ∈ childrenOf (db.getAllByTenant T) p :=
      (mem_childrenOf hp').mpr ⟨LedgerDb.mem_getAllByTenant.mpr ⟨ha, haT⟩, hparent⟩
    obtain ⟨node, hmem, hvalue, hchildren⟩ := hh.exists_parent_node hplaced hp' hchild
    exact ⟨node, hmem, hvalue, hchildren ▸ hchild⟩
  · intro a ha haT hnone
    have hroot : a ∈ rootsOf (db.getAllByTenant T) :=
      mem_rootsOf.mpr ⟨LedgerDb.mem_getAllByTenant.mpr ⟨ha, haT⟩, fun p hp =>
        hnone p (LedgerDb.mem_getAllByTenant.mp hp).1 (LedgerDb.mem_getAllByTenant.mp hp).2⟩
    rw [List.map_map]
    exact List.mem_map.mpr ⟨a, hroot, RoseTree.grow_value⟩

end Forest

/-! ## Parents come first -/

section ParentsFirst

open InitializeFromTemplateHandler

/-- What a command can do to the accounts. -/
inductive AccountWrite (env : Env) (db : LedgerDb) : LedgerCommand → ChangeSet → Prop
  | untouched {cmd : LedgerCommand} {cs : ChangeSet} (added : cs.addedAccounts = [])
      (modified : cs.modifiedAccounts = []) : AccountWrite env db cmd cs
  | created (c : CreateAccountCommand) :
      AccountWrite env db (.createAccount c)
        { addedAccounts := [Account.create (env.newGuid 0) c.tenantId c.code c.name
          c.accountType c.parentId c.description] }
  | initialized (c : InitializeFromTemplateCommand) (existing : List String)
      (entries : List TemplateAccountEntry) (added : List Account)
      (created : entries.foldlM (createOne env c.tenantId existing) [] = .ok added) :
      AccountWrite env db (.initializeFromTemplate c) { addedAccounts := added }
  | updated (id : Guid) (req : UpdateAccountRequest) :
      AccountWrite env db (.updateAccount id req)
        { modifiedAccounts := (db.getAccountById id).toList.map fun account =>
          (account, account.update req.name req.description req.isActive) }

theorem changes_accounts {env : Env} {cmd : LedgerCommand} {db : LedgerDb} {cs : ChangeSet}
    (h : changes env cmd db = .ok cs) : AccountWrite env db cmd cs := by
  cases changes_ok h with
  | createAccount c valid fresh => exact .created c
  | initializeFromTemplate c template entries added found parsed created =>
    exact .initialized c _ _ added created
  | updateAccount id req => exact .updated id req
  | createJournalEntry c valid period => exact .untouched rfl rfl
  | postJournalEntry c entry mem id draft balanced => exact .untouched rfl rfl
  | reverseJournalEntry c entry reversal current mem id ok => exact .untouched rfl rfl
  | createFiscalPeriod c => exact .untouched rfl rfl
  | closeFiscalPeriod c _ p =>
    exact .untouched (congrArg (·.addedAccounts) p.changes_eq)
      (congrArg (·.modifiedAccounts) p.changes_eq)

/-- Each account's parent was there before it. -/
def ParentsFirst (accounts : List Account) : Prop :=
  Grown Account.id Account.parentId accounts

/-- A new account of a template has an account made before it as its parent. -/
theorem mem_of_parentIdOf {created : List Account} {p : Option String} {i : Guid}
    (h : i ∈ parentIdOf created p) : i ∈ created.map (·.id) := by
  cases p with
  | none => cases h
  | some code =>
    unfold parentIdOf at h
    dsimp only at h
    split at h
    · cases h
    · obtain ⟨b, hb, rfl⟩ := Option.map_eq_some_iff.mp h
      exact List.mem_map_of_mem (List.mem_reverse.mp (List.mem_of_find?_eq_some hb))

theorem ParentsFirst.createOne {env : Env} {T : Guid} {existing : List String}
    {entry : TemplateAccountEntry} {created created' : List Account}
    (h : ParentsFirst created)
    (hok : createOne env T existing created entry = .ok created') : ParentsFirst created' := by
  by_cases hcode : entry.code ∈ existing
  · rw [createOne_existing hcode] at hok
    exact Except.ok.inj hok ▸ h
  · cases htype : parseAccountType entry.type with
    | error e =>
      unfold InitializeFromTemplateHandler.createOne at hok
      rw [if_neg hcode, htype] at hok
      cases hok
    | ok type =>
      rw [createOne_new hcode htype] at hok
      rw [← Except.ok.inj hok]
      exact h.concat fun i hi => mem_of_parentIdOf hi

theorem ParentsFirst.template {env : Env} {T : Guid} {existing : List String}
    {entries : List TemplateAccountEntry} {created added : List Account}
    (h : ParentsFirst created)
    (hok : entries.foldlM (InitializeFromTemplateHandler.createOne env T existing) created =
      .ok added) : ParentsFirst added := by
  induction entries generalizing created with
  | nil => exact Except.ok.inj hok ▸ h
  | cons entry entries ih =>
    rw [List.foldlM_cons] at hok
    obtain ⟨created', hone, hrest⟩ := bind_eq_ok.mp hok
    exact ih (h.createOne hone) hrest

/-- One command. -/
theorem ParentsFirst.apply {env : Env} {cmd : LedgerCommand} {db : LedgerDb} {cs : ChangeSet}
    (h : ParentsFirst db.accounts) (hasked : NewIdUnasked (env, cmd))
    (hwrite : AccountWrite env db cmd cs) (hs : (cs.apply db).Schema) :
    ParentsFirst (cs.apply db).accounts := by
  cases hwrite with
  | untouched added modified =>
    have hsame : (cs.apply db).accounts = db.accounts := by
      simp [ChangeSet.apply, added, modified]
    exact hsame ▸ h
  | created c =>
    refine h.concat fun i hi => ?_
    -- the parent is in the table after the save, and is not the new account
    have hfound := hs.accounts_parent_fkey _ (List.mem_append_right _ List.mem_cons_self) i hi
    obtain hold | hself := List.mem_append.mp (List.map_append ▸ hfound)
    · exact hold
    · have hid : i = env.newGuid 0 := List.mem_singleton.mp hself
      exact absurd (hid ▸ hi) hasked
  | initialized c existing entries added created =>
    exact h.append (ParentsFirst.template Grown.nil created)
  | updated id req =>
    cases hfound : db.getAccountById id with
    | none =>
      show ParentsFirst (db.accounts ++ [])
      rwa [List.append_nil]
    | some account =>
      show ParentsFirst (updateKey (·.id) account.id _ db.accounts ++ [])
      rw [List.append_nil]
      refine h.map (fun r => ?_) fun r => ?_
      · split <;> rfl
      · split <;> rfl

theorem run_parentsFirst (templates : List AccountTemplate) {inputs : List (Env × LedgerCommand)}
    (hasked : ∀ i ∈ inputs, NewIdUnasked i) :
    (run step (LedgerDb.seeded templates) inputs).Schema ∧
      ParentsFirst (run step (LedgerDb.seeded templates) inputs).accounts := by
  refine run_invariant_mem (I := fun db : LedgerDb => db.Schema ∧ ParentsFirst db.accounts) ?_
    ⟨seeded_schema templates, Grown.nil⟩
  intro db hdb i hi
  obtain hsame | ⟨cs, hchanges, hsave⟩ := step_cases db i
  · exact hsame.symm ▸ hdb
  · obtain ⟨hstep, hs⟩ := saveChanges_ok hsave
    rw [hstep] at hs ⊢
    exact ⟨hs, hdb.2.apply (hasked i hi) (changes_accounts hchanges) hs⟩

end ParentsFirst

/-! ## Every run -/

def sampleAccount (id tenant : Guid) (code : String) (parent : Option Guid) :
    Env × LedgerCommand :=
  (Sample.on 1 id, .createAccount ⟨tenant, code, code, .asset, parent, none⟩)

/-- Account 201 of tenant 2 names an account of tenant 1, account 202 names account 201. -/
def sampleChart : List (Env × LedgerCommand) :=
  [sampleAccount 101 1 "1000" none, sampleAccount 201 2 "1000" (some 101),
    sampleAccount 202 2 "1100" (some 201)]

/-- After any commands whatsoever. -/
theorem accountTree_complete (templates : List AccountTemplate)
    {inputs : List (Env × LedgerCommand)} (hasked : ∀ i ∈ inputs, NewIdUnasked i) (T : Guid) :
    ∃ forest, getAccounts (run step (LedgerDb.seeded templates) inputs) T = some forest ∧
      Complete (run step (LedgerDb.seeded templates) inputs) T forest := by
  obtain ⟨hs, hgrown⟩ := run_parentsFirst templates hasked
  exact getAccounts_complete hs hgrown T

theorem accountTree_complete_sample :
    ∃ forest, getAccounts (run step (LedgerDb.seeded []) sampleChart) 2 = some forest ∧
      Complete (run step (LedgerDb.seeded []) sampleChart) 2 forest :=
  accountTree_complete [] (by decide) 2

end AccountEndpoints

end SaasChassis.Ledger
