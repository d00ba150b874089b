/-
  What the books of billing say, against what Stripe announced.

  `recorded` is the invoice row that an input brings, when it brings one, and `receipts` lists them
  over a run. `invoices_run`: whatever calls fail and whatever is delivered twice, the table is
  these receipts by invoice id, each as it came first with the amount and time of its last
  (`folded_paidAgain`). So `getTotalRevenue` is what the last announcement of every invoice says
  (`total_run`), and every receipt belongs to a tenant that was linked before to the customer that
  paid (`recorded_linked`). `revenue_accounted` has it together, with the ways
  `getRevenueByPeriod` and the tenants cut the total up. These are the single methods: the summary
  that calls them all is never answered.
-/
import Mathlib.Data.List.Sort
import Mathlib.Data.String.Basic
import SaasChassis.Billing.Revenue
import SaasChassis.Lib.Upserts

namespace SaasChassis.Billing

open SaasChassis.Lib Faulty

/-! ## RevenueService -/

def paidInvoices (db : BillingDb) : List Invoice := db.invoices.filter (·.status = .paid)

def getTotalRevenue (db : BillingDb) : ℚ := ((paidInvoices db).map (·.amountPaid)).sum

section Periods

-- `TO_CHAR` with the format of the period, in the time zone of the session
variable (toChar : ℤ → String)

/-- Period and amount, where the invoice has a time. -/
def periodRow (invoice : Invoice) : Option (String × ℚ) :=
  invoice.paidAt.map fun paidAt => (toChar paidAt, invoice.amountPaid)

def periodRows (db : BillingDb) : List (String × ℚ) :=
  (paidInvoices db).filterMap (periodRow toChar)

def revenueOf (rows : List (String × ℚ)) : List (String × ℚ) :=
  (groupBy Prod.fst rows).map fun g => (g.1, (g.2.map Prod.snd).sum)

/-- `ORDER BY ... DESC`. -/
abbrev Newer (p q : String × ℚ) : Prop := q.1 ≤ p.1

/-- The newest thirty periods. -/
def getRevenueByPeriod (db : BillingDb) : List (String × ℚ) :=
  ((revenueOf (periodRows toChar db)).insertionSort Newer).take 30

end Periods

def getActiveSubscriptionCount (db : BillingDb) : ℕ :=
  db.subscriptions.countP (·.status = .active)

def getSubscriptionsByPlan (db : BillingDb) : List (String × ℕ) :=
  (groupBy (·.planCode) (db.subscriptions.filter (·.status = .active))).map fun g =>
    (g.1, g.2.length)

/-! ## What an input brings -/

instance (fault : Faults String) (m n : ℕ) : Decidable (Clear fault m n) :=
  decidable_of_iff (∀ i < n, m ≤ i → fault i = none)
    ⟨fun h i hi hlt => h i hlt hi, fun h i hlt hi => h i hi hlt⟩

/-- The invoice row that a delivery brings: it is new, no call up to the write fails and a
    subscription has the customer. -/
def recorded (db : BillingDb) : BillingInput → Option Invoice
  | .webhook env (.ok ⟨id, _, .invoicePaid inv⟩) fault =>
    if db.isProcessed id = false ∧ Clear fault 0 5 then
      (byCustomer inv.customerId db.subscriptions).map fun localSub =>
        inv.paidRow env localSub.tenantId
    else none
  | _ => none

def receipts (db : BillingDb) : List BillingInput → List Invoice
  | [] => []
  | i :: inputs => (recorded db i).toList ++ receipts (db.step i) inputs

/-- The tenant and the customer that an input puts together. -/
def BillingInput.links : BillingInput → Option (String × String)
  | .provisioned _ msg customer _ => some (msg.tenantId, customer)
  | .webhook _ (.ok ⟨_, _, .customerCreated customer⟩) _ =>
    (truthy customer.tenantId).map fun tenantId => (tenantId, customer.id)
  | _ => none

theorem receipts_append (db : BillingDb) (inputs : List BillingInput) (i : BillingInput) :
    receipts db (inputs ++ [i]) =
      receipts db inputs ++ (recorded (run BillingDb.step db inputs) i).toList := by
  induction inputs generalizing db with
  | nil => exact List.append_nil _
  | cons j inputs ih =>
    show (recorded db j).toList ++ receipts (db.step j) (inputs ++ [i]) = _
    rw [ih, ← List.append_assoc]
    rfl

theorem mem_receipts {db : BillingDb} {inputs : List BillingInput} {paid : Invoice} :
    paid ∈ receipts db inputs ↔ ∃ before i after, inputs = before ++ i :: after ∧
      recorded (run BillingDb.step db before) i = some paid := by
  induction inputs generalizing db with
  | nil =>
    refine iff_of_false List.not_mem_nil ?_
    rintro ⟨before, i, after, h, _⟩
    cases before <;> cases h
  | cons j inputs ih =>
    show paid ∈ (recorded db j).toList ++ receipts (db.step j) inputs ↔ _
    rw [List.mem_append, Option.mem_toList, ih]
    constructor
    · rintro (h | ⟨before, i, after, rfl, h⟩)
      · exact ⟨[], j, inputs, rfl, h⟩
      · exact ⟨j :: before, i, after, rfl, h⟩
    · rintro ⟨_ | ⟨k, before⟩, i, after, h, hrec⟩
      · cases h
        exact Or.inl hrec
      · cases h
        exact Or.inr ⟨before, i, after, rfl, hrec⟩

/-! ## The invoices -/

/-- The table of the receipts. -/
abbrev paidUp (rows : List Invoice) : List Invoice :=
  upserts (·.stripeInvoiceId) Invoice.paidAgain rows

theorem id_paidAgain (existing dto : Invoice) :
    (existing.paidAgain dto).stripeInvoiceId = existing.stripeInvoiceId := rfl

theorem invoicesAfter_eq {env : Env} {inv : StripeInvoice} {rows : List Subscription}
    {invoices : List Invoice} {localSub : Subscription}
    (hnd : (invoices.map (·.stripeInvoiceId)).Nodup)
    (hfound : byCustomer inv.customerId rows = some localSub) :
    invoicesAfter env (.invoicePaid inv) rows invoices =
      upsertRow (·.stripeInvoiceId) Invoice.paidAgain (inv.paidRow env localSub.tenantId)
        invoices := by
  have hid : (inv.paidRow env localSub.tenantId).stripeInvoiceId = inv.id := rfl
  simp only [invoicesAfter, hfound, upsertRow, hid]
  cases hfind : findInvoice inv.id invoices with
  | none =>
    rw [if_neg]
    intro hany
    obtain ⟨e, he, hek⟩ := List.any_eq_true.mp hany
    exact List.find?_eq_none.mp hfind e he hek
  | some existing =>
    have hmem := List.mem_of_find?_eq_some hfind
    have hkey : existing.stripeInvoiceId = inv.id := by simpa using List.find?_some hfind
    rw [if_pos (List.any_eq_true.mpr ⟨existing, hmem, by simpa using hkey⟩), ← hkey,
      updateKey_const hnd hmem]
    rfl

theorem invoices_of_books {u v : BillingDb} (h : u.books = v.books) : u.invoices = v.invoices :=
  congrArg Prod.snd h

/-- A delivery of invoice.paid. -/
theorem paid_invoices {db : BillingDb} (hs : db.Schema)
    (hnd : (db.invoices.map (·.stripeInvoiceId)).Nodup) (env : Env) {event : StripeEvent}
    {inv : StripeInvoice} (hdata : event.data = .invoicePaid inv) (fault : Faults String) :
    (db.step (.webhook env (.ok event) fault)).invoices =
      if db.isProcessed event.id = false ∧ Clear fault 0 5 then
        match byCustomer inv.customerId db.subscriptions with
        | some localSub => upsertRow (·.stripeInvoiceId) Invoice.paidAgain
            (inv.paidRow env localSub.tenantId) db.invoices
        | none => db.invoices
      else db.invoices := by
  have hclear5 : Clear fault 0 5 ↔ Clear fault 0 2 ∧ Clear fault 2 (2 + 3) :=
    clear_add (m := 2) (n := 3)
  obtain ⟨⟨hclear, hnew⟩, hbooks⟩ | ⟨hnot, hbooks⟩ := @webhook_books event env fault db
  · rw [BillingDb.step, invoices_of_books hbooks]
    cases hfound : byCustomer inv.customerId db.subscriptions with
    | none =>
      have hnothing := @paid_nothing event inv hdata env (db.stored event) hfound fault 2
      rw [hnothing]
      exact (ite_self _).symm
    | some localSub =>
      have hstored : (db.stored event).Schema := ⟨hs.uq_subscription_tenant⟩
      obtain ⟨hwritten, hpaid⟩ | ⟨hnot, hpaid⟩ := paid_books hdata env hstored hfound fault 2
      · rw [invoices_of_books hpaid, if_pos ⟨hnew, hclear5.mpr ⟨hclear, hwritten⟩⟩, hdata]
        exact invoicesAfter_eq hnd hfound
      · rw [invoices_of_books hpaid, if_neg fun h => hnot (hclear5.mp h.2).2]
        rfl
  · rw [BillingDb.step, invoices_of_books hbooks, if_neg fun h => hnot ⟨(hclear5.mp h.2).1, h.1⟩]

/-- Every other input leaves the invoices alone. -/
theorem other_invoices {db : BillingDb} (hs : db.Schema) {i : BillingInput}
    (hother : ∀ env event inv fault, i = .webhook env (.ok event) fault →
      event.data ≠ .invoicePaid inv) : (db.step i).invoices = db.invoices := by
  cases books_step hs i with
  | same _ _ _ books => exact invoices_of_books books
  | linked _ _ _ _ _ _ _ _ _ _ books => exact (invoices_of_books books :)
  | provisioned _ _ _ _ _ _ _ _ _ books => exact (invoices_of_books books :)
  | paid env event inv fault _ _ _ data => exact absurd data (hother env event inv fault rfl)

/-- One step. -/
theorem invoices_step {db : BillingDb} (hs : db.Schema)
    (hnd : (db.invoices.map (·.stripeInvoiceId)).Nodup) (i : BillingInput) :
    (db.step i).invoices = (recorded db i).toList.foldl
      (fun rows paid => upsertRow (·.stripeInvoiceId) Invoice.paidAgain paid rows) db.invoices := by
  unfold recorded
  split
  next env id created inv fault =>
    rw [paid_invoices hs hnd env rfl fault]
    by_cases h : db.isProcessed id = false ∧ Clear fault 0 5
    · rw [if_pos h, if_pos h]
      cases byCustomer inv.customerId db.subscriptions <;> rfl
    · rw [if_neg h, if_neg h]
      rfl
  next hnone =>
    refine other_invoices hs ?_
    rintro env ⟨id, created, data⟩ inv fault rfl hdata
    cases hdata
    exact hnone _ _ _ _ _ rfl

/-- The table is that of the receipts. -/
theorem invoices_run (inputs : List BillingInput) :
    (run BillingDb.step .empty inputs).invoices = paidUp (receipts .empty inputs) := by
  induction inputs using List.reverseRecOn with
  | nil => rfl
  | append_singleton inputs i ih =>
    have hs := (reachable_sound ⟨inputs, rfl⟩).schema
    have hnd : ((run BillingDb.step .empty inputs).invoices.map (·.stripeInvoiceId)).Nodup := by
      rw [ih]
      exact nodup_upserts id_paidAgain _
    have hstep := invoices_step hs hnd i
    rw [ih] at hstep
    rw [receipts_append, paidUp, upserts, List.foldl_append, run_append]
    exact hstep

theorem recorded_paid {db : BillingDb} {i : BillingInput} {paid : Invoice}
    (h : recorded db i = some paid) :
    ∃ inv env localSub, byCustomer inv.customerId db.subscriptions = some localSub ∧
      paid = StripeInvoice.paidRow env localSub.tenantId inv := by
  unfold recorded at h
  split at h
  next env _ _ inv _ =>
    split at h
    · obtain ⟨localSub, hfound, rfl⟩ := Option.map_eq_some_iff.mp h
      exact ⟨inv, env, localSub, hfound, rfl⟩
    · cases h
  next => cases h

theorem receipts_paid {db : BillingDb} {inputs : List BillingInput} {paid : Invoice}
    (h : paid ∈ receipts db inputs) : paid.status = .paid ∧ paid.paidAt.isSome := by
  obtain ⟨before, i, after, _, hrec⟩ := mem_receipts.mp h
  obtain ⟨inv, env, localSub, _, rfl⟩ := recorded_paid hrec
  exact ⟨rfl, rfl⟩

/-- Several receipts of one invoice: the row of the first with the amount and time of the last. -/
theorem folded_paidAgain {rows : List Invoice}
    (hpaid : ∀ r ∈ rows, r.status = .paid ∧ r.paidAt.isSome) :
    folded Invoice.paidAgain rows = rows.head?.bind fun first => rows.getLast?.map fun last =>
      { first with amountPaid := last.amountPaid, paidAt := last.paidAt } := by
  induction rows using List.reverseRecOn with
  | nil => rfl
  | append_singleton rows r ih =>
    have hr := hpaid r (List.mem_append_right _ (List.mem_singleton_self r))
    rw [folded_append, ih fun q hq => hpaid q (List.mem_append_left _ hq), List.getLast?_concat]
    cases rows with
    | nil => rfl
    | cons q rows =>
      have hq := hpaid q (List.mem_append_left _ List.mem_cons_self)
      obtain ⟨paidAt, hat⟩ := Option.isSome_iff_exists.mp hr.2
      simp [Invoice.paidAgain, List.getLast?_cons, hat, hr.1, hq.1]

/-! ## The customers -/

/-- A new link comes from the input. -/
theorem links_step {db : BillingDb} (hs : db.Schema) (i : BillingInput) {p : String × String}
    (h : p ∈ (db.step i).books.1) : p ∈ db.books.1 ∨ i.links = some p := by
  have hbooks : ∀ {u v : BillingDb}, u.books = v.books → u.books.1 = v.books.1 :=
    congrArg Prod.fst
  cases i with
  | provisioned env msg customer fault =>
    rw [BillingDb.step] at h
    obtain ⟨_, sub, ht, hc, hmade⟩ | ⟨_, hsame⟩ := provisioned_books env msg customer fault db
    · rw [hbooks hmade, BillingDb.books, BillingDb.withSubscriptions, List.map_append] at h
      obtain hold | hnew := List.mem_append.mp h
      · exact Or.inl hold
      · obtain rfl := List.mem_singleton.mp hnew
        exact Or.inr (congrArg some (Prod.ext ht.symm hc.symm))
    · rw [hbooks hsame] at h
      exact Or.inl h
  | webhook env constructed fault =>
    generalize hi : BillingInput.webhook env constructed fault = i at h ⊢
    cases books_step hs i with
    | same _ _ _ books => exact Or.inl (hbooks books ▸ h)
    | paid _ _ _ _ _ _ _ _ _ _ books => exact Or.inl (hbooks books ▸ h)
    | provisioned => cases hi
    | linked env' event customer fault' tenantId _ _ data _ tenant books =>
      rw [hbooks books] at h
      obtain ⟨row, hrow, rfl⟩ := List.mem_map.mp h
      obtain ⟨q, _, hq, rfl⟩ | ⟨hold, _⟩ := mem_updateKey.mp hrow
      · obtain ⟨id, created, _⟩ := event
        cases data
        refine Or.inr ?_
        show (truthy customer.tenantId).map _ = _
        rw [tenant]
        exact congrArg some (Prod.ext hq.symm rfl)
      · exact Or.inl (List.mem_map_of_mem hold)

/-- Every subscription has the customer that some input gave its tenant. -/
theorem links_run (inputs : List BillingInput) {p : String × String}
    (h : p ∈ (run BillingDb.step .empty inputs).books.1) : ∃ i ∈ inputs, i.links = some p := by
  induction inputs using List.reverseRecOn with
  | nil => exact absurd h List.not_mem_nil
  | append_singleton inputs i ih =>
    have hs := (reachable_sound ⟨inputs, rfl⟩).schema
    rw [run_append] at h
    obtain hold | hnew := links_step hs i h
    · obtain ⟨j, hj, hlinks⟩ := ih hold
      exact ⟨j, List.mem_append_left _ hj, hlinks⟩
    · exact ⟨i, List.mem_append_right _ (List.mem_singleton_self i), hnew⟩

/-- What is recorded belongs to a tenant that was linked to its customer before. -/
theorem recorded_linked {before : List BillingInput} {i : BillingInput} {paid : Invoice}
    (h : recorded (run BillingDb.step .empty before) i = some paid) :
    ∃ j ∈ before, j.links = some (paid.tenantId, paid.stripeCustomerId) := by
  obtain ⟨inv, env, localSub, hfound, rfl⟩ := recorded_paid h
  obtain ⟨hmem, hcustomer⟩ := byCustomer_mem hfound
  rw [StripeInvoice.paidRow, ← hcustomer]
  exact links_run before (List.mem_map_of_mem hmem)

/-! ## The total -/

theorem allPaid_run (inputs : List BillingInput) : (run BillingDb.step .empty inputs).AllPaid := by
  have h : (run BillingDb.step .empty inputs).Sound ∧ (run BillingDb.step .empty inputs).AllPaid :=
    run_invariant (I := fun db : BillingDb => db.Sound ∧ db.AllPaid)
      (fun db i h => ⟨h.1.step i, h.2.step h.1 i⟩)
      ⟨reachable_sound ⟨[], rfl⟩, fun _ h => absurd h List.not_mem_nil⟩ inputs
  exact h.2

theorem paidInvoices_eq {db : BillingDb} (hp : db.AllPaid) : paidInvoices db = db.invoices :=
  List.filter_eq_self.mpr fun invoice hi => by simpa using (hp invoice hi).1

/-- The total adds up the last receipt of every invoice. -/
theorem total_run (inputs : List BillingInput) :
    getTotalRevenue (run BillingDb.step .empty inputs) =
      ((groupBy (·.stripeInvoiceId) (receipts .empty inputs)).filterMap fun g =>
        g.2.getLast?.map (·.amountPaid)).sum := by
  rw [getTotalRevenue, paidInvoices_eq (allPaid_run inputs), invoices_run]
  exact sum_upserts id_paidAgain (fun _ _ => rfl) _

/-- The shares of the tenants. -/
theorem total_tenants {db : BillingDb} (hp : db.AllPaid) {tenants : List String}
    (hnd : tenants.Nodup) (hall : ∀ invoice ∈ db.invoices, invoice.tenantId ∈ tenants) :
    (tenants.map fun t => ((db.invoices.filter (·.tenantId = t)).map (·.amountPaid)).sum).sum =
      getTotalRevenue db := by
  rw [sum_keys _ _ hnd, getTotalRevenue, paidInvoices_eq hp,
    List.filter_eq_self.mpr fun invoice hi => by simpa using hall invoice hi]

theorem active_byPlan (db : BillingDb) :
    ((getSubscriptionsByPlan db).map (·.2)).sum = getActiveSubscriptionCount db := by
  have h := sum_groupBy (·.planCode) (fun _ => 1)
    (db.subscriptions.filter (·.status = .active))
  rw [getSubscriptionsByPlan, getActiveSubscriptionCount, List.countP_eq_length_filter,
    List.map_map]
  simpa [Function.comp_def] using h

/-! ## The periods -/

section Periods

variable {toChar : ℤ → String}

/-- The period in which an invoice counts. -/
def Invoice.period (toChar : ℤ → String) (invoice : Invoice) : Option String :=
  invoice.paidAt.map toChar

/-- How the listed periods cut the total up. -/
structure Breakdown (toChar : ℤ → String) (db : BillingDb) (listed : List (String × ℚ)) :
    Prop where
  newestFirst : (listed.map Prod.fst).Pairwise (· > ·)
  amount : ∀ p ∈ listed, p.2 =
    ((db.invoices.filter (·.period toChar = some p.1)).map (·.amountPaid)).sum
  /-- What is missing is missing whole: the periods before the thirtieth. -/
  rest : getTotalRevenue db = (listed.map Prod.snd).sum +
    ((db.invoices.filter fun invoice =>
      (invoice.period toChar).any (· ∉ listed.map Prod.fst)).map (·.amountPaid)).sum
  older : ∀ invoice ∈ db.invoices, ∀ s ∈ invoice.period toChar, s ∉ listed.map Prod.fst →
    listed.length = 30 ∧ ∀ p ∈ listed, s < p.1

/-- The rows of some periods, and the invoices that count in them. -/
theorem sum_periodRows {rows : List Invoice} (hat : ∀ i ∈ rows, ∃ paidAt, i.paidAt = some paidAt)
    (q : String → Bool) :
    (((rows.filterMap (periodRow toChar)).filter (q ·.1)).map Prod.snd).sum =
      ((rows.filter fun i => (i.period toChar).any q).map (·.amountPaid)).sum := by
  induction rows with
  | nil => rfl
  | cons r rows ih =>
    obtain ⟨hr, hrows⟩ := List.forall_mem_cons.mp hat
    obtain ⟨paidAt, hpaidAt⟩ := hr
    have hrow : periodRow toChar r = some (toChar paidAt, r.amountPaid) := by
      rw [periodRow, hpaidAt]
      rfl
    have hperiod : (r.period toChar).any q = q (toChar paidAt) := by
      rw [Invoice.period, hpaidAt]
      rfl
    rw [List.filterMap_cons_some hrow]
    cases hq : q (toChar paidAt) with
    | true => simp [hq, hperiod, ih hrows]
    | false => simp [hq, hperiod, ih hrows]

theorem nodup_revenueOf (rows : List (String × ℚ)) : ((revenueOf rows).map Prod.fst).Nodup := by
  rw [revenueOf, groupBy, List.map_map, List.map_map]
  exact (List.map_id _).symm ▸ nodup_eraseDups _

theorem mem_revenueOf {rows : List (String × ℚ)} {p : String × ℚ} :
    p ∈ revenueOf rows ↔ p.1 ∈ rows.map Prod.fst ∧
      p.2 = ((rows.filter (·.1 = p.1)).map Prod.snd).sum := by
  rw [revenueOf, groupBy, List.map_map, List.mem_map]
  constructor
  · intro h
    obtain ⟨k, hk, rfl⟩ := h
    exact ⟨List.mem_eraseDups.mp hk, rfl⟩
  · intro h
    exact ⟨p.1, List.mem_eraseDups.mpr h.1, Prod.ext rfl h.2.symm⟩

/-- All periods, newest first. -/
theorem sorted_revenueOf (rows : List (String × ℚ)) :
    (((revenueOf rows).insertionSort Newer).map Prod.fst).Pairwise (· > ·) := by
  have hsorted := List.pairwise_insertionSort Newer (revenueOf rows)
  have hnodup := ((List.perm_insertionSort Newer (revenueOf rows)).map Prod.fst).nodup_iff.mpr
    (nodup_revenueOf rows)
  rw [List.pairwise_map]
  rw [List.Nodup, List.pairwise_map] at hnodup
  exact (hsorted.and hnodup).imp fun h => lt_of_le_of_ne h.1 (Ne.symm h.2)

theorem getRevenueByPeriod_breakdown {db : BillingDb} (hp : db.AllPaid) :
    Breakdown toChar db (getRevenueByPeriod toChar db) := by
  have hrows : periodRows toChar db = db.invoices.filterMap (periodRow toChar) := by
    rw [periodRows, paidInvoices_eq hp]
  have hat : ∀ i ∈ db.invoices, ∃ paidAt, i.paidAt = some paidAt := fun i hi => (hp i hi).2
  have hsum : ∀ q : String → Bool,
      (((db.invoices.filterMap (periodRow toChar)).filter (q ·.1)).map Prod.snd).sum = _ :=
    fun q => sum_periodRows hat q
  rw [← hrows] at hsum
  have hsorted := sorted_revenueOf (periodRows toChar db)
  have hmem : ∀ p, p ∈ (revenueOf (periodRows toChar db)).insertionSort Newer ↔
      p ∈ revenueOf (periodRows toChar db) := fun p => List.mem_insertionSort Newer
  rw [getRevenueByPeriod]
  generalize (revenueOf (periodRows toChar db)).insertionSort Newer = all at hsorted hmem ⊢
  have hlisted : (((all.take 30).map Prod.fst)).Pairwise (· > ·) :=
    hsorted.sublist ((List.take_sublist 30 all).map Prod.fst)
  have hamount : ∀ p ∈ all.take 30,
      p.2 = (((periodRows toChar db).filter (·.1 = p.1)).map Prod.snd).sum :=
    fun p h => (mem_revenueOf.mp ((hmem p).mp (List.mem_of_mem_take h))).2
  refine ⟨hlisted, fun p h => ?_, ?_, fun invoice hi s hs hnot => ?_⟩
  · rw [hamount p h, hsum fun s => s = p.1]
    congr 2
    refine List.filter_congr fun i _ => ?_
    cases i.period toChar <;> simp
  · have hlist : ((all.take 30).map Prod.snd).sum =
        (((periodRows toChar db).filter (·.1 ∈ (all.take 30).map Prod.fst)).map Prod.snd).sum := by
      rw [← sum_keys Prod.fst Prod.snd (hlisted.imp fun h => ne_of_gt h), List.map_map]
      exact congrArg List.sum (List.map_congr_left hamount)
    have htotal : getTotalRevenue db = ((periodRows toChar db).map Prod.snd).sum := by
      have h := hsum fun _ => true
      rw [List.filter_true] at h
      rw [h, getTotalRevenue, paidInvoices_eq hp]
      congr 2
      refine (List.filter_eq_self.mpr fun i hi => ?_).symm
      obtain ⟨paidAt, hpaidAt⟩ := hat i hi
      rw [Invoice.period, hpaidAt]
      rfl
    have hparts := ((List.filter_append_perm (fun r : String × ℚ =>
      r.1 ∈ (all.take 30).map Prod.fst) (periodRows toChar db)).map Prod.snd).sum_eq
    rw [htotal, hlist, ← hparts, List.map_append, List.sum_append, ← hsum]
    simp only [decide_not]
  · have hrow : s ∈ (periodRows toChar db).map Prod.fst := by
      obtain ⟨paidAt, hpaidAt, hs'⟩ := Option.map_eq_some_iff.mp hs
      rw [hrows]
      refine List.mem_map.mpr ⟨(s, invoice.amountPaid), ?_, rfl⟩
      refine List.mem_filterMap.mpr ⟨invoice, hi, ?_⟩
      rw [periodRow, hpaidAt, ← hs']
      rfl
    have hin : (s, (((periodRows toChar db).filter (·.1 = s)).map Prod.snd).sum) ∈ all :=
      (hmem _).mpr (mem_revenueOf.mpr ⟨hrow, rfl⟩)
    rw [← List.take_append_drop 30 all] at hin hsorted
    obtain htake | hdrop := List.mem_append.mp hin
    · exact absurd (List.mem_map_of_mem htake) hnot
    · rw [List.map_append, List.pairwise_append] at hsorted
      have hlong : 30 < all.length := by
        by_contra h
        rw [List.drop_eq_nil_of_le (by omega)] at hdrop
        cases hdrop
      refine ⟨List.length_take_of_le hlong.le, fun p h => ?_⟩
      exact hsorted.2.2 _ (List.mem_map_of_mem h) _ (List.mem_map_of_mem hdrop)

end Periods

/-! ## Every run -/

/-- An invoice from the receipts: as it came first, with amount and time of the last. -/
def statement (receipts : List Invoice) (stripeInvoiceId : String) : Option Invoice :=
  let its := receipts.filter (·.stripeInvoiceId = stripeInvoiceId)
  its.head?.bind fun first => its.getLast?.map fun last =>
    { first with amountPaid := last.amountPaid, paidAt := last.paidAt }

/-- The books `db` of a run account for its receipts. -/
structure Accounted (toChar : ℤ → String) (inputs : List BillingInput) (db : BillingDb) :
    Prop where
  /-- One row for every invoice that was announced as paid, in the order of their first receipts. -/
  once : db.invoices.map (·.stripeInvoiceId) =
    ((receipts .empty inputs).map (·.stripeInvoiceId)).eraseDups
  row : ∀ id, findInvoice id db.invoices = statement (receipts .empty inputs) id
  /-- What a receipt comes from, and who was linked to its customer before. -/
  origin : ∀ paid ∈ receipts .empty inputs, ∃ before i after, inputs = before ++ i :: after ∧
    recorded (run BillingDb.step .empty before) i = some paid ∧
      ∃ j ∈ before, j.links = some (paid.tenantId, paid.stripeCustomerId)
  /-- The last receipt of every invoice. -/
  total : getTotalRevenue db = ((groupBy (·.stripeInvoiceId) (receipts .empty inputs)).filterMap
    fun g => g.2.getLast?.map (·.amountPaid)).sum
  tenants : ∀ tenants : List String, tenants.Nodup →
    (∀ invoice ∈ db.invoices, invoice.tenantId ∈ tenants) →
      (tenants.map fun t =>
        ((db.invoices.filter (·.tenantId = t)).map (·.amountPaid)).sum).sum = getTotalRevenue db
  periods : Breakdown toChar db (getRevenueByPeriod toChar db)
  plans : ((getSubscriptionsByPlan db).map (·.2)).sum = getActiveSubscriptionCount db

/-- Whatever is delivered, however often, and whatever calls fail: the queries of RevenueService,
    each by itself, say what Stripe last announced of every invoice. -/
theorem revenue_accounted (toChar : ℤ → String) (inputs : List BillingInput) :
    Accounted toChar inputs (run BillingDb.step .empty inputs) where
  once := by
    rw [invoices_run]
    exact map_key_upserts id_paidAgain _
  row := by
    intro id
    rw [invoices_run, findInvoice, find?_upserts id_paidAgain]
    exact folded_paidAgain fun r hr => receipts_paid (List.mem_of_mem_filter hr)
  origin := by
    intro paid h
    obtain ⟨before, i, after, hinputs, hrec⟩ := mem_receipts.mp h
    exact ⟨before, i, after, hinputs, hrec, recorded_linked hrec⟩
  total := total_run inputs
  tenants := fun _ hnd hall => total_tenants (allPaid_run inputs) hnd hall
  periods := getRevenueByPeriod_breakdown (allPaid_run inputs)
  plans := active_byPlan _

end SaasChassis.Billing
