/-
  The customers of subscriptions and invoices.

  An invoice keeps the Stripe customer it came with, a subscription follows its tenant from customer
  to customer, and nothing keeps two of them from having one. A stored invoice is `Attributed`
  when one subscription has its customer now.

  `webhook_books` and the lemmas after it say what a delivery leaves of links and invoices, whatever
  calls fail. `attributed_always_iff`: in a run every stored invoice is attributed throughout
  exactly when no step takes the customer of a stored invoice from its subscription or gives it to
  another one (`KeepsCustomers`).
-/
import SaasChassis.Billing.Provisioning

namespace SaasChassis.Billing

open SaasChassis.Lib Faulty

/-! ## Attribution -/

/-- How many subscriptions have a customer. -/
def BillingDb.holders (db : BillingDb) (stripeCustomerId : String) : ℕ :=
  db.subscriptions.countP (·.stripeCustomerId = stripeCustomerId)

/-- The invoice belongs to one subscription, by its customer. -/
def BillingDb.Attributed (db : BillingDb) (invoice : Invoice) : Prop :=
  db.holders invoice.stripeCustomerId = 1

/-- Only paid invoices are stored. -/
def BillingDb.AllPaid (db : BillingDb) : Prop :=
  ∀ invoice ∈ db.invoices, invoice.status = .paid ∧ ∃ paidAt, invoice.paidAt = some paidAt

/-! ## What a delivery leaves of links and invoices -/

/-- The customer of each tenant's subscription, and the invoices. -/
def BillingDb.books (db : BillingDb) : List (String × String) × List Invoice :=
  (db.subscriptions.map fun row => (row.tenantId, row.stripeCustomerId), db.invoices)

theorem books_send (env : Env) (ms : List Message) (db : BillingDb) :
    (db.send env ms).books = db.books := by
  rw [BillingDb.books, send_subscriptions, send_invoices]
  rfl

theorem holders_congr {db u : BillingDb} (h : u.books = db.books) (c : String) :
    u.holders c = db.holders c := by
  have hcount : ∀ v : BillingDb, v.holders c = v.books.1.countP (·.2 = c) := by
    intro v
    rw [BillingDb.books, List.countP_map]
    rfl
  rw [hcount, hcount, h]

theorem attributed_congr {db u : BillingDb} (h : u.books = db.books) :
    (∀ invoice ∈ u.invoices, u.Attributed invoice) ↔
      ∀ invoice ∈ db.invoices, db.Attributed invoice := by
  have hinvoices : u.invoices = db.invoices := congrArg Prod.snd h
  simp only [hinvoices, BillingDb.Attributed, holders_congr h]

section Books

variable {B : List (String × String) × List Invoice} {u : BillingDb} {event : StripeEvent}

theorem books_saved (hnd : (B.1.map Prod.fst).Nodup) (hu : u.books = B) {new : Subscription}
    (hmem : (new.tenantId, new.stripeCustomerId) ∈ B.1) :
    (u.withSubscriptions (saveSubscription new)).books = B := by
  rw [← hu] at hnd hmem ⊢
  refine congrArg (·, u.invoices) ?_
  show (updateKey _ _ _ u.subscriptions).map _ = u.subscriptions.map _
  rw [updateKey, List.map_map]
  refine List.map_congr_left fun row hrow => ?_
  by_cases h : row.tenantId = new.tenantId
  · simp only [Function.comp, if_pos h]
    exact nodup_keys_inj hnd hmem (List.mem_map_of_mem hrow) h.symm
  · simp only [Function.comp, if_neg h]

/-- Only customer.created rewrites a link. -/
theorem rewrites_books (hnd : (B.1.map Prod.fst).Nodup) {data : EventData}
    (hlink : ∀ customer, data ≠ .customerCreated customer)
    {f : List Subscription → List Subscription} (hf : Rewrites (·.books = B) data f)
    (hu : u.books = B) : (u.withSubscriptions f).books = B := by
  have hsaved : ∀ {db : BillingDb} {row new : Subscription}, db.books = B →
      row ∈ db.subscriptions → new.tenantId = row.tenantId →
      new.stripeCustomerId = row.stripeCustomerId →
      (u.withSubscriptions (saveSubscription new)).books = B := by
    intro db row new hdb hmem ht hc
    refine books_saved hnd hu ?_
    rw [ht, hc, ← hdb]
    exact List.mem_map_of_mem hmem
  cases hf with
  | link sub row db _ before mem _ => exact hsaved before mem rfl rfl
  | update sub row db _ before mem => exact hsaved before mem rfl rfl
  | cancel row db before mem => exact hsaved before mem rfl rfl
  | status tenantId status =>
    rw [← hu]
    have hcolumns : ∀ g : Subscription → Subscription,
        (∀ row, ((g row).tenantId, (g row).stripeCustomerId) =
          (row.tenantId, row.stripeCustomerId)) →
        (u.withSubscriptions (updateTenant tenantId g)).books = u.books :=
      fun g hg => congrArg (·, u.invoices) (map_updateKey _ hg u.subscriptions)
    exact hcolumns _ fun _ => rfl
  | customer customer tenantId event tenant => exact absurd event (hlink customer)

theorem processEvent_books (hnd : (B.1.map Prod.fst).Nodup)
    (hlink : ∀ customer, event.data ≠ .customerCreated customer)
    (hpaid : ∀ inv, event.data ≠ .invoicePaid inv) (env : Env) :
    Keeps (·.books = B) (processEvent env event) :=
  processEvent_keeps (fun env ms db h => (books_send env ms db).trans h)
    (fun _ hf _ h => rewrites_books hnd hlink hf h) (fun inv h => absurd h (hpaid inv)) env

theorem bind_pure_state {α β : Type} (x : Method α) (b : β) (fault : Faults String) (n : ℕ)
    (db : BillingDb) : ((x >>= fun _ => return b) fault n db).2.2 = (x fault n db).2.2 := by
  rcases hx : x fault n db with ⟨e | _, m, t⟩
  · rw [bind_error _ hx]
  · rw [bind_ok _ hx]
    rfl

theorem attempt_books (env : Env) (fault : Faults String) (n : ℕ) (db : BillingDb) :
    (attempt env event fault n db).2.2.books = (processEvent env event fault n db).2.2.books := by
  rcases hp : processEvent env event fault n db with ⟨e | _, m, t⟩
  · have hrun : attempt env event fault n db = (.error e, m, t) := bind_error _ hp
    rw [hrun]
  · have hrun : attempt env event fault n db = _ := bind_ok _ hp
    rw [hrun]
    have hrest : Keeps (·.books = t.books) (do
        effect fun db : BillingDb => { db with handled := event.id :: db.handled }
        write (·.withWebhookEvents (updateWebhookEvent event.id (markProcessed env))) :
          Method Unit) := by
      refine Keeps.bind (Keeps.effect ?_) fun _ => Keeps.write ?_
      · exact fun _ h => h
      · exact fun _ h => h
    exact hrest fault m t rfl

theorem caught_books (env : Env) (fault : Faults String) (n : ℕ) (db : BillingDb) :
    ((attempt env event).tryCatch (recordFailure event) fault n db).2.2.books =
      (processEvent env event fault n db).2.2.books := by
  rw [← attempt_books]
  rcases hr : attempt env event fault n db with ⟨e | _, m, t⟩
  · have hrecord : Keeps (·.books = t.books) (recordFailure event e) := by
      refine Keeps.write ?_
      exact fun _ h => h
    rw [tryCatch_error _ hr]
    exact hrecord fault m t rfl
  · rw [tryCatch_ok _ hr]

/-- The endpoint around the handler: what is left is what the handler leaves, if it runs. -/
theorem webhook_books (env : Env) (fault : Faults String) (db : BillingDb) :
    ((Clear fault 0 2 ∧ db.isProcessed event.id = false) ∧
      (handleWebhook env (.ok event) fault 0 db).2.2.books =
        (processEvent env event fault 2 (db.stored event)).2.2.books) ∨
    (¬ (Clear fault 0 2 ∧ db.isProcessed event.id = false) ∧
      (handleWebhook env (.ok event) fault 0 db).2.2.books = db.books) := by
  cases h0 : fault 0 with
  | some e =>
    have hrun : handleWebhook env (.ok event) fault 0 db = (.error e, 1, db) :=
      bind_error _ (call_error _ h0 db)
    refine Or.inr ⟨fun h => ?_, by rw [hrun]⟩
    rw [h.1 0 (Nat.le_refl 0) (by decide)] at h0
    cases h0
  | none =>
    cases hp : db.isProcessed event.id with
    | true =>
      have hrun : handleWebhook env (.ok event) fault 0 db =
          (if db.isProcessed event.id then return duplicate else store env event) fault 1 db :=
        bind_ok _ (call_ok _ h0 db)
      rw [hp, if_pos rfl] at hrun
      refine Or.inr ⟨fun h => Bool.noConfusion h.2, ?_⟩
      rw [hrun]
      rfl
    | false =>
      have hread : handleWebhook env (.ok event) fault 0 db =
          (if db.isProcessed event.id then return duplicate else store env event) fault 1 db :=
        bind_ok _ (call_ok _ h0 db)
      rw [hp, if_neg Bool.false_ne_true] at hread
      rw [hread]
      cases h1 : fault 1 with
      | some e =>
        have hrun : store env event fault 1 db = (.error e, 2, db) :=
          bind_error _ (call_error _ h1 db)
        refine Or.inr ⟨fun h => ?_, by rw [hrun]⟩
        rw [h.1 1 (by decide) (by decide)] at h1
        cases h1
      | none =>
        have hclear : Clear fault 0 2 := clear_succ.mpr ⟨clear_succ.mpr ⟨fun i _ hi => absurd hi
          (Nat.not_lt_zero i), h0⟩, h1⟩
        refine Or.inl ⟨⟨hclear, rfl⟩, ?_⟩
        have hrun : store env event fault 1 db = ((attempt env event).tryCatch
            (recordFailure event) >>= fun _ => return received) fault 2 (db.stored event) :=
          bind_ok _ (call_ok _ h1 db)
        rw [hrun, bind_pure_state]
        exact caught_books env fault 2 (db.stored event)

/-- customer.created: one write, of the link. -/
theorem link_books {customer : StripeCustomer} {tenantId : String}
    (hevent : event.data = .customerCreated customer)
    (htenant : truthy customer.tenantId = some tenantId) (env : Env) (fault : Faults String)
    (n : ℕ) (db : BillingDb) :
    (processEvent env event fault n db).2.2 =
      if fault n = none then
        db.withSubscriptions (updateTenant tenantId ({ · with stripeCustomerId := customer.id }))
      else db := by
  have hhandler : processEvent env event =
      SubscriptionsService.linkStripeCustomerId tenantId customer.id := by
    unfold processEvent
    rw [hevent]
    show handleCustomerCreated customer = _
    unfold handleCustomerCreated
    rw [htenant]
  rw [hhandler]
  exact write_state _ fault n db

/-- A customer of no tenant. -/
theorem link_nothing {customer : StripeCustomer} (hevent : event.data = .customerCreated customer)
    (htenant : truthy customer.tenantId = none) (env : Env) (fault : Faults String) (n : ℕ)
    (db : BillingDb) : (processEvent env event fault n db).2.2 = db := by
  unfold processEvent
  rw [hevent]
  show (handleCustomerCreated customer fault n db).2.2 = db
  unfold handleCustomerCreated
  rw [htenant]
  rfl

/-- The upsert writes the invoice or, when a call fails, nothing. -/
theorem upsert_books (dto : Invoice) (fault : Faults String) (n : ℕ) (db : BillingDb) :
    ((upsertFromStripe dto fault n db).1.isOk ↔ Clear fault n (n + 2)) ∧
      (upsertFromStripe dto fault n db).2.2.books =
        if (upsertFromStripe dto fault n db).1.isOk then
          (db.withInvoices fun _ =>
            match findInvoice dto.stripeInvoiceId db.invoices with
            | some existing => saveInvoice (existing.paidAgain dto) db.invoices
            | none => db.invoices ++ [dto]).books
        else db.books := by
  have hruns := runs_upsert dto db
  have hkeeps : KeepsOnError (· = db) (upsertFromStripe dto) := by
    refine KeepsOnError.bind (Keeps.query _) fun found => ?_
    cases found with
    | none => exact KeepsOnError.write _
    | some existing => exact KeepsOnError.write _
  obtain ⟨hclear, hok⟩ | ⟨hfails, e, k, herror⟩ := hkeeps.outcome hruns fault n
  · rw [hok]
    exact ⟨iff_of_true rfl hclear, (if_pos rfl).symm⟩
  · rw [herror]
    exact ⟨iff_of_false Bool.false_ne_true hfails, rfl⟩

/-- What comes after the upsert writes neither links nor invoices. -/
theorem recover_books (hnd : (B.1.map Prod.fst).Nodup) (env : Env) (inv : StripeInvoice)
    (localSub : Subscription) : Keeps (·.books = B) (do
      publish env "chassis.audit" "billing.payment.succeeded"
        (inv.paymentSucceeded env localSub.tenantId)
      if localSub.status = .pastDue then
        SubscriptionsService.updateStatusByTenantId localSub.tenantId .active
        publishSubscriptionStatus env inv.customerId SubscriptionStatus.active.text none :
      Method Unit) := by
  have hsend : ∀ env ms db, BillingDb.books db = B → (BillingDb.send env ms db).books = B :=
    fun env ms db h => (books_send env ms db).trans h
  have hstatus : Keeps (·.books = B)
      (SubscriptionsService.updateStatusByTenantId localSub.tenantId .active) :=
    @keeps_setStatus _ (.other "")
      (fun f hf u hu => rewrites_books hnd (fun _ => EventData.noConfusion) hf hu) _ _
  refine (keeps_publish hsend _ _ _ _).bind fun _ => ?_
  split
  · exact hstatus.bind fun _ => keeps_status hsend _ _ _ _
  · exact Keeps.pure ()

theorem paid_handler {inv : StripeInvoice} (hevent : event.data = .invoicePaid inv) (env : Env) :
    processEvent env event = handleInvoicePaid env inv := by
  unfold processEvent
  rw [hevent]

/-- invoice.paid: the invoice is stored when the three calls up to its write succeed. -/
theorem paid_books {inv : StripeInvoice} (hevent : event.data = .invoicePaid inv) (env : Env)
    {db : BillingDb} (hs : db.Schema) {localSub : Subscription}
    (hfound : byCustomer inv.customerId db.subscriptions = some localSub) (fault : Faults String)
    (n : ℕ) :
    (Clear fault n (n + 3) ∧ (processEvent env event fault n db).2.2.books =
      (db.withInvoices (invoicesAfter env event.data db.subscriptions)).books) ∨
    (¬ Clear fault n (n + 3) ∧ (processEvent env event fault n db).2.2.books = db.books) := by
  rw [paid_handler hevent, hevent]
  cases hn : fault n with
  | some e =>
    have hrun : handleInvoicePaid env inv fault n db = (.error e, n + 1, db) :=
      bind_error _ (call_error _ hn db)
    refine Or.inr ⟨fun h => ?_, by rw [hrun]⟩
    rw [h n (Nat.le_refl n) (by omega)] at hn
    cases hn
  | none =>
    have hread : handleInvoicePaid env inv fault n db = _ := bind_ok _ (call_ok _ hn db)
    simp only [hfound] at hread
    rw [hread]
    have hupsert := upsert_books (inv.paidRow env localSub.tenantId) fault (n + 1) db
    rcases hr : upsertFromStripe (inv.paidRow env localSub.tenantId) fault (n + 1) db with
      ⟨e | _, m, t⟩
    · rw [hr] at hupsert
      rw [bind_error _ hr]
      refine Or.inr ⟨fun h => ?_, hupsert.2⟩
      exact Bool.noConfusion (hupsert.1.mpr fun i hi hlt => h i (by omega) (by omega))
    · rw [hr] at hupsert
      have hclear := hupsert.1.mp rfl
      have htenants : (t.books.1.map Prod.fst).Nodup := by
        rw [hupsert.2]
        show ((db.subscriptions.map fun row => (row.tenantId, row.stripeCustomerId)).map _).Nodup
        rw [List.map_map]
        exact hs.uq_subscription_tenant
      have hrest := recover_books htenants env inv localSub fault m t rfl
      rw [bind_ok _ hr]
      refine Or.inl ⟨fun i hi hlt => ?_, hrest.trans ?_⟩
      · obtain rfl | hlt' : i = n ∨ n + 1 ≤ i := by omega
        · exact hn
        · exact hclear i hlt' (by omega)
      · refine (hupsert.2.trans (if_pos rfl)).trans ?_
        simp only [BillingDb.books, BillingDb.withInvoices, invoicesAfter, hfound]
        rfl

theorem paid_nothing {inv : StripeInvoice} (hevent : event.data = .invoicePaid inv) (env : Env)
    {db : BillingDb} (hnone : byCustomer inv.customerId db.subscriptions = none)
    (fault : Faults String) (n : ℕ) : (processEvent env event fault n db).2.2 = db := by
  rw [paid_handler hevent]
  cases hn : fault n with
  | some e =>
    have hrun : handleInvoicePaid env inv fault n db = (.error e, n + 1, db) :=
      bind_error _ (call_error _ hn db)
    rw [hrun]
  | none =>
    have hread : handleInvoicePaid env inv fault n db = _ := bind_ok _ (call_ok _ hn db)
    simp only [hnone] at hread
    rw [hread]
    rfl

/-- What `create` writes, and when. -/
theorem create_books (dto : SubscriptionsService.CreateSubscriptionDto) (fault : Faults String)
    (n : ℕ) (db : BillingDb) :
    ((Clear fault n (n + 2) ∧ byTenant dto.tenantId db.subscriptions = none) ∧
      ∃ sub : Subscription, sub.tenantId = dto.tenantId ∧
        sub.stripeCustomerId = dto.stripeCustomerId ∧
        (SubscriptionsService.create dto fault n db).2.2 = db.withSubscriptions (· ++ [sub])) ∨
    (¬ (Clear fault n (n + 2) ∧ byTenant dto.tenantId db.subscriptions = none) ∧
      (SubscriptionsService.create dto fault n db).2.2 = db) := by
  cases hn : fault n with
  | some e =>
    have hrun : SubscriptionsService.create dto fault n db = (.error e, n + 1, db) :=
      bind_error _ (call_error _ hn db)
    refine Or.inr ⟨fun h => ?_, by rw [hrun]⟩
    rw [h.1 n (Nat.le_refl n) (by omega)] at hn
    cases hn
  | none =>
    cases hrow : byTenant dto.tenantId db.subscriptions with
    | some sub =>
      have hread : SubscriptionsService.create dto fault n db = _ := bind_ok _ (call_ok _ hn db)
      simp only [hrow] at hread
      rw [hread]
      exact Or.inr ⟨fun h => (by cases h.2), rfl⟩
    | none =>
      have hread : SubscriptionsService.create dto fault n db = _ := bind_ok _ (call_ok _ hn db)
      simp only [hrow] at hread
      have hwrite := write_state (·.withSubscriptions (· ++ [(
        { tenantId := dto.tenantId
          stripeCustomerId := dto.stripeCustomerId
          stripeSubscriptionId := dto.stripeSubscriptionId
          planCode := dto.planCode
          status := dto.status.getD .trialing
          currentPeriodStart := none
          currentPeriodEnd := none
          cancelAtPeriodEnd := false } : Subscription)])) fault (n + 1) db
      rw [hread, bind_pure_state]
      cases hn' : fault (n + 1) with
      | some e =>
        rw [hn', if_neg (Option.some_ne_none e)] at hwrite
        refine Or.inr ⟨fun h => ?_, hwrite⟩
        rw [h.1 (n + 1) (by omega) (by omega)] at hn'
        cases hn'
      | none =>
        rw [hn', if_pos rfl] at hwrite
        refine Or.inl ⟨⟨fun i hi hlt => ?_, rfl⟩, _, ?_, ?_, hwrite⟩
        · obtain rfl | rfl : i = n ∨ i = n + 1 := by omega
          · exact hn
          · exact hn'
        · rfl
        · rfl

/-- tenant.provisioned: a row is made when the three calls up to its write succeed and the tenant
    has none. -/
theorem provisioned_books (env : Env) (msg : TenantProvisionedEvent) (customer : String)
    (fault : Faults String) (db : BillingDb) :
    ((Clear fault 0 3 ∧ byTenant msg.tenantId db.subscriptions = none) ∧
      ∃ sub : Subscription, sub.tenantId = msg.tenantId ∧ sub.stripeCustomerId = customer ∧
        (onTenantProvisioned env msg customer fault 0 db).2.2.books =
          (db.withSubscriptions (· ++ [sub])).books) ∨
    (¬ (Clear fault 0 3 ∧ byTenant msg.tenantId db.subscriptions = none) ∧
      (onTenantProvisioned env msg customer fault 0 db).2.2.books = db.books) := by
  have hcaught : ∀ {x : Method Unit} {r : Except String Unit × ℕ × BillingDb},
      x fault 0 db = r → (x.tryCatch (fun _ => return) fault 0 db).2.2 = r.2.2 := by
    rintro x ⟨e | a, m, t⟩ hx
    · rw [tryCatch_error _ hx]
      rfl
    · rw [tryCatch_ok _ hx]
  cases h0 : fault 0 with
  | some e =>
    refine Or.inr ⟨fun h => ?_, congrArg _ (hcaught (bind_error _ (call_error _ h0 db)))⟩
    rw [h.1 0 (Nat.le_refl 0) (by decide)] at h0
    cases h0
  | none =>
    have hclear : Clear fault 0 3 ↔ Clear fault 1 (1 + 2) := by
      refine ⟨fun h i hi hlt => h i i.zero_le hlt, fun h i _ hlt => ?_⟩
      obtain rfl | hi : i = 0 ∨ 1 ≤ i := by omega
      · exact h0
      · exact h i hi hlt
    have hstate : (onTenantProvisioned env msg customer fault 0 db).2.2 = _ :=
      hcaught (bind_ok _ (call_ok _ h0 db))
    have hpublish : ∀ dto : SubscriptionsService.CreateSubscriptionDto,
        ((SubscriptionsService.create dto >>= fun _ => publish env "chassis.tenants"
          "billing.synced" (.billingSynced msg.tenantId customer)) fault 1 db).2.2.books =
            (SubscriptionsService.create dto fault 1 db).2.2.books := by
      intro dto
      rcases hr : SubscriptionsService.create dto fault 1 db with ⟨e | sub, m, t⟩
      · rw [bind_error _ hr]
      · rw [bind_ok _ hr]
        exact books_send env _ t
    rw [hclear, congrArg BillingDb.books hstate, hpublish]
    rcases create_books (msg.dto customer) fault 1 db with ⟨hmade, sub, ht, hc, hrun⟩ | ⟨hnot, hrun⟩
    · exact Or.inl ⟨hmade, sub, ht, hc, congrArg BillingDb.books hrun⟩
    · exact Or.inr ⟨hnot, congrArg BillingDb.books hrun⟩

end Books

/-! ## One step -/

/-- No stored invoice came with the customer. -/
def BillingDb.Unbilled (db : BillingDb) (stripeCustomerId : String) : Prop :=
  ∀ invoice ∈ db.invoices, invoice.stripeCustomerId ≠ stripeCustomerId

/-- The customers of stored invoices stay with the one subscription they belong to: a delivery of
    customer.created that is taken up and has its write succeed moves a subscription neither from
    such a customer nor to one, a tenant is not provisioned with one, and an invoice is new only
    for a customer that no second subscription has. -/
def KeepsCustomers (db : BillingDb) : BillingInput → Prop
  | .webhook _ (.error _) _ => True
  | .webhook _ (.ok event) fault =>
    db.isProcessed event.id = false →
      match event.data with
      | .customerCreated customer =>
        Clear fault 0 3 → ∀ row ∈ db.subscriptions, truthy customer.tenantId = some row.tenantId →
          row.stripeCustomerId ≠ customer.id →
            db.Unbilled row.stripeCustomerId ∧ db.Unbilled customer.id
      | .invoicePaid inv =>
        Clear fault 0 5 → findInvoice inv.id db.invoices = none → db.holders inv.customerId ≤ 1
      | _ => True
  | .provisioned _ msg customer fault =>
    Clear fault 0 3 → byTenant msg.tenantId db.subscriptions = none → db.Unbilled customer

/-- What a step leaves of links and invoices. -/
inductive BooksStep (db : BillingDb) : BillingInput → BillingDb → Prop
  | same (i : BillingInput) (u : BillingDb) (keeps : KeepsCustomers db i)
      (books : u.books = db.books) : BooksStep db i u
  | linked (env : Env) (event : StripeEvent) (customer : StripeCustomer) (fault : Faults String)
      (tenantId : String) (u : BillingDb) (new : db.isProcessed event.id = false)
      (data : event.data = .customerCreated customer) (clear : Clear fault 0 3)
      (tenant : truthy customer.tenantId = some tenantId)
      (books : u.books = (db.withSubscriptions
        (updateTenant tenantId ({ · with stripeCustomerId := customer.id }))).books) :
      BooksStep db (.webhook env (.ok event) fault) u
  | paid (env : Env) (event : StripeEvent) (inv : StripeInvoice) (fault : Faults String)
      (localSub : Subscription) (u : BillingDb) (new : db.isProcessed event.id = false)
      (data : event.data = .invoicePaid inv) (clear : Clear fault 0 5)
      (found : byCustomer inv.customerId db.subscriptions = some localSub)
      (books : u.books = (db.withInvoices (invoicesAfter env event.data db.subscriptions)).books) :
      BooksStep db (.webhook env (.ok event) fault) u
  | provisioned (env : Env) (msg : TenantProvisionedEvent) (customer : String)
      (fault : Faults String) (sub : Subscription) (u : BillingDb) (clear : Clear fault 0 3)
      (new : byTenant msg.tenantId db.subscriptions = none)
      (link : sub.stripeCustomerId = customer)
      (books : u.books = (db.withSubscriptions (· ++ [sub])).books) :
      BooksStep db (.provisioned env msg customer fault) u

theorem holders_none {db : BillingDb} {c : String} (h : byCustomer c db.subscriptions = none) :
    db.holders c = 0 := by
  refine List.countP_eq_zero.mpr fun row hrow => ?_
  exact List.find?_eq_none.mp h row hrow

theorem holders_some {db : BillingDb} {c : String} {row : Subscription}
    (h : byCustomer c db.subscriptions = some row) : 0 < db.holders c := by
  refine List.countP_pos_iff.mpr ⟨row, (byCustomer_mem h).1, ?_⟩
  simpa using (byCustomer_mem h).2

/-- A webhook whose handler starts. -/
theorem books_started {db : BillingDb} (hs : db.Schema) (env : Env) (event : StripeEvent)
    (fault : Faults String) {u : BillingDb} (hclear : Clear fault 0 2)
    (hnew : db.isProcessed event.id = false)
    (hu : u.books = (processEvent env event fault 2 (db.stored event)).2.2.books) :
    BooksStep db (.webhook env (.ok event) fault) u := by
  have hnd : (db.books.1.map Prod.fst).Nodup := by
    rw [BillingDb.books, List.map_map]
    exact hs.uq_subscription_tenant
  have hothers : (∀ customer, event.data ≠ .customerCreated customer) →
      (∀ inv, event.data ≠ .invoicePaid inv) →
      BooksStep db (.webhook env (.ok event) fault) u := by
    intro hlink hpaid
    refine .same _ _ (fun _ => ?_) (hu.trans ?_)
    · split
      next customer hdata => exact absurd hdata (hlink customer)
      next inv hdata => exact absurd hdata (hpaid inv)
      next => exact trivial
    · exact processEvent_books hnd hlink hpaid env fault 2 (db.stored event) rfl
  cases hdata : event.data with
  | customerCreated customer =>
    cases htenant : truthy customer.tenantId with
    | none =>
      rw [link_nothing hdata htenant] at hu
      refine .same _ _ (fun _ => ?_) hu
      rw [hdata]
      intro _ row _ ht
      cases htenant.symm.trans ht
    | some tenantId =>
      rw [link_books hdata htenant] at hu
      cases hcall : fault 2 with
      | none =>
        rw [if_pos hcall] at hu
        exact .linked env event customer fault tenantId u hnew hdata
          (clear_succ.mpr ⟨hclear, hcall⟩) htenant hu
      | some e =>
        rw [hcall, if_neg (Option.some_ne_none e)] at hu
        refine .same _ _ (fun _ => ?_) hu
        rw [hdata]
        intro hall
        rw [hall 2 (by decide) (by decide)] at hcall
        cases hcall
  | invoicePaid inv =>
    cases hfound : byCustomer inv.customerId db.subscriptions with
    | none =>
      have hnothing := @paid_nothing event inv hdata env (db.stored event) hfound fault 2
      rw [hnothing] at hu
      refine .same _ _ (fun _ => ?_) hu
      rw [hdata]
      intro _ _
      rw [holders_none hfound]
      exact Nat.zero_le 1
    | some localSub =>
      have hstored : (db.stored event).Schema := ⟨hs.uq_subscription_tenant⟩
      obtain ⟨hwritten, hbooks⟩ | ⟨hnot, hbooks⟩ := paid_books hdata env hstored hfound fault 2
      · exact .paid env event inv fault localSub u hnew hdata (clear_add.mpr ⟨hclear, hwritten⟩)
          hfound (hu.trans hbooks)
      · refine .same _ _ (fun _ => ?_) (hu.trans hbooks)
        rw [hdata]
        exact fun hall => absurd (clear_add (m := 2) (n := 3) |>.mp hall).2 hnot
  | subscriptionCreated sub => exact hothers (by simp [hdata]) (by simp [hdata])
  | subscriptionUpdated sub => exact hothers (by simp [hdata]) (by simp [hdata])
  | subscriptionDeleted sub => exact hothers (by simp [hdata]) (by simp [hdata])
  | invoicePaymentFailed inv => exact hothers (by simp [hdata]) (by simp [hdata])
  | other eventType => exact hothers (by simp [hdata]) (by simp [hdata])

theorem books_step {db : BillingDb} (hs : db.Schema) (i : BillingInput) :
    BooksStep db i (db.step i) := by
  cases i with
  | webhook env constructed fault =>
    cases constructed with
    | error message => exact .same _ _ trivial rfl
    | ok event =>
      obtain ⟨⟨hclear, hnew⟩, hbooks⟩ | ⟨hnot, hbooks⟩ := @webhook_books event env fault db
      · exact books_started hs env event fault hclear hnew hbooks
      · refine .same _ _ (fun hnew => ?_) hbooks
        have hlate : ∀ {n}, ¬ Clear fault 0 (2 + n) := fun hall =>
          hnot ⟨fun i hi hlt => hall i hi (by omega), hnew⟩
        split
        · exact fun hall => absurd hall (hlate (n := 1))
        · exact fun hall => absurd hall (hlate (n := 3))
        · exact trivial
  | provisioned env msg customer fault =>
    obtain ⟨⟨hclear, hnone⟩, sub, _, hlink, hbooks⟩ | ⟨hnot, hbooks⟩ :=
      provisioned_books env msg customer fault db
    · exact .provisioned env msg customer fault sub _ hclear hnone hlink hbooks
    · exact .same _ _ (fun hclear hnone => absurd ⟨hclear, hnone⟩ hnot) hbooks

/-- A stored invoice after a paid one: an old one, the one that was paid again, or a new one. -/
theorem mem_invoicesAfter {env : Env} {inv : StripeInvoice} {db : BillingDb}
    {localSub : Subscription} (hfound : byCustomer inv.customerId db.subscriptions = some localSub)
    {invoice : Invoice}
    (h : invoice ∈ invoicesAfter env (.invoicePaid inv) db.subscriptions db.invoices) :
    invoice ∈ db.invoices ∨
    (∃ existing ∈ db.invoices,
      invoice = existing.paidAgain (inv.paidRow env localSub.tenantId)) ∨
    (findInvoice inv.id db.invoices = none ∧ invoice = inv.paidRow env localSub.tenantId) := by
  simp only [invoicesAfter, hfound] at h
  cases hf : findInvoice inv.id db.invoices with
  | some existing =>
    rw [hf] at h
    obtain ⟨_, _, _, rfl⟩ | ⟨hold, _⟩ := mem_updateKey.mp h
    · exact Or.inr (Or.inl ⟨existing, List.mem_of_find?_eq_some hf, rfl⟩)
    · exact Or.inl hold
  | none =>
    rw [hf] at h
    obtain hold | hnew := List.mem_append.mp h
    · exact Or.inl hold
    · exact Or.inr (Or.inr ⟨rfl, List.mem_singleton.mp hnew⟩)

theorem BillingDb.AllPaid.step {db : BillingDb} (hs : db.Sound) (hp : db.AllPaid)
    (i : BillingInput) : (db.step i).AllPaid := by
  have hsame : ∀ {u v : BillingDb}, u.books = v.books → v.AllPaid → u.AllPaid := by
    intro u v h hv
    have hinvoices : u.invoices = v.invoices := congrArg Prod.snd h
    rw [AllPaid, hinvoices]
    exact hv
  cases books_step hs.schema i with
  | same _ _ _ books => exact hsame books hp
  | linked _ _ _ _ _ _ _ _ _ _ books => exact hsame books hp
  | provisioned _ _ _ _ _ _ _ _ _ books => exact hsame books hp
  | paid env event inv fault localSub _ _ data _ found books =>
    refine hsame books fun invoice hi => ?_
    rw [data] at hi
    obtain hold | ⟨existing, _, rfl⟩ | ⟨_, rfl⟩ := mem_invoicesAfter found hi
    · exact hp invoice hold
    · exact ⟨rfl, env.now, rfl⟩
    · exact ⟨rfl, env.now, rfl⟩

/-- The re-link of one subscription. -/
theorem attributed_link {db : BillingDb} (hs : db.Schema)
    (hall : ∀ invoice ∈ db.invoices, db.Attributed invoice) (tenantId c : String) :
    (∀ row ∈ db.subscriptions, tenantId = row.tenantId → row.stripeCustomerId ≠ c →
      db.Unbilled row.stripeCustomerId ∧ db.Unbilled c) ↔
    ∀ invoice ∈ db.invoices,
      (db.withSubscriptions (updateTenant tenantId ({ · with stripeCustomerId := c }))).Attributed
        invoice := by
  by_cases hrow : ∃ row ∈ db.subscriptions, tenantId = row.tenantId
  · obtain ⟨row, hmem, rfl⟩ := hrow
    have honly : ∀ q ∈ db.subscriptions, row.tenantId = q.tenantId → q = row :=
      fun q hq h => (nodup_keys_inj hs.uq_subscription_tenant hmem hq h).symm
    have hcount : ∀ x, (db.withSubscriptions
        (updateTenant row.tenantId ({ · with stripeCustomerId := c }))).holders x +
          (if row.stripeCustomerId = x then 1 else 0) = db.holders x + if c = x then 1 else 0 := by
      intro x
      have h := countP_updateKey (f := ({ · with stripeCustomerId := c }))
        hs.uq_subscription_tenant hmem (·.stripeCustomerId = x)
      simp only [decide_eq_true_eq] at h
      exact h
    constructor
    · intro h invoice hi
      have hone : db.holders invoice.stripeCustomerId = 1 := hall invoice hi
      have hmoved := hcount invoice.stripeCustomerId
      show BillingDb.holders _ _ = 1
      by_cases hc : row.stripeCustomerId = c
      · rw [hc] at hmoved
        omega
      · obtain ⟨hfrom, hto⟩ := h row hmem rfl hc
        rw [if_neg (hfrom invoice hi).symm, if_neg (hto invoice hi).symm] at hmoved
        omega
    · intro h q hq hqt hc
      rw [honly q hq hqt] at hc ⊢
      have hstays : ∀ invoice ∈ db.invoices, (if row.stripeCustomerId = invoice.stripeCustomerId
          then 1 else 0) = if c = invoice.stripeCustomerId then 1 else 0 := by
        intro invoice hi
        have hone : db.holders invoice.stripeCustomerId = 1 := hall invoice hi
        have hafter : BillingDb.holders _ _ = 1 := h invoice hi
        have hmoved := hcount invoice.stripeCustomerId
        omega
      constructor
      · intro invoice hi he
        have heq := hstays invoice hi
        rw [if_pos he.symm, if_neg fun h => hc (he.symm.trans h.symm)] at heq
        cases heq
      · intro invoice hi he
        have heq := hstays invoice hi
        rw [if_pos he.symm, if_neg fun h => hc (h.trans he)] at heq
        cases heq
  · push Not at hrow
    have hsame : db.withSubscriptions (updateTenant tenantId ({ · with stripeCustomerId := c })) =
        db := by
      rw [BillingDb.withSubscriptions, updateTenant, updateKey_of_notMem fun q hq h =>
        hrow q hq h.symm]
    rw [hsame]
    exact iff_of_true (fun row hmem ht => absurd ht (hrow row hmem)) hall

/-- Exactly the condition: after the step each stored invoice still belongs to one
    subscription. -/
theorem keepsCustomers_iff {db : BillingDb} (hs : db.Schema)
    (hall : ∀ invoice ∈ db.invoices, db.Attributed invoice) (i : BillingInput) :
    KeepsCustomers db i ↔ ∀ invoice ∈ (db.step i).invoices, (db.step i).Attributed invoice := by
  cases books_step hs i with
  | same _ _ keeps books => exact iff_of_true keeps ((attributed_congr books).mpr hall)
  | linked env event customer fault tenantId _ new data clear tenant books =>
    rw [attributed_congr books]
    refine Iff.trans ?_ (attributed_link hs hall tenantId customer.id)
    simp only [KeepsCustomers, new, data, tenant, clear, true_implies, Option.some.injEq]
  | paid env event inv fault localSub _ new data clear found books =>
    rw [attributed_congr books]
    simp only [KeepsCustomers, new, data, clear, true_implies]
    constructor
    · intro h invoice hi
      obtain hold | ⟨existing, hmem, rfl⟩ | ⟨hnone, rfl⟩ := mem_invoicesAfter found hi
      · exact hall invoice hold
      · exact hall existing hmem
      · exact Nat.le_antisymm (h hnone) (holders_some found)
    · intro h hnone
      have hnew : inv.paidRow env localSub.tenantId ∈
          invoicesAfter env (.invoicePaid inv) db.subscriptions db.invoices := by
        simp only [invoicesAfter, found, hnone]
        exact List.mem_append_right _ (List.mem_singleton_self _)
      exact Nat.le_of_eq (h _ hnew)
  | provisioned env msg customer fault sub _ clear new link books =>
    rw [attributed_congr books]
    simp only [KeepsCustomers, clear, new, true_implies]
    have hcount : ∀ x, (db.withSubscriptions (· ++ [sub])).holders x =
        db.holders x + if customer = x then 1 else 0 := by
      intro x
      show (db.subscriptions ++ [sub]).countP _ = _
      rw [List.countP_append, List.countP_singleton, link]
      simp only [decide_eq_true_eq]
      rfl
    refine forall₂_congr fun invoice hi => ?_
    have hone : db.holders invoice.stripeCustomerId = 1 := hall invoice hi
    show _ ↔ BillingDb.holders _ _ = 1
    rw [hcount, hone]
    by_cases h : customer = invoice.stripeCustomerId
    · rw [if_pos h]
      exact iff_of_false (fun hne => hne h.symm) (by decide)
    · rw [if_neg h]
      exact iff_of_true (fun he => h he.symm) rfl

/-! ## Every run -/

/-- Every stored invoice has its one subscription throughout a run exactly when each step leaves the
    customers of stored invoices where they are. -/
theorem attributed_always_iff (inputs : List BillingInput) :
    (∀ n, ∀ invoice ∈ (run BillingDb.step .empty (inputs.take n)).invoices,
      (run BillingDb.step .empty (inputs.take n)).Attributed invoice) ↔
        StepsSatisfy BillingDb.step KeepsCustomers .empty inputs :=
  (stepsSatisfy_iff (fun _ i h => h.step i)
    (fun _ i h hall => keepsCustomers_iff h.schema hall i) (reachable_sound ⟨[], rfl⟩)
    (fun _ h => absurd h List.not_mem_nil) inputs).symm

namespace Sample

def monthly : StripeInvoice :=
  { id := "in_1", customer := some (.reference "cus_1"), amountDue := 1000, amountPaid := 1000,
    currency := "usd", hostedInvoiceUrl := none, invoicePdf := none, periodStart := 0,
    periodEnd := 0 }

/-- `t1` is provisioned as `cus_1` and pays. -/
def paidOnce : List BillingInput :=
  [.provisioned env provisioning "cus_1" noFaults,
   .webhook env (.ok ⟨"evt_1", 0, .invoicePaid monthly⟩) noFaults]

end Sample

/-- Stripe announces a second customer of the tenant: the paid invoice belongs to no
    subscription. -/
example : (run BillingDb.step .empty (Sample.paidOnce ++
    [.webhook Sample.env (.ok ⟨"evt_2", 0, .customerCreated ⟨"cus_2", some "t1"⟩⟩)
      noFaults])).holders "cus_1" = 0 := by
  decide +kernel

end SaasChassis.Billing
