/-
  What handling an event does when no call fails, as one function of the state.

  `subscriptionsAfter`, `invoicesAfter` and `messagesOf` say it table by table; `applyEvent` puts
  them together, `handlerCalls` counts the calls. `processEvent_runs` connects them to the code:
  the handler makes that many calls and ends in that state, or stops at the first call that
  fails. What every handler leaves alone, whatever fails, is `processEvent_keeps`.
-/
import SaasChassis.Billing.StripeWebhook

namespace SaasChassis.Billing

open SaasChassis.Lib Faulty

/-! ## Effects -/

/-- What a subscription event writes to the row it finds. -/
def StripeSubscription.linkTo (sub : StripeSubscription) (row : Subscription) : Subscription :=
  { row with
    stripeSubscriptionId := some sub.id
    status := sub.status
    currentPeriodStart := some (milliseconds sub.currentPeriodStart)
    currentPeriodEnd := some (milliseconds sub.currentPeriodEnd) }

def StripeSubscription.updateOf (sub : StripeSubscription) (row : Subscription) : Subscription :=
  { row with
    planCode := sub.planCode.getD row.planCode
    status := sub.status
    currentPeriodStart := some (milliseconds sub.currentPeriodStart)
    currentPeriodEnd := some (milliseconds sub.currentPeriodEnd)
    cancelAtPeriodEnd := sub.cancelAtPeriodEnd }

def cancelRow (row : Subscription) : Subscription := { row with status := .canceled }

/-- The rows after a row that was read, if any, is saved with `f`. -/
def saveWith (found : Option Subscription) (f : Subscription → Subscription)
    (rows : List Subscription) : List Subscription :=
  match found with
  | none => rows
  | some row => updateTenant row.tenantId (fun _ => f row) rows

def setStatus (tenantId : String) (status : SubscriptionStatus) :
    List Subscription → List Subscription :=
  updateTenant tenantId ({ · with status := status })

def subscriptionsAfter (data : EventData) (rows : List Subscription) : List Subscription :=
  match data with
  | .subscriptionCreated sub => saveWith (byCustomer sub.customer.customerId rows) sub.linkTo rows
  | .subscriptionUpdated sub => saveWith (bySubscription sub.id rows) sub.updateOf rows
  | .subscriptionDeleted sub => saveWith (bySubscription sub.id rows) cancelRow rows
  | .invoicePaid inv =>
    match byCustomer inv.customerId rows with
    | some row => if row.status = .pastDue then setStatus row.tenantId .active rows else rows
    | none => rows
  | .invoicePaymentFailed inv =>
    match byCustomer inv.customerId rows with
    | some row => setStatus row.tenantId .pastDue rows
    | none => rows
  | .customerCreated customer =>
    match truthy customer.tenantId with
    | none => rows
    | some tenantId => updateTenant tenantId ({ · with stripeCustomerId := customer.id }) rows
  | .other _ => rows

def invoicesAfter (env : Env) (data : EventData) (rows : List Subscription)
    (invoices : List Invoice) : List Invoice :=
  match data with
  | .invoicePaid inv =>
    match byCustomer inv.customerId rows with
    | some row =>
      let paid := inv.paidRow env row.tenantId
      match findInvoice inv.id invoices with
      | some existing => saveInvoice (existing.paidAgain paid) invoices
      | none => invoices ++ [paid]
    | none => invoices
  | _ => invoices

/-- The status message for a customer, if a row has it. -/
def statusMessage (rows : List Subscription) (stripeCustomerId : String)
    (status : SubscriptionStatus) (plan : Option String) : List Message :=
  match byCustomer stripeCustomerId rows with
  | some row => [⟨"chassis.billing", "subscription.status",
      .subscriptionStatus row.tenantId status.text (truthy plan)⟩]
  | none => []

/-- The messages of an event, from the rows before it. -/
def messagesOf (env : Env) (data : EventData) (rows : List Subscription) : List Message :=
  let after := subscriptionsAfter data rows
  match data with
  | .subscriptionCreated sub =>
    statusMessage after sub.customer.customerId sub.status none ++
      [⟨"chassis.audit", "billing.subscription.created",
        .subscriptionCreated sub.id sub.customer.customerId sub.status.text env.now⟩]
  | .subscriptionUpdated sub =>
    statusMessage after sub.customer.customerId sub.status sub.planCode
  | .subscriptionDeleted sub => statusMessage after sub.customer.customerId .canceled none
  | .invoicePaid inv =>
    match byCustomer inv.customerId rows with
    | some row =>
      ⟨"chassis.audit", "billing.payment.succeeded", inv.paymentSucceeded env row.tenantId⟩ ::
        if row.status = .pastDue then statusMessage after inv.customerId .active none else []
    | none => []
  | .invoicePaymentFailed inv =>
    match byCustomer inv.customerId rows with
    | some _ => statusMessage after inv.customerId .pastDue none
    | none => []
  | .customerCreated _ | .other _ => []

/-- Messages leave only through a channel. -/
def BillingDb.send (env : Env) (messages : List Message) (db : BillingDb) : BillingDb :=
  if env.channel then { db with messages := db.messages ++ messages } else db

def applyEvent (env : Env) (event : StripeEvent) (db : BillingDb) : BillingDb :=
  { db with
    subscriptions := subscriptionsAfter event.data db.subscriptions
    invoices := invoicesAfter env event.data db.subscriptions db.invoices }.send env
      (messagesOf env event.data db.subscriptions)

/-- The calls of reading a row and saving it when there is one. -/
def saveCalls (found : Option Subscription) : ℕ := if found.isSome then 2 else 1

/-- The calls a handler makes. -/
def handlerCalls (data : EventData) (rows : List Subscription) : ℕ :=
  match data with
  | .subscriptionCreated sub => saveCalls (byCustomer sub.customer.customerId rows) + 1
  | .subscriptionUpdated sub | .subscriptionDeleted sub =>
    saveCalls (bySubscription sub.id rows) + 1
  | .invoicePaid inv =>
    match byCustomer inv.customerId rows with
    | some row => if row.status = .pastDue then 5 else 3
    | none => 1
  | .invoicePaymentFailed inv => if (byCustomer inv.customerId rows).isSome then 3 else 1
  | .customerCreated customer =>
    match truthy customer.tenantId with
    | none => 0
    | some _ => 1
  | .other _ => 0

theorem byCustomer_setStatus (t : String) (status : SubscriptionStatus)
    (rows : List Subscription) (c : String) :
    byCustomer c (setStatus t status rows) =
      (byCustomer c rows).map fun row =>
        if row.tenantId = t then { row with status := status } else row :=
  find?_updateKey fun _ _ _ => rfl

/-! ## The handlers -/

@[simp] theorem send_nil (env : Env) (db : BillingDb) : db.send env [] = db := by
  unfold BillingDb.send
  rw [List.append_nil]
  exact ite_self db

theorem send_append (env : Env) (ms ns : List Message) (db : BillingDb) :
    (db.send env ms).send env ns = db.send env (ms ++ ns) := by
  unfold BillingDb.send
  cases env.channel with
  | true => simp only [if_true, List.append_assoc]
  | false => rfl

@[simp] theorem send_subscriptions (env : Env) (ms : List Message) (db : BillingDb) :
    (db.send env ms).subscriptions = db.subscriptions := by
  unfold BillingDb.send
  split <;> rfl

@[simp] theorem send_invoices (env : Env) (ms : List Message) (db : BillingDb) :
    (db.send env ms).invoices = db.invoices := by
  unfold BillingDb.send
  split <;> rfl

@[simp] theorem send_webhookEvents (env : Env) (ms : List Message) (db : BillingDb) :
    (db.send env ms).webhookEvents = db.webhookEvents := by
  unfold BillingDb.send
  split <;> rfl

@[simp] theorem send_handled (env : Env) (ms : List Message) (db : BillingDb) :
    (db.send env ms).handled = db.handled := by
  unfold BillingDb.send
  split <;> rfl

theorem send_withSubscriptions (env : Env) (ms : List Message) (db : BillingDb)
    (f : List Subscription → List Subscription) :
    (db.send env ms).withSubscriptions f = (db.withSubscriptions f).send env ms := by
  unfold BillingDb.send
  split <;> rfl

theorem runs_publish (env : Env) (exchange routingKey : String) (body : MessageBody)
    (db : BillingDb) : Runs (publish env exchange routingKey body) db 0 ()
      (db.send env [⟨exchange, routingKey, body⟩]) :=
  Runs.effect _ db

/-- Reading one row, and saving it when it is there. -/
theorem runs_save (find : List Subscription → Option Subscription)
    (f : Subscription → Subscription) (hf : ∀ row, (f row).tenantId = row.tenantId)
    (db : BillingDb) :
    Runs (do
      match ← query fun db : BillingDb => find db.subscriptions with
      | none => return
      | some sub => write (·.withSubscriptions (saveSubscription (f sub))) : Method Unit)
      db (saveCalls (find db.subscriptions)) ()
      (db.withSubscriptions (saveWith (find db.subscriptions) f)) := by
  have hsave : ∀ row, saveSubscription (f row) = saveWith (some row) f := by
    intro row
    funext rows
    simp only [saveSubscription, saveWith, hf]
  cases h : find db.subscriptions with
  | none =>
    refine Runs.query_bind (n := 0) ?_
    simp only [h]
    exact Runs.pure db ()
  | some row =>
    refine Runs.query_bind (n := 1) ?_
    simp only [h]
    rw [← hsave]
    exact Runs.write _ db

theorem runs_statusMessage (env : Env) (customer : String) (status : SubscriptionStatus)
    (plan : Option String) (db : BillingDb) :
    Runs (publishSubscriptionStatus env customer status.text plan) db 1 ()
      (db.send env (statusMessage db.subscriptions customer status plan)) := by
  refine Runs.query_bind (n := 0) ?_
  unfold statusMessage
  cases byCustomer customer db.subscriptions with
  | none =>
    rw [send_nil]
    exact Runs.pure db ()
  | some row => exact runs_publish env _ _ _ db

theorem runs_created (env : Env) (sub : StripeSubscription) (db : BillingDb) :
    Runs (handleSubscriptionCreated env sub) db
      (handlerCalls (.subscriptionCreated sub) db.subscriptions) ()
      ((db.withSubscriptions (subscriptionsAfter (.subscriptionCreated sub))).send env
        (messagesOf env (.subscriptionCreated sub) db.subscriptions)) := by
  have hlink := runs_save (byCustomer sub.customer.customerId) sub.linkTo (fun _ => rfl) db
  have hstatus := runs_statusMessage env sub.customer.customerId sub.status none
    (db.withSubscriptions (saveWith (byCustomer sub.customer.customerId db.subscriptions)
      sub.linkTo))
  refine (hlink.bind (k := 1 + 0) (hstatus.bind (runs_publish env _ _ _ _))).cast rfl ?_
  rw [send_append]
  rfl

theorem runs_updated (env : Env) (sub : StripeSubscription) (db : BillingDb) :
    Runs (handleSubscriptionUpdated env sub) db
      (handlerCalls (.subscriptionUpdated sub) db.subscriptions) ()
      ((db.withSubscriptions (subscriptionsAfter (.subscriptionUpdated sub))).send env
        (messagesOf env (.subscriptionUpdated sub) db.subscriptions)) :=
  (runs_save (bySubscription sub.id) sub.updateOf (fun _ => rfl) db).bind
    (runs_statusMessage env _ _ _ _)

theorem runs_deleted (env : Env) (sub : StripeSubscription) (db : BillingDb) :
    Runs (handleSubscriptionDeleted env sub) db
      (handlerCalls (.subscriptionDeleted sub) db.subscriptions) ()
      ((db.withSubscriptions (subscriptionsAfter (.subscriptionDeleted sub))).send env
        (messagesOf env (.subscriptionDeleted sub) db.subscriptions)) :=
  (runs_save (bySubscription sub.id) cancelRow (fun _ => rfl) db).bind
    (runs_statusMessage env _ _ _ _)

theorem runs_upsert (dto : Invoice) (db : BillingDb) :
    Runs (upsertFromStripe dto) db 2 () (db.withInvoices fun _ =>
      match findInvoice dto.stripeInvoiceId db.invoices with
      | some existing => saveInvoice (existing.paidAgain dto) db.invoices
      | none => db.invoices ++ [dto]) := by
  refine Runs.query_bind (n := 1) ?_
  cases findInvoice dto.stripeInvoiceId db.invoices with
  | none => exact Runs.write _ db
  | some existing => exact Runs.write _ db

theorem runs_paid (env : Env) (inv : StripeInvoice) (db : BillingDb) :
    Runs (handleInvoicePaid env inv) db (handlerCalls (.invoicePaid inv) db.subscriptions) ()
      (({ db with
        subscriptions := subscriptionsAfter (.invoicePaid inv) db.subscriptions
        invoices := invoicesAfter env (.invoicePaid inv) db.subscriptions db.invoices } :
          BillingDb).send env (messagesOf env (.invoicePaid inv) db.subscriptions)) := by
  cases h : byCustomer inv.customerId db.subscriptions with
  | none =>
    simp only [handlerCalls, subscriptionsAfter, invoicesAfter, messagesOf, h, send_nil]
    refine Runs.query_bind (n := 0) ?_
    simp only [h]
    exact Runs.pure db ()
  | some row =>
    have hpaid := runs_upsert (inv.paidRow env row.tenantId) db
    have haudit := runs_publish env "chassis.audit" "billing.payment.succeeded"
      (inv.paymentSucceeded env row.tenantId)
    by_cases hdue : row.status = .pastDue
    · simp only [handlerCalls, subscriptionsAfter, invoicesAfter, messagesOf, h, hdue, if_true]
      refine Runs.query_bind (n := 4) ?_
      simp only [h, hdue, if_true]
      refine (hpaid.bind (k := 2) ((haudit _).bind (k := 2) (Runs.write_bind (n := 1)
        (runs_statusMessage env inv.customerId .active none _)))).cast rfl ?_
      rw [send_withSubscriptions, send_subscriptions, send_append]
      rfl
    · simp only [handlerCalls, subscriptionsAfter, invoicesAfter, messagesOf, h, hdue, if_false]
      refine Runs.query_bind (n := 2) ?_
      simp only [h, hdue, if_false]
      exact hpaid.bind (k := 0) ((haudit _).bind (Runs.pure _ ()))

theorem runs_paymentFailed (env : Env) (inv : StripeInvoice) (db : BillingDb) :
    Runs (handleInvoicePaymentFailed env inv) db
      (handlerCalls (.invoicePaymentFailed inv) db.subscriptions) ()
      ((db.withSubscriptions (subscriptionsAfter (.invoicePaymentFailed inv))).send env
        (messagesOf env (.invoicePaymentFailed inv) db.subscriptions)) := by
  cases h : byCustomer inv.customerId db.subscriptions with
  | none =>
    simp only [handlerCalls, messagesOf, h, send_nil]
    refine Runs.cast (Runs.query_bind (n := 0) (t := db) ?_) rfl ?_
    · simp only [h]
      exact Runs.pure db ()
    · simp only [BillingDb.withSubscriptions, subscriptionsAfter, h]
  | some row =>
    simp only [handlerCalls, messagesOf, h, BillingDb.withSubscriptions, subscriptionsAfter]
    refine Runs.query_bind (n := 2) ?_
    simp only [h]
    exact Runs.write_bind (n := 1) (runs_statusMessage env inv.customerId .pastDue none _)

theorem runs_customerCreated (customer : StripeCustomer) (db : BillingDb) :
    Runs (handleCustomerCreated customer) db
      (handlerCalls (.customerCreated customer) db.subscriptions) ()
      (db.withSubscriptions (subscriptionsAfter (.customerCreated customer))) := by
  unfold handleCustomerCreated
  cases h : truthy customer.tenantId with
  | none =>
    simp only [handlerCalls, BillingDb.withSubscriptions, subscriptionsAfter, h]
    exact Runs.pure db ()
  | some tenantId =>
    simp only [handlerCalls, BillingDb.withSubscriptions, subscriptionsAfter, h]
    exact Runs.write _ db

/-- The handler of an event makes its calls and has its effect, unless one of them fails. -/
theorem processEvent_runs (env : Env) (event : StripeEvent) (db : BillingDb) :
    Runs (processEvent env event) db (handlerCalls event.data db.subscriptions) ()
      (applyEvent env event db) := by
  unfold processEvent applyEvent
  cases event.data with
  | subscriptionCreated sub => exact runs_created env sub db
  | subscriptionUpdated sub => exact runs_updated env sub db
  | subscriptionDeleted sub => exact runs_deleted env sub db
  | invoicePaid inv => exact runs_paid env inv db
  | invoicePaymentFailed inv => exact runs_paymentFailed env inv db
  | customerCreated customer =>
    refine (runs_customerCreated customer db).cast rfl ?_
    exact (send_nil env _).symm
  | other eventType => exact (Runs.pure db ()).cast rfl (send_nil env _).symm

/-! ## What is left alone -/

/-- The writes to subscriptions an event's handler makes, with what it knows of the row it has
    read from a state with `I`. -/
inductive Rewrites (I : BillingDb → Prop) (data : EventData) :
    (List Subscription → List Subscription) → Prop
  | link (sub : StripeSubscription) (row : Subscription) (db : BillingDb)
      (event : data = .subscriptionCreated sub) (before : I db) (mem : row ∈ db.subscriptions)
      (customer : row.stripeCustomerId = sub.customer.customerId) :
      Rewrites I data (saveSubscription (sub.linkTo row))
  | update (sub : StripeSubscription) (row : Subscription) (db : BillingDb)
      (event : data = .subscriptionUpdated sub) (before : I db) (mem : row ∈ db.subscriptions) :
      Rewrites I data (saveSubscription (sub.updateOf row))
  | cancel (row : Subscription) (db : BillingDb) (before : I db) (mem : row ∈ db.subscriptions) :
      Rewrites I data (saveSubscription (cancelRow row))
  | status (tenantId : String) (status : SubscriptionStatus) :
      Rewrites I data (setStatus tenantId status)
  | customer (customer : StripeCustomer) (tenantId : String)
      (event : data = .customerCreated customer)
      (tenant : truthy customer.tenantId = some tenantId) :
      Rewrites I data (updateTenant tenantId ({ · with stripeCustomerId := customer.id }))

theorem updateTenant_tenants (tenantId : String) {g : Subscription → Subscription}
    (hg : ∀ row, (g row).tenantId = row.tenantId) (rows : List Subscription) :
    (updateTenant tenantId g rows).map (·.tenantId) = rows.map (·.tenantId) :=
  map_updateKey _ hg rows

/-- They rewrite rows where they are. -/
theorem Rewrites.tenants {I : BillingDb → Prop} {data : EventData}
    {f : List Subscription → List Subscription} (h : Rewrites I data f)
    (rows : List Subscription) : (f rows).map (·.tenantId) = rows.map (·.tenantId) := by
  have hsave : ∀ sub : Subscription,
      (saveSubscription sub rows).map (·.tenantId) = rows.map (·.tenantId) :=
    fun _ => map_key_updateKey (fun _ _ => rfl) rows
  cases h with
  | link => exact hsave _
  | update => exact hsave _
  | cancel => exact hsave _
  | status tenantId status =>
    exact updateTenant_tenants tenantId (g := ({ · with status := status })) (fun _ => rfl) rows
  | customer customer tenantId =>
    exact updateTenant_tenants tenantId (g := ({ · with stripeCustomerId := customer.id }))
      (fun _ => rfl) rows

section Keeps

variable {I : BillingDb → Prop} (hsend : ∀ env ms db, I db → I (BillingDb.send env ms db))

include hsend

theorem keeps_publish (env : Env) (exchange routingKey : String) (body : MessageBody) :
    Keeps I (publish env exchange routingKey body) :=
  Keeps.effect fun db h => hsend env [⟨exchange, routingKey, body⟩] db h

theorem keeps_status (env : Env) (customer status : String) (plan : Option String) :
    Keeps I (publishSubscriptionStatus env customer status plan) := by
  refine (Keeps.query _).bind fun found => ?_
  cases found with
  | none => exact Keeps.pure ()
  | some localSub => exact keeps_publish hsend _ _ _ _

omit hsend in
theorem keeps_upsert (hinvoices : ∀ f db, I db → I (BillingDb.withInvoices db f))
    (dto : Invoice) : Keeps I (upsertFromStripe dto) := by
  refine (Keeps.query _).bind fun found => ?_
  cases found with
  | none => exact Keeps.write fun db h => hinvoices _ db h
  | some existing => exact Keeps.write fun db h => hinvoices _ db h

omit hsend in
/-- Saving the row that was found, if any. -/
theorem keeps_save {find : List Subscription → Option Subscription}
    {f : Subscription → Subscription}
    (h : ∀ db, I db → ∀ row, find db.subscriptions = some row →
      ∀ u : BillingDb, I u → I (u.withSubscriptions (saveSubscription (f row)))) :
    Keeps I (do
      match ← query fun db : BillingDb => find db.subscriptions with
      | none => return
      | some sub => write (·.withSubscriptions (saveSubscription (f sub))) : Method Unit) := by
  refine Keeps.query_bind fun db hdb => ?_
  cases hf : find db.subscriptions with
  | none => exact Keeps.pure ()
  | some row => exact Keeps.write (h db hdb row hf)

omit hsend in
theorem keeps_setStatus {data : EventData}
    (hsubs : ∀ f, Rewrites I data f → ∀ db, I db → I (db.withSubscriptions f))
    (tenantId : String) (status : SubscriptionStatus) :
    Keeps I (SubscriptionsService.updateStatusByTenantId tenantId status) :=
  Keeps.write (hsubs _ (.status tenantId status))

/-- A handler touches messages, subscriptions in the ways of `Rewrites` and, for a paid invoice,
    invoices. -/
theorem processEvent_keeps {event : StripeEvent}
    (hsubs : ∀ f, Rewrites I event.data f → ∀ db, I db → I (db.withSubscriptions f))
    (hinvoices : ∀ inv, event.data = .invoicePaid inv →
      ∀ f db, I db → I (BillingDb.withInvoices db f)) (env : Env) :
    Keeps I (processEvent env event) := by
  unfold processEvent
  cases hdata : event.data with
  | subscriptionCreated sub =>
    have hlink := @keeps_save I (byCustomer sub.customer.customerId) sub.linkTo
      fun db hdb row hf =>
        hsubs _ (.link sub row db hdata hdb (byCustomer_mem hf).1 (byCustomer_mem hf).2)
    exact hlink.bind fun _ =>
      (keeps_status hsend _ _ _ _).bind fun _ => keeps_publish hsend _ _ _ _
  | subscriptionUpdated sub =>
    have hupdate := @keeps_save I (bySubscription sub.id) sub.updateOf fun db hdb row hf =>
      hsubs _ (.update sub row db hdata hdb (bySubscription_mem hf).1)
    exact hupdate.bind fun _ => keeps_status hsend _ _ _ _
  | subscriptionDeleted sub =>
    have hcancel := @keeps_save I (bySubscription sub.id) cancelRow fun db hdb row hf =>
      hsubs _ (.cancel row db hdb (bySubscription_mem hf).1)
    exact hcancel.bind fun _ => keeps_status hsend _ _ _ _
  | invoicePaid inv =>
    refine (Keeps.query _).bind fun found => ?_
    cases found with
    | none => exact Keeps.pure ()
    | some localSub =>
      refine (keeps_upsert (hinvoices inv hdata) _).bind fun _ =>
        (keeps_publish hsend _ _ _ _).bind fun _ => ?_
      split
      · exact (keeps_setStatus hsubs _ _).bind fun _ => keeps_status hsend _ _ _ _
      · exact Keeps.pure ()
  | invoicePaymentFailed inv =>
    refine (Keeps.query _).bind fun found => ?_
    cases found with
    | none => exact Keeps.pure ()
    | some localSub =>
      exact (keeps_setStatus hsubs _ _).bind fun _ => keeps_status hsend _ _ _ _
  | customerCreated customer =>
    show Keeps I (handleCustomerCreated customer)
    unfold handleCustomerCreated
    cases ht : truthy customer.tenantId with
    | none => exact Keeps.pure ()
    | some tenantId => exact Keeps.write (hsubs _ (.customer customer tenantId hdata ht))
  | other eventType => exact Keeps.pure ()

end Keeps

end SaasChassis.Billing
