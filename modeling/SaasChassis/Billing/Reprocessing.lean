/-
  An event handled twice, the second time at a later clock.

  `save()` of a row that is as it was read sends nothing, so the subscription events leave what
  the first run left (`saveFound_again`). `update()` sets `updated_at` again (`updateFound_again`)
  and a paid invoice gets the clock's time as `paid_at` again (`upsertInvoice_again`).
  `processEvent_again_iff`: the second run changes nothing exactly when the event is none of those
  that meet a row this way.
-/
import SaasChassis.Billing.Timestamps

namespace SaasChassis.Billing

open SaasChassis.Lib Faulty

/-- The event comes to an `update()`, or to a paid invoice, for a row that is there. -/
def Restamps (data : EventData) (rows : List Subscription) : Prop :=
  match data with
  | .invoicePaid inv | .invoicePaymentFailed inv => (byCustomer inv.customerId rows).isSome
  | .customerCreated customer =>
    ∃ tenantId, truthy customer.tenantId = some tenantId ∧ (byTenant tenantId rows).isSome
  | .subscriptionCreated _ | .subscriptionUpdated _ | .subscriptionDeleted _ | .other _ => False

section Again

variable {now later : ℤ}

theorem save_again {new : Subscription} {s : StampedSubscription} (h : s.row = new) :
    s.save later new = s :=
  if_pos h

/-- Finding and saving a second time, what was found by a key that `f` keeps. -/
theorem saveFound_again {p : Subscription → Bool} {f : Subscription → Subscription}
    (hp : ∀ row, p (f row) = p row) (ht : ∀ row, (f row).tenantId = row.tenantId)
    (hf : ∀ row, f (f row) = f row) (rows : List StampedSubscription) :
    saveFound later ((rowsOf (saveFound now ((rowsOf rows).find? p) f rows)).find? p) f
      (saveFound now ((rowsOf rows).find? p) f rows) =
        saveFound now ((rowsOf rows).find? p) f rows := by
  cases hfound : (rowsOf rows).find? p with
  | none =>
    show saveFound later ((rowsOf rows).find? p) f rows = rows
    rw [hfound]
    rfl
  | some sub =>
    have hsub : p (f sub) = true := (hp sub).trans (List.find?_some hfound)
    have hagain : (rowsOf (saveFound now (some sub) f rows)).find? p = some (f sub) := by
      rw [rowsOf_saveFound]
      exact find?_replaced hfound hsub
    rw [hagain]
    show updateKey _ (f sub).tenantId (StampedSubscription.save later (f (f sub))) _ = _
    rw [ht, hf, updateKey_eq_self_iff]
    intro s hs hkey
    obtain ⟨q, _, _, rfl⟩ | ⟨_, hne⟩ := mem_updateKey.mp hs
    · exact save_again (save_row now (f sub) q)
    · exact absurd hkey hne

theorem patch_patch (dto : SubscriptionsService.UpdateSubscriptionFromStripeDto)
    (row : Subscription) : dto.patch (dto.patch row) = dto.patch row := by
  obtain ⟨sid, planCode, status, periodStart, periodEnd, cancel⟩ := dto
  have hgetD : ∀ {α : Type} (a : Option α) (b : α), a.getD (a.getD b) = a.getD b := by
    intro α a b
    cases a <;> rfl
  have horElse : ∀ a b : Option ℤ, (a <|> (a <|> b)) = (a <|> b) := by
    intro a b
    cases a <;> rfl
  simp only [SubscriptionsService.UpdateSubscriptionFromStripeDto.patch, hgetD, horElse]

theorem updateFound_again (hlt : now < later) {tenantId : String}
    {f : Subscription → Subscription} (ht : ∀ row, (f row).tenantId = row.tenantId)
    {rows : List StampedSubscription} {sub : Subscription} (hsub : sub ∈ rowsOf rows)
    (hkey : sub.tenantId = tenantId) :
    updateFound later tenantId f (updateFound now tenantId f rows) ≠
      updateFound now tenantId f rows := by
  intro h
  obtain ⟨s, hs, rfl⟩ := List.mem_map.mp hsub
  have hmem : s.update now f ∈ updateFound now tenantId f rows :=
    mem_updateKey.mpr (Or.inl ⟨s, hs, hkey, rfl⟩)
  have hself := updateKey_eq_self_iff.mp h _ hmem ((ht s.row).trans hkey)
  exact Int.ne_of_gt hlt (congrArg (·.updatedAt) hself)

/-- An upserted invoice is found, with the time it was paid at. -/
theorem findInvoice_upserted (dto : Invoice) {paidAt : ℤ} (hpaid : dto.paidAt = some paidAt)
    (rows : List StampedInvoice) :
    ∃ found, findInvoice dto.stripeInvoiceId ((upsertInvoice now dto rows).map (·.row)) =
      some found ∧ found.paidAt = some paidAt := by
  rw [rows_upsertInvoice]
  cases hfound : findInvoice dto.stripeInvoiceId (rows.map (·.row)) with
  | none =>
    refine ⟨dto, ?_, hpaid⟩
    unfold findInvoice at hfound
    rw [findInvoice, List.find?_append, hfound]
    simp
  | some existing =>
    have hid : existing.stripeInvoiceId = dto.stripeInvoiceId := by
      simpa using List.find?_some hfound
    refine ⟨existing.paidAgain dto, find?_replaced (e := existing) hfound (by simpa), ?_⟩
    rw [Invoice.paidAgain, hpaid]
    rfl

theorem upsertInvoice_again (hlt : now < later) {dto dto' : Invoice}
    (hid : dto'.stripeInvoiceId = dto.stripeInvoiceId) (hpaid : dto.paidAt = some now)
    (hpaid' : dto'.paidAt = some later) (rows : List StampedInvoice) :
    upsertInvoice later dto' (upsertInvoice now dto rows) ≠ upsertInvoice now dto rows := by
  intro h
  obtain ⟨found, hfound, hfirst⟩ := findInvoice_upserted dto hpaid rows
  obtain ⟨s, hs, rfl⟩ := List.mem_map.mp (List.mem_of_find?_eq_some hfound)
  rw [upsertInvoice, hid, hfound] at h
  have hself := updateKey_eq_self_iff.mp h s hs rfl
  have hsecond : (s.row.paidAgain dto').paidAt = s.row.paidAt :=
    congrArg (·.row.paidAt) hself
  rw [hfirst, Invoice.paidAgain, hpaid'] at hsecond
  exact Int.ne_of_gt hlt (Option.some.inj hsecond)

end Again

/-! ## The handlers -/

namespace StampedDb

/-- The customer's row is still found after the status of a tenant's row is set. -/
theorem byCustomer_stamped (env : Env) {customer tenantId : String} {status : SubscriptionStatus}
    {db : StampedDb} (h : (byCustomer customer (rowsOf db.subscriptions)).isSome) :
    (byCustomer customer (rowsOf
      (db.call env.now (.updateStatusByTenantId tenantId status)).subscriptions)).isSome := by
  have hrows : rowsOf (db.call env.now (.updateStatusByTenantId tenantId status)).subscriptions =
      setStatus tenantId status (rowsOf db.subscriptions) := rowsOf_updateFound env.now _ _ _
  rw [hrows, byCustomer_setStatus, Option.isSome_map]
  exact h

theorem handleInvoicePaid_found (env : Env) {inv : StripeInvoice} {db : StampedDb}
    (h : (byCustomer inv.customerId (rowsOf db.subscriptions)).isSome) :
    (byCustomer inv.customerId (rowsOf (db.handleInvoicePaid env inv).subscriptions)).isSome ∧
      ∃ tenantId, (db.handleInvoicePaid env inv).invoices =
        upsertInvoice env.now (inv.paidRow env tenantId) db.invoices := by
  obtain ⟨localSub, hfound⟩ := Option.isSome_iff_exists.mp h
  rw [handleInvoicePaid, hfound]
  by_cases hdue : localSub.status = .pastDue
  · simp only [hdue, if_true]
    exact ⟨byCustomer_stamped env h, localSub.tenantId, rfl⟩
  · simp only [hdue, if_false]
    exact ⟨h, localSub.tenantId, rfl⟩

section Twice

variable {first second : Env} (hlt : first.now < second.now)

include hlt

theorem paid_again {inv : StripeInvoice} {db : StampedDb}
    (h : (byCustomer inv.customerId (rowsOf db.subscriptions)).isSome) :
    (db.handleInvoicePaid first inv).handleInvoicePaid second inv ≠
      db.handleInvoicePaid first inv := by
  intro heq
  obtain ⟨hfound, tenantId, hfirst⟩ := handleInvoicePaid_found first h
  obtain ⟨_, tenantId', hsecond⟩ := handleInvoicePaid_found second hfound
  rw [heq, hfirst] at hsecond
  refine upsertInvoice_again hlt ?_ ?_ ?_ db.invoices hsecond.symm
  all_goals rfl

theorem paymentFailed_again {inv : StripeInvoice} {db : StampedDb}
    (h : (byCustomer inv.customerId (rowsOf db.subscriptions)).isSome) :
    (db.handleInvoicePaymentFailed first inv).handleInvoicePaymentFailed second inv ≠
      db.handleInvoicePaymentFailed first inv := by
  obtain ⟨localSub, hfound⟩ := Option.isSome_iff_exists.mp h
  have hfirst : db.handleInvoicePaymentFailed first inv =
      db.call first.now (.updateStatusByTenantId localSub.tenantId .pastDue) := by
    rw [handleInvoicePaymentFailed, hfound]
  have hrows : rowsOf (db.call first.now
      (.updateStatusByTenantId localSub.tenantId .pastDue)).subscriptions =
        setStatus localSub.tenantId .pastDue (rowsOf db.subscriptions) :=
    rowsOf_updateFound first.now _ _ _
  rw [hfirst, handleInvoicePaymentFailed, hrows, byCustomer_setStatus, hfound, Option.map_some,
    if_pos rfl]
  intro heq
  refine updateFound_again hlt ?_ (byCustomer_mem hfound).1 rfl (congrArg subscriptions heq)
  exact fun _ => rfl

theorem customerCreated_again {customer : StripeCustomer} {tenantId : String} {db : StampedDb}
    (ht : truthy customer.tenantId = some tenantId)
    (h : (byTenant tenantId (rowsOf db.subscriptions)).isSome) :
    (db.handleCustomerCreated first customer).handleCustomerCreated second customer ≠
      db.handleCustomerCreated first customer := by
  obtain ⟨localSub, hfound⟩ := Option.isSome_iff_exists.mp h
  have hkey : localSub.tenantId = tenantId := by simpa using List.find?_some hfound
  simp only [handleCustomerCreated, ht]
  intro heq
  refine updateFound_again hlt ?_ (List.mem_of_find?_eq_some hfound) hkey
    (congrArg subscriptions heq)
  exact fun _ => rfl

end Twice

theorem linkStripeSubscription_again (now later : ℤ) (customer sid : String)
    (status : SubscriptionStatus) (periodStart periodEnd : ℤ) (db : StampedDb) :
    (db.call now (.linkStripeSubscription customer sid status periodStart periodEnd)).call later
        (.linkStripeSubscription customer sid status periodStart periodEnd) =
      db.call now (.linkStripeSubscription customer sid status periodStart periodEnd) := by
  refine StampedDb.ext (saveFound_again ?_ ?_ ?_ db.subscriptions) rfl
  all_goals exact fun _ => rfl

theorem updateFromStripe_again (now later : ℤ)
    (dto : SubscriptionsService.UpdateSubscriptionFromStripeDto) (db : StampedDb) :
    (db.call now (.updateFromStripe dto)).call later (.updateFromStripe dto) =
      db.call now (.updateFromStripe dto) := by
  refine StampedDb.ext (saveFound_again ?_ ?_ (patch_patch dto) db.subscriptions) rfl
  all_goals exact fun _ => rfl

/-! ## No row -/

theorem handleInvoicePaid_none (env : Env) {inv : StripeInvoice} {db : StampedDb}
    (h : ¬ (byCustomer inv.customerId (rowsOf db.subscriptions)).isSome) :
    db.handleInvoicePaid env inv = db := by
  rw [handleInvoicePaid, Option.not_isSome_iff_eq_none.mp h]

theorem handleInvoicePaymentFailed_none (env : Env) {inv : StripeInvoice} {db : StampedDb}
    (h : ¬ (byCustomer inv.customerId (rowsOf db.subscriptions)).isSome) :
    db.handleInvoicePaymentFailed env inv = db := by
  rw [handleInvoicePaymentFailed, Option.not_isSome_iff_eq_none.mp h]

theorem handleCustomerCreated_none (env : Env) {customer : StripeCustomer} {db : StampedDb}
    (h : ¬ ∃ tenantId, truthy customer.tenantId = some tenantId ∧
      (byTenant tenantId (rowsOf db.subscriptions)).isSome) :
    db.handleCustomerCreated env customer = db := by
  unfold handleCustomerCreated
  cases ht : truthy customer.tenantId with
  | none => rfl
  | some tenantId =>
    have hnone : byTenant tenantId (rowsOf db.subscriptions) = none :=
      Option.not_isSome_iff_eq_none.mp fun hrow => h ⟨tenantId, ht, hrow⟩
    refine StampedDb.ext (updateKey_of_notMem fun s hs hkey => ?_) rfl
    exact absurd hkey (by simpa using List.find?_eq_none.mp hnone s.row (List.mem_map_of_mem hs))

theorem again_of_none {handle : Env → StampedDb → StampedDb} {db : StampedDb}
    (h : ∀ env, handle env db = db) (first second : Env) :
    handle second (handle first db) = handle first db := by
  rw [h, h]

/-- A second run of an event at a later time changes nothing exactly when it meets no row that it
    stamps again. -/
theorem processEvent_again_iff (db : StampedDb) (event : StripeEvent) {first second : Env}
    (hlt : first.now < second.now) :
    (db.processEvent first event).processEvent second event = db.processEvent first event ↔
      ¬ Restamps event.data (rowsOf db.subscriptions) := by
  unfold processEvent
  cases event.data with
  | subscriptionCreated sub =>
    exact iff_of_true (linkStripeSubscription_again _ _ _ _ _ _ _ db) id
  | subscriptionUpdated sub => exact iff_of_true (updateFromStripe_again _ _ _ db) id
  | subscriptionDeleted sub => exact iff_of_true (updateFromStripe_again _ _ _ db) id
  | invoicePaid inv =>
    by_cases h : (byCustomer inv.customerId (rowsOf db.subscriptions)).isSome
    · exact iff_of_false (paid_again hlt h) (not_not_intro h)
    · exact iff_of_true (again_of_none (fun env => handleInvoicePaid_none env h) _ _) h
  | invoicePaymentFailed inv =>
    by_cases h : (byCustomer inv.customerId (rowsOf db.subscriptions)).isSome
    · exact iff_of_false (paymentFailed_again hlt h) (not_not_intro h)
    · exact iff_of_true (again_of_none (fun env => handleInvoicePaymentFailed_none env h) _ _) h
  | customerCreated customer =>
    by_cases h : Restamps (.customerCreated customer) (rowsOf db.subscriptions)
    · obtain ⟨tenantId, ht, hrow⟩ := h
      exact iff_of_false (customerCreated_again hlt ht hrow) (not_not_intro ⟨tenantId, ht, hrow⟩)
    · exact iff_of_true (again_of_none (fun env => handleCustomerCreated_none env h) _ _) h
  | other eventType => exact iff_of_true rfl id

/-! ## A month's end -/

namespace MonthEnd

/-- 2024-01-31T23:59:00Z. -/
def first : Env := { now := 1706745540000, channel := true }

/-- 2024-02-01T00:01:00Z. -/
def second : Env := { now := 1706745660000, channel := true }

def subscribed : StampedDb :=
  { subscriptions := [
      { row :=
          { tenantId := "2b1c7a52-0f0e-4d53-9f5e-6c1f0b7f3a10", stripeCustomerId := "cus_1",
            stripeSubscriptionId := some "sub_1", planCode := "pro", status := .active,
            currentPeriodStart := some 1704067200000, currentPeriodEnd := some 1706745600000,
            cancelAtPeriodEnd := false }
        createdAt := 1704067200000
        updatedAt := 1704067200000 }]
    invoices := [] }

def paid : StripeEvent :=
  { id := "evt_1"
    created := 1706745540
    data := .invoicePaid
      { id := "in_1", customer := some (.reference "cus_1"), amountDue := 4900, amountPaid := 4900,
        currency := "usd", hostedInvoiceUrl := none, invoicePdf := none,
        periodStart := 1704067200, periodEnd := 1706745600 } }

def ended : StripeEvent :=
  { id := "evt_2"
    created := 1706745540
    data := .subscriptionDeleted
      { id := "sub_1", customer := .reference "cus_1", status := .canceled,
        currentPeriodStart := 1704067200, currentPeriodEnd := 1706745600,
        cancelAtPeriodEnd := false, items := [] } }

end MonthEnd

theorem processEvent_again_iff_sample :
    (MonthEnd.subscribed.processEvent MonthEnd.first MonthEnd.ended).processEvent MonthEnd.second
        MonthEnd.ended = MonthEnd.subscribed.processEvent MonthEnd.first MonthEnd.ended :=
  (@processEvent_again_iff MonthEnd.subscribed MonthEnd.ended MonthEnd.first MonthEnd.second
    (by decide)).mpr id

/-- The second run moves the payment into the next month. -/
theorem paid_in_both_months :
    MonthEnd.first.now < MonthEnd.second.now ∧
    (MonthEnd.subscribed.processEvent MonthEnd.first MonthEnd.paid).processEvent MonthEnd.second
        MonthEnd.paid ≠ MonthEnd.subscribed.processEvent MonthEnd.first MonthEnd.paid ∧
    (MonthEnd.subscribed.processEvent MonthEnd.first MonthEnd.paid).invoices.map
      (·.row.paidAt) = [some 1706745540000] ∧
    ((MonthEnd.subscribed.processEvent MonthEnd.first MonthEnd.paid).processEvent MonthEnd.second
      MonthEnd.paid).invoices.map (·.row.paidAt) = [some 1706745660000] := by
  decide +kernel

end StampedDb

end SaasChassis.Billing
