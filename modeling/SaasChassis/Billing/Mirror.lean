/-
  What Stripe promises, and what the rows keep of it.

  A Stripe customer is made for one tenant and a subscription belongs to one customer, for good
  (`Stripe`). As long as events and tenant.provisioned messages say so (`Stripe.Sends`), a row's
  customer and subscription are those of its tenant, whatever calls fail (`reachable_mirrors`).
  So only a tenant's own row is ever found by its customer or by its subscriptions.
-/
import SaasChassis.Billing.Endpoint

namespace SaasChassis.Billing

open SaasChassis.Lib Faulty

/-- Who owns what at Stripe. -/
structure Stripe where
  /-- The tenant a customer was made for. -/
  tenantOf : String → String
  /-- The customer of a subscription. -/
  customerOf : String → String

namespace Stripe

variable (stripe : Stripe)

def Says : EventData → Prop
  | .subscriptionCreated sub | .subscriptionUpdated sub | .subscriptionDeleted sub =>
    sub.customer.customerId = stripe.customerOf sub.id
  | .customerCreated customer =>
    ∀ t, truthy customer.tenantId = some t → stripe.tenantOf customer.id = t
  | _ => True

def Sends : BillingInput → Prop
  | .webhook _ (.ok event) _ => stripe.Says event.data
  | .webhook _ (.error _) _ => True
  | .provisioned _ msg customer _ => stripe.tenantOf customer = msg.tenantId

/-- A row with a customer, and a subscription if it has one, of its tenant. -/
structure Owns (row : Subscription) : Prop where
  customer : stripe.tenantOf row.stripeCustomerId = row.tenantId
  subscription : ∀ sid, row.stripeSubscriptionId = some sid →
    stripe.tenantOf (stripe.customerOf sid) = row.tenantId

def Mirrors (db : BillingDb) : Prop := ∀ row ∈ db.subscriptions, stripe.Owns row

/-- After any run of messages that Stripe stands by. -/
def Reachable (db : BillingDb) : Prop :=
  ∃ inputs, StepsSatisfy BillingDb.step (fun _ i => stripe.Sends i) .empty inputs ∧
    db = run BillingDb.step .empty inputs

variable {stripe}

/-! ## Every write keeps it -/

theorem owns_save {rows : List Subscription} (h : ∀ row ∈ rows, stripe.Owns row)
    {sub : Subscription} (hs : stripe.Owns sub) : ∀ row ∈ saveSubscription sub rows,
      stripe.Owns row := by
  intro row hrow
  obtain ⟨_, _, _, rfl⟩ | ⟨hrow, _⟩ := mem_updateKey.mp hrow
  · exact hs
  · exact h row hrow

theorem rewrites_owns {data : EventData} (hsent : stripe.Says data)
    {f : List Subscription → List Subscription} (hf : Rewrites stripe.Mirrors data f)
    {rows : List Subscription} (h : ∀ row ∈ rows, stripe.Owns row) :
    ∀ row ∈ f rows, stripe.Owns row := by
  cases hf with
  | link sub row db event before mem customer =>
    have hrow := before row mem
    subst event
    refine owns_save h ⟨hrow.customer, fun sid hsid => ?_⟩
    obtain rfl := Option.some.inj hsid
    rw [← show sub.customer.customerId = stripe.customerOf sub.id from hsent, ← customer]
    exact hrow.customer
  | update sub row db event before mem =>
    exact owns_save h ⟨(before row mem).customer, (before row mem).subscription⟩
  | cancel row db before mem =>
    exact owns_save h ⟨(before row mem).customer, (before row mem).subscription⟩
  | status tenantId status =>
    intro row hrow
    obtain ⟨q, hq, _, rfl⟩ | ⟨hrow, _⟩ := mem_updateKey.mp hrow
    · exact ⟨(h q hq).customer, (h q hq).subscription⟩
    · exact h row hrow
  | customer customer tenantId event tenant =>
    subst event
    intro row hrow
    obtain ⟨q, hq, ht, rfl⟩ | ⟨hrow, _⟩ := mem_updateKey.mp hrow
    · exact ⟨(hsent tenantId tenant).trans ht.symm, (h q hq).subscription⟩
    · exact h row hrow

theorem handleWebhook_mirrors (env : Env) {event : StripeEvent} (hsent : stripe.Says event.data) :
    Keeps stripe.Mirrors (handleWebhook env (.ok event)) := by
  have hattempt : Keeps stripe.Mirrors (attempt env event) := by
    refine Keeps.bind (processEvent_keeps ?_ ?_ ?_ env) fun _ =>
      Keeps.bind (Keeps.effect ?_) fun _ => Keeps.write ?_
    · intro env ms db h
      unfold Mirrors
      rw [send_subscriptions]
      exact h
    · exact fun f hf db h => rewrites_owns hsent hf h
    · exact fun _ _ _ _ h => h
    · exact fun _ h => h
    · exact fun _ h => h
  have hstore : Keeps stripe.Mirrors (store env event) := by
    refine Keeps.bind (Keeps.write ?_) fun _ =>
      Keeps.bind (hattempt.tryCatch fun message => Keeps.write ?_) fun _ => Keeps.pure received
    · exact fun _ h => h
    · exact fun _ h => h
  refine Keeps.bind (Keeps.query _) fun found => ?_
  cases found with
  | true => exact Keeps.pure _
  | false => exact hstore

theorem create_mirrors {dto : SubscriptionsService.CreateSubscriptionDto}
    (hcustomer : stripe.tenantOf dto.stripeCustomerId = dto.tenantId)
    (hsub : dto.stripeSubscriptionId = none) :
    Keeps stripe.Mirrors (SubscriptionsService.create dto) := by
  refine Keeps.bind (Keeps.query _) fun found => ?_
  cases found with
  | some sub => exact Keeps.throw _
  | none =>
    refine Keeps.bind (Keeps.write fun db h row hrow => ?_) fun _ => Keeps.pure _
    obtain hrow | hrow := List.mem_append.mp hrow
    · exact h row hrow
    · rw [List.mem_singleton.mp hrow]
      refine ⟨hcustomer, fun sid hsid => ?_⟩
      rw [show _ = dto.stripeSubscriptionId from rfl, hsub] at hsid
      cases hsid

theorem onTenantProvisioned_mirrors (env : Env) {msg : TenantProvisionedEvent} {customer : String}
    (hsends : stripe.tenantOf customer = msg.tenantId) :
    Keeps stripe.Mirrors (onTenantProvisioned env msg customer) := by
  refine Keeps.tryCatch (Keeps.query_bind fun db hdb => ?_) fun _ => Keeps.pure ()
  refine Keeps.bind (create_mirrors hsends rfl) fun _ => keeps_publish ?_ env _ _ _
  intro env ms db h
  unfold Mirrors
  rw [send_subscriptions]
  exact h

theorem Mirrors.step {db : BillingDb} (h : stripe.Mirrors db) {i : BillingInput}
    (hi : stripe.Sends i) : stripe.Mirrors (db.step i) := by
  cases i with
  | webhook env constructed fault =>
    cases constructed with
    | error message => exact h
    | ok event => exact handleWebhook_mirrors env hi fault 0 db h
  | provisioned env msg customer fault => exact onTenantProvisioned_mirrors env hi fault 0 db h

theorem reachable_mirrors {db : BillingDb} (h : stripe.Reachable db) : stripe.Mirrors db := by
  obtain ⟨inputs, hsends, rfl⟩ := h
  exact run_invariant_of (I := stripe.Mirrors) (fun _ _ hm hi => hm.step hi)
    (fun _ hrow => absurd hrow List.not_mem_nil) hsends

/-! ## Whose row is found -/

section Find

variable {db : BillingDb} (hs : db.Schema) (hm : stripe.Mirrors db) {row : Subscription}
  (hrow : row ∈ db.subscriptions) {sid : String}
  (hcustomer : row.stripeCustomerId = stripe.customerOf sid)

include hs hm hrow hcustomer

theorem byCustomer_own : byCustomer (stripe.customerOf sid) db.subscriptions = some row := by
  cases hf : byCustomer (stripe.customerOf sid) db.subscriptions with
  | none => exact absurd (List.find?_eq_none.mp hf row hrow) (by simpa using hcustomer)
  | some q =>
    obtain ⟨hq, hqc⟩ := byCustomer_mem hf
    have ht : q.tenantId = row.tenantId := by
      rw [← (hm q hq).customer, ← (hm row hrow).customer, hqc, hcustomer]
    rw [nodup_keys_inj hs.uq_subscription_tenant hq hrow ht]

theorem bySubscription_own : bySubscription sid db.subscriptions =
    if row.stripeSubscriptionId = some sid then some row else none := by
  have hown : ∀ q ∈ db.subscriptions, q.stripeSubscriptionId = some sid → q = row := by
    intro q hq hqs
    have ht : q.tenantId = row.tenantId := by
      rw [← (hm q hq).subscription sid hqs, ← hcustomer, (hm row hrow).customer]
    exact nodup_keys_inj hs.uq_subscription_tenant hq hrow ht
  split
  next h =>
    cases hf : bySubscription sid db.subscriptions with
    | none => exact absurd (List.find?_eq_none.mp hf row hrow) (by simpa using h)
    | some q => rw [hown q (bySubscription_mem hf).1 (bySubscription_mem hf).2]
  next h =>
    cases hf : bySubscription sid db.subscriptions with
    | none => rfl
    | some q =>
      obtain ⟨hq, hqs⟩ := bySubscription_mem hf
      exact absurd (hown q hq hqs ▸ hqs) h

end Find

end Stripe

end SaasChassis.Billing
