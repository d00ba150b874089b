/-
  Tenants that share the billing engine, and what each of them sees of the others.

  A handler for a tenant reads its part of the tables and answers with nothing else
  (`ForTenant`). `private_billing`: as long as no object of Stripe is announced for two tenants, the
  part of a tenant and all that its users are answered are those of a service that gets only its
  deliveries, messages and requests, whatever calls fail; every answer goes to a caller who is
  entitled to it and is about the tenant of its token; and nobody is answered the revenue
  (`getRevenue_refused`).
-/
import SaasChassis.Billing.Ownership
import SaasChassis.Lib.Noninterference
import SaasChassis.Lib.Triples

namespace SaasChassis.Billing

open SaasChassis.Lib Faulty

/-! ## Answers -/

/-- The answer is about `k` only: its rows, and sessions of its customers. The revenue is about
    everybody. -/
def Answer.Private (o : Owners) (k : Option String) : Answer → Prop
  | .subscription row => some row.tenantId = k
  | .session request _ => o.customer request.customer = k
  | .invoices page => ∀ row ∈ page.items, some row.tenantId = k
  | .revenue _ => False

/-- A method that works for the tenant `t`. -/
structure ForTenant (o : Owners) (t : String) (x : ApiMethod Answer) : Prop where
  apart : ∀ r, Coupled (Apart o (some t) r) x
  own : Triple (BillingDb.Owned o) x (fun answer _ => answer.Private o (some t)) fun _ _ => True
  reads : ∀ db, Keeps (· = db) x

section Methods

variable {o : Owners} {t : String}

theorem findByTenantId_apart (r : BillingDb) :
    Coupled (Apart o (some t) r) (SubscriptionsService.findByTenantId t) := by
  refine Coupled.query_bind (Q := fun _ => True) (fun _ _ h => ⟨byTenant_apart rfl h, trivial⟩)
    fun found _ => ?_
  cases found with
  | none => exact Coupled.throw _
  | some sub => exact Coupled.pure sub

theorem findByTenantId_own : Triple (BillingDb.Owned o) (SubscriptionsService.findByTenantId t)
    (fun sub _ => some sub.tenantId = some t ∧ o.customer sub.stripeCustomerId = some t)
    fun _ _ => True := by
  refine Triple.query_bind (fun found => ?_) fun _ _ _ => trivial
  cases found with
  | none => exact Triple.throw fun _ _ => trivial
  | some sub =>
    refine Triple.pure fun db h => ?_
    obtain ⟨hdb, hfound⟩ := h
    have hmem := List.mem_of_find?_eq_some hfound
    have htenant : sub.tenantId = t := by simpa using List.find?_some hfound
    exact ⟨congrArg some htenant, (hdb.subscriptions sub hmem).1.trans (congrArg some htenant)⟩

theorem findByTenantId_reads (db : BillingDb) :
    Keeps (· = db) (SubscriptionsService.findByTenantId t) := by
  refine (Keeps.query _).bind fun found => ?_
  cases found with
  | none => exact Keeps.throw _
  | some sub => exact Keeps.pure sub

theorem getSubscription_forTenant : ForTenant o t (getSubscription t) where
  apart := fun r => (findByTenantId_apart r).bind fun _ => Coupled.pure _
  own := findByTenantId_own.bind fun _ => Triple.pure fun _ h => h.1
  reads := fun db => (findByTenantId_reads db).bind fun _ => Keeps.pure _

/-- A session for the customer of the tenant's subscription. -/
theorem session_forTenant {make : String → SessionRequest} (hmake : ∀ c, (make c).customer = c)
    (url : String) : ForTenant o t (do
      let subscription ← SubscriptionsService.findByTenantId t
      return .session (make subscription.stripeCustomerId) (← query fun _ => url)) where
  apart := fun r => (findByTenantId_apart r).bind fun _ =>
    (Coupled.query fun _ _ _ => rfl).bind fun _ => Coupled.pure _
  own := findByTenantId_own.bind fun sub => Triple.bind
    (Triple.query (Q := fun _ _ => o.customer sub.stripeCustomerId = some t) (fun _ h => h.2)
      fun _ _ _ => trivial) fun _ => Triple.pure fun _ h =>
        (congrArg o.customer (hmake _)).trans h
  reads := fun db => (findByTenantId_reads db).bind fun _ => (Keeps.query _).bind fun _ =>
    Keeps.pure _

theorem createCheckout_forTenant (config : ApiConfig) (priceId : String) (url : Option String) :
    ForTenant o t (createCheckout config priceId url t) :=
  @session_forTenant o t (createCheckoutSession config.stripe · t priceId) (fun _ => rfl)
    (url.getD "")

theorem createPortal_forTenant (config : ApiConfig) (url : String) :
    ForTenant o t (createPortal config url t) :=
  @session_forTenant o t (createCustomerPortalSession config.stripe) (fun _ => rfl) url

theorem listInvoices_forTenant (page limit : Option String) :
    ForTenant o t (listInvoices page limit t) where
  apart := by
    intro r
    refine Coupled.bind (Coupled.query fun s u h => ?_) fun _ => Coupled.pure _
    obtain ⟨_, rfl, rfl⟩ := h
    have hrows : ((part o (some t) s).invoices.filter (·.tenantId = t)) =
        s.invoices.filter (·.tenantId = t) := by
      show (s.invoices.filter _).filter _ = _
      rw [List.filter_filter]
      refine List.filter_congr fun row _ => ?_
      simp
    simp only [hrows]
  own := by
    refine Triple.bind (Triple.query (Q := fun (found : InvoicePage) _ => ∀ row ∈ found.items,
      some row.tenantId = some t) (fun db _ row hrow => ?_) fun _ _ _ => trivial) fun _ =>
        Triple.pure fun _ h => h
    have hmem := List.mem_of_mem_drop (List.mem_of_mem_take hrow)
    exact congrArg some (of_decide_eq_true (List.mem_filter.mp (List.mem_reverse.mp hmem)).2)
  reads := fun db => (Keeps.query _).bind fun _ => Keeps.pure _

/-- No summary without the plans. -/
theorem getRevenue_refused (config : ApiConfig) (now : ℤ) (period : Option String)
    (fault : Faults ApiError) (n : ℕ) (db : BillingDb) :
    getRevenue config now period fault n db =
      (.error (.failed (aliasNotFound "billing")), n, db) := by
  unfold getRevenue getRevenueSummary
  rw [getArrByPlan_refused]
  rfl

end Methods

/-! ## Requests -/

/-- The tenant of the caller's token. -/
def ApiRequest.tenant (request : ApiRequest) : Option String :=
  request.user.bind fun user => truthy user.tenantId

/-- Whom the guards let through: for the revenue a platform admin, else platform admins and holders
    of the permissions. -/
def ApiRequest.Entitled (user : JwtPayload) (request : ApiRequest) : Prop :=
  match request with
  | .getRevenue .. => user.isPlatformAdmin = true
  | _ => user.isPlatformAdmin = true ∨ ∀ p ∈ request.permissions, p ∈ user.permissions.getD []

/-- A request that its guards let through: of an entitled user, and for the tenant of its token
    or, if it asks for the revenue, for nobody. -/
structure Admitted (o : Owners) (config : ApiConfig) (now : ℤ) (request : ApiRequest)
    (method : ApiMethod Answer) : Prop where
  entitled : ∃ user, request.user = some user ∧ request.Entitled user
  works : (∃ t, request.tenant = some t ∧ ForTenant o t method) ∨
    ∃ user period, request = .getRevenue user period ∧ method = getRevenue config now period

section Requests

variable {o : Owners} {config : ApiConfig} {now : ℤ}

theorem permissionsGuard_ok {required : List String} {user : JwtPayload} {v : Unit}
    (h : permissionsGuard required user = .ok v) :
    user.isPlatformAdmin = true ∨ ∀ p ∈ required, p ∈ user.permissions.getD [] := by
  unfold permissionsGuard at h
  split at h
  next hnone => exact Or.inr fun p hp => absurd (hnone ▸ hp) List.not_mem_nil
  next =>
    split at h
    next hadmin => exact Or.inl hadmin
    next =>
      split at h
      next hall => exact Or.inr fun p hp => by simpa using List.all_eq_true.mp hall p hp
      next => cases h

theorem tenantContext_map {user : JwtPayload} {f : String → ApiMethod Answer}
    {method : ApiMethod Answer} (h : (tenantContext user).map f = .ok method) :
    ∃ t, truthy user.tenantId = some t ∧ f t = method := by
  unfold tenantContext at h
  cases ht : truthy user.tenantId with
  | none =>
    rw [ht] at h
    cases h
  | some t =>
    rw [ht] at h
    exact ⟨t, rfl, Except.ok.inj h⟩

/-- The routes for the tenant of the token. -/
theorem admitted_tenant {request : ApiRequest} {user : JwtPayload} {f : String → ApiMethod Answer}
    {method : ApiMethod Answer} (huser : request.user = some user)
    (hentitled : request.Entitled user) (hf : ∀ t, ForTenant o t (f t))
    (h : (tenantContext user).map f = .ok method) : Admitted o config now request method := by
  obtain ⟨t, ht, rfl⟩ := tenantContext_map h
  refine ⟨⟨user, huser, hentitled⟩, Or.inl ⟨t, ?_, hf t⟩⟩
  rw [ApiRequest.tenant, huser]
  exact ht

theorem admitted_of {request : ApiRequest} {method : ApiMethod Answer}
    (h : request.handler config now = .ok method) : Admitted o config now request method := by
  unfold ApiRequest.handler at h
  cases huser : request.user with
  | none =>
    rw [huser] at h
    cases h
  | some user =>
    rw [huser] at h
    cases hguard : permissionsGuard request.permissions user with
    | error e =>
      simp only [jwtAuthGuard, bind, Except.bind, hguard] at h
      cases h
    | ok v =>
      simp only [jwtAuthGuard, bind, Except.bind, hguard] at h
      have hpermitted := permissionsGuard_ok hguard
      cases request with
      | getSubscription u =>
        exact admitted_tenant huser hpermitted (fun _ => getSubscription_forTenant) h
      | createCheckout u priceId url =>
        exact admitted_tenant huser hpermitted
          (fun _ => createCheckout_forTenant config priceId url) h
      | createPortal u url =>
        exact admitted_tenant huser hpermitted (fun _ => createPortal_forTenant config url) h
      | listInvoices u page limit =>
        exact admitted_tenant huser hpermitted (fun _ => listInvoices_forTenant page limit) h
      | getRevenue u period =>
        simp only [ApiRequest.body] at h
        split at h
        next => cases h
        next hadmin =>
          cases h
          have hplatform : user.isPlatformAdmin = true := by simpa using hadmin
          exact ⟨⟨user, huser, hplatform⟩, Or.inr ⟨u, period, rfl, rfl⟩⟩

end Requests

/-! ## Calls -/

/-- Whom a call is for. -/
def BillingCall.owner (o : Owners) : BillingCall → Option String
  | .input (.webhook _ (.ok event) _) => o.event event.id
  | .input (.webhook _ (.error _) _) => none
  | .input (.provisioned _ msg _ _) => some msg.tenantId
  | .request _ _ (.getRevenue ..) => none
  | .request _ _ req => req.tenant

/-- What Stripe and the broker say about owners. -/
def BillingCall.WellOwned (o : Owners) : BillingCall → Prop
  | .input (.webhook _ (.ok event) _) => event.data.WellOwned o (o.event event.id)
  | .input (.provisioned _ msg customer _) => o.customer customer = some msg.tenantId
  | .input (.webhook _ (.error _) _) => True
  | .request _ _ _ => True

section Calls

variable {o : Owners} {config : ApiConfig} {k : Option String} {db : BillingDb}

/-- A run of a coupled method on the tables and on the part. -/
theorem apart_of_coupled {ε α : Type} {x : Faulty BillingDb ε α} (fault : Faults ε)
    (hx : Coupled (Apart o k (outside o k db)) x) (hdb : db.Owned o) :
    (x fault 0 (part o k db)).1 = (x fault 0 db).1 ∧
      Apart o k (outside o k db) (x fault 0 db).2.2 (x fault 0 (part o k db)).2.2 := by
  obtain ⟨hout, -, hend⟩ := hx fault 0 db (part o k db) ⟨hdb, rfl, rfl⟩
  exact ⟨hout, hend⟩

/-- A delivery or a message works in the part of its owner. -/
theorem serve_apart (config : ApiConfig) {i : BillingInput} (hw : (BillingCall.input i).WellOwned o)
    (hk : (BillingCall.input i).owner o = k) (hdb : db.Owned o) :
    Apart o k (outside o k db) (serve config db (.input i)).1
        (serve config (part o k db) (.input i)).1 ∧
      (serve config (part o k db) (.input i)).2 = (serve config db (.input i)).2 := by
  cases i with
  | webhook env constructed fault =>
    have hx : Coupled (Apart o k (outside o k db)) (handleWebhook env constructed) := by
      cases constructed with
      | error message => exact Coupled.pure _
      | ok event => exact handleWebhook_apart env hk (hk ▸ hw)
    obtain ⟨hout, hend⟩ := apart_of_coupled fault hx hdb
    exact ⟨hend, congrArg BillingReply.webhook hout⟩
  | provisioned env msg customer fault =>
    have hcustomer : o.customer customer = k := Eq.trans hw hk
    obtain ⟨hout, hend⟩ := apart_of_coupled fault
      (onTenantProvisioned_apart env hk hcustomer) hdb
    exact ⟨hend, congrArg BillingReply.consumed hout⟩

theorem serve_request {now : ℤ} {fault : Faults ApiError} {request : ApiRequest}
    {method : ApiMethod Answer} (h : request.handler config now = .ok method) :
    serve config db (.request now fault request) =
      ((method fault 0 db).2.2, .api (method fault 0 db).1) := by
  rw [serve, h]

theorem serve_refused {now : ℤ} {fault : Faults ApiError} {request : ApiRequest} {e : ApiError}
    (h : request.handler config now = .error e) :
    serve config db (.request now fault request) = (db, .api (.error e)) := by
  rw [serve, h]

/-- Requests write nothing. -/
theorem request_reads (db : BillingDb) (now : ℤ) (fault : Faults ApiError)
    (request : ApiRequest) : (serve config db (.request now fault request)).1 = db := by
  cases hhandler : request.handler config now with
  | error e => rw [serve_refused hhandler]
  | ok method =>
    rw [serve_request hhandler]
    have hadmitted : Admitted ⟨fun _ => none, fun _ => none, fun _ => none, fun _ => none⟩ config
      now request method := admitted_of hhandler
    obtain ⟨t, -, hfor⟩ | ⟨user, period, -, rfl⟩ := hadmitted.works
    · exact hfor.reads db fault 0 db rfl
    · rw [getRevenue_refused]

theorem serve_owned {c : BillingCall} (hw : c.WellOwned o) (hdb : db.Owned o) :
    (serve config db c).1.Owned o := by
  cases c with
  | input i => exact (serve_apart config hw rfl hdb).1.owned
  | request now fault request =>
    rw [request_reads]
    exact hdb

/-- What belongs to one is outside of what belongs to another. -/
theorem part_of_outside {k k' : Option String} {s u : BillingDb} (hne : k' ≠ k)
    (h : outside o k' u = outside o k' s) : part o k u = part o k s := by
  have hcut : ∀ {ρ : Type} (own : ρ → Option String) {rows rows' : List ρ},
      rows.filter (own · ≠ k') = rows'.filter (own · ≠ k') →
        rows.filter (own · = k) = rows'.filter (own · = k) := by
    intro ρ own rows rows' heq
    have hboth : ∀ l : List ρ, l.filter (own · = k) =
        (l.filter (own · ≠ k')).filter (own · = k) := by
      intro l
      rw [List.filter_filter]
      refine List.filter_congr fun row _ => ?_
      by_cases hk : own row = k
      · simp [hk, hne.symm]
      · simp [hk]
    rw [hboth rows, hboth rows', heq]
  have hsubs := hcut (fun row : Subscription => some row.tenantId)
    (congrArg BillingDb.subscriptions h)
  have hinvoices := hcut (fun row : Invoice => some row.tenantId) (congrArg BillingDb.invoices h)
  have hevents := hcut (fun row : WebhookEvent => o.event row.stripeEventId)
    (congrArg BillingDb.webhookEvents h)
  have hmessages := hcut (Message.owner o) (congrArg BillingDb.messages h)
  have hhandled := hcut o.event (congrArg BillingDb.handled h)
  simp only [part, hsubs, hinvoices, hevents, hmessages, hhandled]

end Calls

/-! ## Runs -/

def BillingCall.concerns (o : Owners) (t : String) (c : BillingCall) : Bool :=
  c.owner o = some t

/-- The service for all tenants, seen by one of them. -/
theorem serve_unwinds (o : Owners) (config : ApiConfig) (t : String) :
    Unwinds (serve config) (BillingCall.concerns o t) (part o (some t)) (BillingDb.Owned o)
      fun _ c => c.WellOwned o where
  keeps := fun _ _ hdb hw => serve_owned hw hdb
  others := by
    intro db c hdb hw hother
    have hne : c.owner o ≠ some t := of_decide_eq_false hother
    cases c with
    | input i =>
      obtain ⟨hend, -⟩ := serve_apart config hw rfl hdb
      exact part_of_outside hne hend.rest
    | request now fault request => rw [request_reads]
  own := by
    intro db c hdb hw hmine
    have howner : c.owner o = some t := of_decide_eq_true hmine
    cases c with
    | input i =>
      obtain ⟨hend, hreply⟩ := serve_apart config hw howner hdb
      exact Prod.ext hend.part hreply
    | request now fault request =>
      cases hhandler : request.handler config now with
      | error e => rw [serve_refused hhandler, serve_refused hhandler]
      | ok method =>
        have hadmitted : Admitted o config now request method := admitted_of hhandler
        obtain ⟨t', ht', hfor⟩ | ⟨user, period, rfl, -⟩ := hadmitted.works
        · have htenant : some t' = some t := by
            rw [← ht', ← howner]
            cases request with
            | getRevenue user period => cases howner
            | _ => rfl
          obtain rfl := Option.some.inj htenant
          obtain ⟨hout, hend⟩ := apart_of_coupled fault (hfor.apart _) hdb
          rw [serve_request hhandler, serve_request hhandler]
          exact Prod.ext hend.part (congrArg BillingReply.api hout)
        · cases howner

/-- Who asked, and what the answer is about. -/
def Confined (o : Owners) (c : BillingCall) (reply : BillingReply) : Prop :=
  ∀ answer, reply = .api (.ok answer) → ∃ now fault request user,
    c = .request now fault request ∧ request.user = some user ∧ request.Entitled user ∧
      answer.Private o (truthy user.tenantId)

theorem serve_confined {o : Owners} {config : ApiConfig} {db : BillingDb} (hdb : db.Owned o)
    (c : BillingCall) : Confined o c (serve config db c).2 := by
  intro answer hreply
  cases c with
  | input i => cases i <;> cases hreply
  | request now fault request =>
    cases hhandler : request.handler config now with
    | error e =>
      rw [serve_refused hhandler] at hreply
      cases hreply
    | ok method =>
      have hadmitted : Admitted o config now request method := admitted_of hhandler
      obtain ⟨user, huser, hentitled⟩ := hadmitted.entitled
      rw [serve_request hhandler] at hreply
      have hok : (method fault 0 db).1 = .ok answer := BillingReply.api.inj hreply
      refine ⟨now, fault, request, user, rfl, huser, hentitled, ?_⟩
      have hrun : method fault 0 db = (.ok answer, (method fault 0 db).2) := Prod.ext hok rfl
      obtain ⟨t, ht, hfor⟩ | ⟨user', period, -, rfl⟩ := hadmitted.works
      · rw [ApiRequest.tenant, huser] at ht
        rw [show truthy user.tenantId = some t from ht]
        exact hfor.own.ok hdb hrun
      · rw [getRevenue_refused] at hrun
        cases hrun

/-- A platform admin that asks for the revenue is told what TypeORM says, everybody else that it is
    not for him. -/
def RevenueRefused (c : BillingCall) (reply : BillingReply) : Prop :=
  ∀ now fault user period, c = .request now fault (.getRevenue user period) →
    ∃ e, reply = .api (.error e) ∧ ∀ u, user = some u → u.isPlatformAdmin = true →
      e = .failed (aliasNotFound "billing")

/-- The guards of the route: no permission is asked for, the controller asks for the admin. -/
theorem revenue_handler (config : ApiConfig) (now : ℤ) (user : Option JwtPayload)
    (period : Option String) :
    (∃ e, (ApiRequest.getRevenue user period).handler config now = .error e ∧
      ∀ u, user = some u → u.isPlatformAdmin = false) ∨
    (ApiRequest.getRevenue user period).handler config now =
      .ok (getRevenue config now period) := by
  cases user with
  | none => exact Or.inl ⟨_, rfl, fun _ h => nomatch h⟩
  | some u =>
    have hbody : (ApiRequest.getRevenue (some u) period).handler config now =
        (ApiRequest.getRevenue (some u) period).body config now u := rfl
    rw [hbody, ApiRequest.body]
    cases hadmin : u.isPlatformAdmin with
    | false => exact Or.inl ⟨_, rfl, fun _ h => Option.some.inj h ▸ hadmin⟩
    | true => exact Or.inr rfl

theorem serve_revenue (config : ApiConfig) (db : BillingDb) (c : BillingCall) :
    RevenueRefused c (serve config db c).2 := by
  rintro now fault user period rfl
  obtain ⟨e, hhandler, hother⟩ | hhandler := revenue_handler config now user period
  · rw [serve_refused hhandler]
    refine ⟨e, rfl, fun u hu hadmin => ?_⟩
    rw [hother u hu] at hadmin
    cases hadmin
  · rw [serve_request hhandler, getRevenue_refused]
    exact ⟨_, rfl, fun _ _ _ => rfl⟩

/-- What a tenant has of the run of a shared billing engine. -/
structure PrivateBilling (o : Owners) (config : ApiConfig) (t : String) (db : BillingDb)
    (cs : List BillingCall) : Prop where
  /-- Its part is what its deliveries and messages make of it. -/
  own : part o (some t) (run (afterInput (serve config)) db cs) =
    run (afterInput (serve config)) (part o (some t) db) (cs.filter (·.concerns o t))
  /-- Its users get the answers that they would get without the others. -/
  answers : (answerLog (serve config) db cs).filter (·.1.concerns o t) =
    answerLog (serve config) (part o (some t) db) (cs.filter (·.concerns o t))
  /-- Nobody gets an answer that is not his: no other tenant's rows, no session for another tenant's
      customer. -/
  confined : ∀ a ∈ answerLog (serve config) db cs, Confined o a.1 a.2
  /-- And nobody the revenue. -/
  revenue : ∀ a ∈ answerLog (serve config) db cs, RevenueRefused a.1 a.2

/-- Whatever is delivered and asked in whatever order, as long as every object of Stripe is
    announced for one tenant only. -/
theorem private_billing (o : Owners) (config : ApiConfig) (t : String) {db : BillingDb}
    (hdb : db.Owned o) {cs : List BillingCall} (hcs : ∀ c ∈ cs, c.WellOwned o) :
    PrivateBilling o config t db cs where
  own := (serve_unwinds o config t).run hdb (stepsSatisfy_of_forall hcs)
  answers := (serve_unwinds o config t).answerLog hdb (stepsSatisfy_of_forall hcs)
  confined := fun _ ha => answerLog_forall (I := BillingDb.Owned o) (C := BillingCall.WellOwned o)
    (P := Confined o) (fun _ _ hdb hw => serve_owned hw hdb)
    (fun _ c hdb _ => serve_confined hdb c) hdb hcs ha
  revenue := fun _ ha => answerLog_forall (I := BillingDb.Owned o) (C := BillingCall.WellOwned o)
    (P := RevenueRefused) (fun _ _ hdb hw => serve_owned hw hdb)
    (fun db c _ _ => serve_revenue config db c) hdb hcs ha

namespace Sample

def owners : Owners :=
  { customer := fun c => if c = "cus_1" then some "t1" else if c = "cus_2" then some "t2" else none
    subscription := fun s => if s = "sub_2" then some "t2" else none
    invoice := fun i => if i = "in_1" then some "t1" else none
    event := fun e => if e = "evt_1" then some "t1" else if e = "evt_2" then some "t2" else none }

def billingConfig : ApiConfig :=
  { stripe := { successUrl := "/success", cancelUrl := "/cancel", portalReturnUrl := "/billing" }
    toChar := fun _ _ => "2024-01"
    month := fun _ => 0 }

def manager (t : String) : JwtPayload :=
  { tenantId := some t, isPlatformAdmin := false, permissions := some ["billing:manage"] }

def admin : JwtPayload := { tenantId := none, isPlatformAdmin := true, permissions := none }

/-- Two tenants with their customers; one pays, the other asks for a portal session, and the
    administrator for the revenue. -/
def twoCustomers : List BillingCall :=
  [.input (.provisioned env provisioning "cus_1" noFaults),
   .input (.provisioned env { provisioning with tenantId := "t2" } "cus_2" noFaults),
   .input (.webhook env (.ok ⟨"evt_1", 0, .invoicePaid monthly⟩) noFaults),
   .input (.webhook env (.ok ⟨"evt_2", 0, .customerCreated ⟨"cus_2", some "t2"⟩⟩) noFaults),
   .request 0 noFaults (.createPortal (some (manager "t2")) "https://portal"),
   .request 0 noFaults (.listInvoices (some (manager "t2")) none none),
   .request 0 noFaults (.getRevenue (some admin) none)]

end Sample

theorem private_billing_sample :
    PrivateBilling Sample.owners Sample.billingConfig "t1" .empty Sample.twoCustomers := by
  refine private_billing Sample.owners Sample.billingConfig "t1" ⟨?_, ?_⟩ ?_
  · exact fun _ h => absurd h List.not_mem_nil
  · exact fun _ h => absurd h List.not_mem_nil
  · simp [Sample.twoCustomers, BillingCall.WellOwned, EventData.WellOwned, Sample.owners,
      Sample.provisioning, Sample.monthly, StripeInvoice.customerId, CustomerRef.customerId, truthy]

end SaasChassis.Billing
