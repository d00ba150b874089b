/-
  Do the publishers of audit events and their consumer agree?

  Decoding finds each message's members under the tags of `AuditEvent`. The identity service
  leaves the tenant out or puts it where no tag finds it, and the billing engine leaves out the
  tenant or the action: none of their events is ever stored (`not_stored`). An event of the SDK
  is stored as it was sent if and only if its values are in the types of their columns
  (`stored_once_iff`); `login_dropped` is a login.
-/
import SaasChassis.Audit.Publishers
import SaasChassis.Audit.Repository

namespace SaasChassis.Audit

open SaasChassis.Lib SaasChassis.Lib.Postgres

/-! ## Statement -/

section Statement

variable (lib : Libraries) (table : List Entry)

/-- Decoded and inserted, the event adds one row, which has its tenant, user and action. -/
def StoredOnce (p : Published) : Prop :=
  ∃ e entry, AuditEvent.decode p.message = some e ∧
    batchInsert lib table [e] = .ok (table ++ [entry]) ∧ entry.tenantId = p.actor.tenant ∧
    entry.userId = some p.actor.user ∧ Utf16.ofString entry.action.label = p.action

end Statement

/-- `resourceId` as the consumer decodes it; `none` where that fails. -/
def Decorated.resourceIdText (d : Decorated) : Option String :=
  d.resourceId.elim (some "") (WireJson.decodeString "")

/-- The values of an SDK event are in the types of their columns. -/
structure Decorated.Fits (d : Decorated) : Prop where
  action : ∃ a : AuditAction, d.auditAction = a.label
  requestId : (uuidIn d.requestId).isSome
  resourceType : (varchar 100 d.resourceType).isSome
  resourceId : ∃ s, d.resourceIdText = some s ∧ (s = "" ∨ (varchar 255 s).isSome)
  changes : isJsonb d.changes
  serviceName : (varchar 100 d.serviceName.toWellFormed).isSome

/-- The event comes from the SDK, and fits. -/
def Published.Fits : Published → Prop
  | decorated _ d => d.Fits
  | _ => False

/-! ## Decoding -/

theorem decodeString_str (old : String) (s : Utf16) :
    WireJson.decodeString old (.str s) = some s.toWellFormed := rfl

/-- The tags that the producers use. -/
theorem field_known :
    AuditEvent.field "tenantId" = some .tenantID ∧ AuditEvent.field "userId" = some .userID ∧
    AuditEvent.field "action" = some .action ∧
    AuditEvent.field "resourceType" = some .resourceType ∧
    AuditEvent.field "resourceId" = some .resourceID ∧
    AuditEvent.field "changes" = some .changes ∧
    AuditEvent.field "requestId" = some .requestID ∧
    AuditEvent.field "serviceName" = some .serviceName := by
  decide +kernel

/-- The other members that they send, which no tag finds. -/
theorem field_unknown : ∀ key ∈ ["meta", "timestamp", "stripeSubscriptionId", "stripeCustomerId",
    "status", "occurredAt", "stripeInvoiceId", "amountPaid", "currency"],
    AuditEvent.field (key : String) = none := by
  decide +kernel

/-- What the consumer makes of the SDK's event. -/
def Decorated.decoded (d : Decorated) (a : Actor) (resourceID : String) : AuditEvent :=
  { AuditEvent.zero with
    tenantID := a.tenant.format
    userID := a.user.format
    action := d.auditAction.toWellFormed
    resourceType := d.resourceType
    resourceID := resourceID
    changes := some d.changes
    requestID := d.requestId
    serviceName := d.serviceName.toWellFormed }

theorem decode_decorated (a : Actor) (d : Decorated) :
    AuditEvent.decode (d.event a) = d.resourceIdText.map (d.decoded a) := by
  obtain ⟨htenant, huser, haction, htype, hid, hchanges, hrequest, hservice⟩ := field_known
  have hno := field_unknown "timestamp" (by decide)
  have hstr := decodeString_str
  rw [Decorated.resourceIdText, AuditEvent.decode, Decorated.event, stringify, Json.decodeStruct]
  cases d.resourceId with
  | none =>
    simp [Json.decodeMembers, htenant, huser, haction, htype, hchanges, hrequest, hservice, hno,
      AuditEvent.assign, hstr, Decorated.decoded, AuditEvent.zero]
  | some id =>
    cases hdecode : WireJson.decodeString "" id with
    | none =>
      simp [Json.decodeMembers, htenant, huser, haction, htype, hid, AuditEvent.assign, hstr,
        AuditEvent.zero, hdecode]
    | some s =>
      simp [Json.decodeMembers, htenant, huser, haction, htype, hid, hchanges, hrequest, hservice,
        hno, AuditEvent.assign, hstr, Decorated.decoded, AuditEvent.zero, hdecode]

/-- An event of the identity service or the billing engine has no tenant or no action once it
    is decoded. -/
theorem decode_incomplete {p : Published} (hp : ∀ a d, p ≠ .decorated a d) {e : AuditEvent}
    (h : AuditEvent.decode p.message = some e) : e.tenantID = "" ∨ e.action = "" := by
  obtain ⟨htenant, huser, haction, _⟩ := field_known
  have hno := field_unknown
  simp only [List.forall_mem_cons, List.not_mem_nil, false_implies, implies_true, and_true] at hno
  have hstr := decodeString_str
  cases p with
  | login a l =>
    have hmessage : AuditEvent.decode (l.event a) =
        some { AuditEvent.zero with userID := a.user.format, action := "login" } := by
      simp [AuditEvent.decode, Login.event, stringify, Json.decodeStruct, Json.decodeMembers, huser,
        haction, hno, AuditEvent.assign, hstr, AuditEvent.zero]
    rw [Published.message, hmessage] at h
    cases h
    exact Or.inl rfl
  | impersonate a i =>
    have hmessage : AuditEvent.decode (i.event a) =
        some { AuditEvent.zero with userID := a.user.format, action := "impersonate" } := by
      simp [AuditEvent.decode, Impersonation.event, stringify, Json.decodeStruct,
        Json.decodeMembers, huser, haction, hno, AuditEvent.assign, hstr, AuditEvent.zero]
    rw [Published.message, hmessage] at h
    cases h
    exact Or.inl rfl
  | httpRequest a r =>
    have hmessage : AuditEvent.decode (r.event a) =
        some { AuditEvent.zero with userID := a.user.format, action := r.action } := by
      simp [AuditEvent.decode, HttpRequest.event, stringify, Json.decodeStruct,
        Json.decodeMembers, huser, haction, hno, AuditEvent.assign, hstr, AuditEvent.zero]
    rw [Published.message, hmessage] at h
    cases h
    exact Or.inl rfl
  | subscriptionCreated a s =>
    have hmessage : AuditEvent.decode s.event = some AuditEvent.zero := by
      simp [AuditEvent.decode, SubscriptionCreated.event, stringify, Json.decodeStruct,
        Json.decodeMembers, hno]
    rw [Published.message, hmessage] at h
    cases h
    exact Or.inl rfl
  | paymentSucceeded a q =>
    have hmessage : AuditEvent.decode (q.event a) =
        some { AuditEvent.zero with tenantID := a.tenant.format } := by
      simp [AuditEvent.decode, PaymentSucceeded.event, stringify, Json.decodeStruct,
        Json.decodeMembers, htenant, hno, AuditEvent.assign, hstr, AuditEvent.zero]
    rw [Published.message, hmessage] at h
    cases h
    exact Or.inr rfl
  | decorated a d => exact absurd rfl (hp a d)

/-! ## The result -/

variable {lib : Libraries} {table : List Entry}

theorem batchInsert_single_iff {e : AuditEvent} {entry : Entry} :
    batchInsert lib table [e] = .ok (table ++ [entry]) ↔
      lib.uuidParse e.tenantID ∧ Entry.ofEvent lib e = some entry := by
  rw [batchInsert_ok_iff]
  cases hparse : lib.uuidParse e.tenantID with
  | false =>
    rw [queued_of_not_parse hparse]
    simp [queued]
  | true =>
    rw [queued_of_parse hparse, List.mapM_cons]
    cases Entry.ofEvent lib e <;> simp [queued, eq_comm]

theorem not_stored {p : Published} (hp : ∀ a d, p ≠ .decorated a d) :
    ¬ StoredOnce lib table p := by
  rintro ⟨e, entry, hdecode, hinsert, _⟩
  obtain ⟨_, hentry⟩ := batchInsert_single_iff.mp hinsert
  obtain ⟨htenant, _, haction⟩ := of_ofEvent hentry
  obtain hempty | hempty := decode_incomplete hp hdecode
  · rw [hempty] at htenant
    exact nomatch htenant
  · rw [hempty] at haction
    exact nomatch haction

theorem format_ne_empty (u : Uuid) : u.format ≠ "" := by
  intro h
  have hread := uuidIn_format u
  rw [h] at hread
  exact nomatch hread

theorem requestId_ne_empty (d : Decorated) : d.requestId ≠ "" := by
  unfold Decorated.requestId
  split
  next => exact format_ne_empty _
  next => exact format_ne_empty _
  next id hne _ =>
    rintro rfl
    exact hne rfl

theorem serviceName_ne_empty (d : Decorated) : d.serviceName.toWellFormed ≠ "" := by
  intro h
  rw [Utf16.toWellFormed_eq_iff (by decide)] at h
  unfold Decorated.serviceName at h
  split at h
  next => exact absurd (Utf16.ofString_injective h) (by decide)
  next =>
    split at h
    next => exact absurd (Utf16.ofString_injective h) (by decide)
    next hne => exact hne h

/-- The labels are text, so no replaced character makes one. -/
theorem ofLabel_toWellFormed (s : Utf16) (action : AuditAction) :
    AuditAction.ofLabel s.toWellFormed = some action ↔ s = action.label := by
  have htext : '\uFFFD' ∉ action.label.toList := by cases action <;> decide
  constructor
  · intro h
    exact (Utf16.toWellFormed_eq_iff htext).mp (AuditAction.label_of_ofLabel h).symm
  · rintro rfl
    rw [Utf16.toWellFormed_ofString]
    cases action <;> decide

/-- A nullable column takes the empty string as null. -/
theorem column_nilIfEmpty {α : Type} (read : String → Option α) (s : String) :
    (column read (nilIfEmpty s)).isSome ↔ s = "" ∨ (read s).isSome := by
  unfold nilIfEmpty
  split
  next h => exact ⟨fun _ => Or.inl h, fun _ => rfl⟩
  next h => simp [column, h]

theorem column_of_ne {α : Type} (read : String → Option α) {s : String} (h : s ≠ "") :
    (column read (nilIfEmpty s)).isSome ↔ (read s).isSome := by
  rw [column_nilIfEmpty, or_iff_right h]

/-- The table takes the SDK's event when each of its values is in the type of its column. -/
theorem ofEvent_decoded_isSome (a : Actor) (d : Decorated) (resourceID : String) :
    (Entry.ofEvent lib (d.decoded a resourceID)).isSome ↔
      (∃ action : AuditAction, d.auditAction = action.label) ∧ (uuidIn d.requestId).isSome ∧
        (varchar 100 d.resourceType).isSome ∧
        (resourceID = "" ∨ (varchar 255 resourceID).isSome) ∧ isJsonb d.changes ∧
        (varchar 100 d.serviceName.toWellFormed).isSome := by
  have haction : (AuditAction.ofLabel d.auditAction.toWellFormed).isSome ↔
      ∃ action : AuditAction, d.auditAction = action.label := by
    simp only [Option.isSome_iff_exists, ofLabel_toWellFormed]
  have hchanges : (jsonb (some d.changes)).isSome ↔ isJsonb d.changes := by
    unfold jsonb
    split <;> simp_all
  have hformat : ∀ u : Uuid, (uuidIn u.format).isSome := fun u => by rw [uuidIn_format]; rfl
  rw [ofEvent_isSome]
  constructor
  · intro h
    exact ⟨haction.mp h.action, (column_of_ne uuidIn (requestId_ne_empty d)).mp h.requestId, h.resourceType,
      (column_nilIfEmpty _ _).mp h.resourceId, hchanges.mp h.changes,
      (column_of_ne (varchar 100) (serviceName_ne_empty d)).mp h.serviceName⟩
  · rintro ⟨hlabel, hrequest, htype, hid, hbody, hservice⟩
    exact
      { tenantId := hformat _
        userId := (column_of_ne uuidIn (format_ne_empty _)).mpr (hformat _)
        action := haction.mpr hlabel
        resourceType := htype
        resourceId := (column_nilIfEmpty _ _).mpr hid
        description := rfl
        changes := hchanges.mpr hbody
        metadata := rfl
        ipAddress := rfl
        userAgent := rfl
        serviceName := (column_of_ne (varchar 100) (serviceName_ne_empty d)).mpr hservice
        requestId := (column_of_ne uuidIn (requestId_ne_empty d)).mpr hrequest }

/-- What is stored of it has the acting tenant and user, and the action. -/
theorem entry_of_decoded {a : Actor} {d : Decorated} {resourceID : String} {entry : Entry}
    (h : Entry.ofEvent lib (d.decoded a resourceID) = some entry) :
    entry.tenantId = a.tenant ∧ entry.userId = some a.user ∧
      Utf16.ofString entry.action.label = d.auditAction := by
  obtain ⟨htenant, huser, haction⟩ := of_ofEvent h
  have huser' : column uuidIn (nilIfEmpty a.user.format) = some (some a.user) := by
    rw [nilIfEmpty, if_neg (format_ne_empty _), column, uuidIn_format]
    rfl
  refine ⟨?_, ?_, ((ofLabel_toWellFormed _ _).mp haction).symm⟩
  · exact (Option.some.inj ((uuidIn_format a.tenant).symm.trans htenant)).symm
  · exact (Option.some.inj (huser'.symm.trans huser)).symm

theorem stored_once_iff (lib : Libraries) (table : List Entry) (p : Published) :
    StoredOnce lib table p ↔ p.Fits := by
  cases p with
  | decorated a d =>
    have hmessage : (Published.decorated a d).message = d.event a := rfl
    constructor
    · rintro ⟨e, entry, hdecode, hinsert, _⟩
      rw [hmessage, decode_decorated] at hdecode
      obtain ⟨resourceID, hid, rfl⟩ := Option.map_eq_some_iff.mp hdecode
      obtain ⟨_, hentry⟩ := batchInsert_single_iff.mp hinsert
      have htaken : (Entry.ofEvent lib (d.decoded a resourceID)).isSome := hentry ▸ rfl
      obtain ⟨haction, hrequest, htype, hlength, hchanges, hservice⟩ :=
        (ofEvent_decoded_isSome a d resourceID).mp htaken
      exact ⟨haction, hrequest, htype, ⟨resourceID, hid, hlength⟩, hchanges, hservice⟩
    · rintro ⟨haction, hrequest, htype, ⟨resourceID, hid, hlength⟩, hchanges, hservice⟩
      have htaken : (Entry.ofEvent lib (d.decoded a resourceID)).isSome :=
        (ofEvent_decoded_isSome a d resourceID).mpr
          ⟨haction, hrequest, htype, hlength, hchanges, hservice⟩
      obtain ⟨entry, hentry⟩ := Option.isSome_iff_exists.mp htaken
      refine ⟨d.decoded a resourceID, entry, ?_, ?_, entry_of_decoded hentry⟩
      · rw [hmessage, decode_decorated, hid]
        rfl
      · exact batchInsert_single_iff.mpr ⟨lib.uuidParse_format a.tenant, hentry⟩
  | _ => exact ⟨not_stored (by rintro _ _ ⟨⟩), False.elim⟩

namespace Sample

/-- Libraries that accept a UUID as PostgreSQL does, and no address. -/
def libraries : Libraries where
  uuidParse := fun s => (uuidIn s).isSome
  uuidParse_format := fun u => by rw [uuidIn_format]; rfl
  inet := fun _ => none

def zeros : Uuid := ⟨List.replicate 32 0, by decide⟩

def ones : Uuid := ⟨List.replicate 32 1, by decide⟩

def login : Published :=
  .login ⟨zeros, ones⟩ ⟨"ada@example.com", some "10.0.0.1", "2024-01-15T10:00:00.000Z"⟩

end Sample

open Sample

theorem login_dropped : ¬ StoredOnce libraries [] login := by
  rintro ⟨e, entry, hdecode, hinsert, _⟩
  have hskipped : AuditEvent.decode login.message =
      some { AuditEvent.zero with userID := ones.format, action := "login" } := by
    rfl
  cases hdecode.symm.trans hskipped
  have hempty : batchInsert libraries []
      [{ AuditEvent.zero with userID := ones.format, action := "login" }] = .ok [] := by
    rfl
  exact nomatch hinsert.symm.trans hempty

end SaasChassis.Audit
