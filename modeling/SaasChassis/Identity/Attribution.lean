/-
  Is an impersonator's trail ever lost?

  A holder starts with one impersonation token, of the administrator `a` as the user `u`, and
  makes any requests with the tokens it gets, while everybody else uses the service too.
  switchTenant looks at the subject of a token only and builds an ordinary one for it, so the
  holder leaves the run with an ordinary token of `u` exactly when one of its switch requests
  as `u` is accepted (`impersonation_attributable_iff`). No other request does it:
  `holdings_step` is the invariant behind that.
-/
import SaasChassis.Identity.Requests

namespace SaasChassis.Identity

open SaasChassis.Lib

/-! ## Statement -/

/-- The holder has this token and no other. -/
def System.handTo (sys : System) (token : JwtPayload) : System := { sys with held := [token] }

/-- Every token of `u` the holder has says that `a` plays `u`. -/
def System.Attributed (sys : System) (a u : String) : Prop :=
  ∀ token ∈ sys.held, token.sub = u → token.isImpersonating = true ∧ token.realUserId = some a

/-- switchTenant takes the token and finds a row, of any status, or an administrator. -/
def SwitchAccepted (env : Env) (db : IdentityDb) (token : JwtPayload) (t : String) : Prop :=
  validate env token db = .ok () ∧
    ((∃ m ∈ visible env db, m.userId = token.sub ∧ m.tenantId = t) ∨ HasFlag db token.sub true)

/-- The step is no accepted switch of the holder as `u`. -/
def NoSwitchAs (u : String) (sys : System) : SystemInput → Prop
  | .holder env token (.switchTenant t) =>
    token ∈ sys.held → token.sub = u → ¬ SwitchAccepted env sys.db token t
  | _ => True

/-! ## What the holder can have -/

/-- A token the holder may have without the trail being lost. -/
structure Holding (db : IdentityDb) (a u : String) (p : UnsignedPayload) : Prop where
  real : p.isImpersonating = true → p.realUserId = some a
  subject : p.sub = a ∨ HasFlag db p.sub false
  attributed : p.sub = u → p.isImpersonating = true

structure Holdings (a u : String) (sys : System) : Prop where
  sound : sys.Sound
  admin : HasFlag sys.db a true
  target : HasFlag sys.db u false
  held : ∀ token ∈ sys.held, Holding sys.db a u token.toUnsignedPayload

theorem Holding.kept {db db' : IdentityDb} {a u : String} (hs : db.Schema) (hw : Writes db db')
    {p : UnsignedPayload} (h : Holding db a u p) : Holding db' a u p :=
  { h with subject := h.subject.imp_right (hw.flag hs) }

theorem switchAccepted_of_ok {svc : Service} {env : Env} {db : IdentityDb} {token : JwtPayload}
    {t : String} {res : Option JwtPayload}
    (h : (handle svc env token (.switchTenant t) db).2 = .ok res) :
    SwitchAccepted env db token t := by
  obtain ⟨hv, hx⟩ := handle_ok h
  obtain ⟨res', hres, _⟩ := map_ok hx
  obtain ⟨user, huser, hfound, _⟩ := AuthService.switchTenant_ok hres
  obtain ⟨hmem, hid⟩ := findUserById_ok huser
  refine ⟨hv, ?_⟩
  cases hf : findByUserAndTenant env db token.sub t with
  | some m =>
    obtain ⟨hvis, hu, ht⟩ := findByUserAndTenant_some hf
    exact Or.inl ⟨m, hvis, hu, ht⟩
  | none => exact Or.inr ⟨user, hmem, hid, hfound hf⟩

/-- What the holder gets for a token it has, switches as `u` apart. -/
theorem holding_of_signs {svc : Service} {env : Env} {a u : String} {sys : System}
    (h : Holdings a u sys) {token : JwtPayload} (hmem : token ∈ sys.held) {req : AuthRequest}
    (hno : ∀ t, req = .switchTenant t → token.sub ≠ u) {p : UnsignedPayload}
    (hp : Signs svc env sys.db (req.command token) p) : Holding sys.db a u p := by
  have hs := h.sound.schema
  have htoken := h.held token hmem
  have hne : a ≠ u := by
    intro he
    have htarget := h.target
    rw [← he] at htarget
    exact absurd (hs.flag_unique h.admin htarget) (by decide)
  cases req with
  | switchTenant t =>
    cases hp with
    | switchTenant _ _ user mem id found =>
      exact { real := fun hi => Bool.noConfusion hi
              subject := by
                show user.id = a ∨ HasFlag sys.db user.id false
                rw [id]
                exact htoken.subject
              attributed := fun hu => absurd (id.symm.trans hu) (hno t rfl) }
  | startImpersonation dto =>
    cases hp with
    | startImpersonation _ _ admin target caller adminMem adminId targetMem targetId flag =>
      have hsub : token.sub = a := by
        have hflag := (h.sound.issued token (h.sound.held token hmem)).admin caller
        obtain he | hf := htoken.subject
        · exact he
        · exact absurd (hs.flag_unique hflag hf) (by decide)
      exact { real := fun _ => congrArg some (adminId.trans hsub)
              subject := Or.inr ⟨target, targetMem, rfl, flag⟩
              attributed := fun _ => rfl }
  | endImpersonation =>
    cases hp with
    | endImpersonation _ realUserId user imp real mem id =>
      have ha : user.id = a := by
        have hreal := htoken.real imp
        exact id.trans (Option.some.inj (real.symm.trans hreal))
      exact { real := fun hi => Bool.noConfusion hi
              subject := Or.inl ha
              attributed := fun hu => absurd (ha.symm.trans hu) hne }
  | logout value => cases hp
  | createUser dto => cases hp
  | updateUser id dto => cases hp
  | removeUser id => cases hp
  | createMembership dto => cases hp
  | removeMembership u t => cases hp
  | assignRole dto => cases hp

/-- The step lemma: a step that is no accepted switch as `u` keeps the trail. -/
theorem holdings_step {svc : Service} {a u : String} {sys : System} (i : SystemInput)
    (h : Holdings a u sys) (hc : NoSwitchAs u sys i) : Holdings a u (sys.step svc i) := by
  have hs := h.sound.schema
  have hsound : (sys.step svc i).Sound := h.sound.step i
  have hkeep : ∀ db', Writes sys.db db' → HasFlag db' a true ∧ HasFlag db' u false ∧
      ∀ token ∈ sys.held, Holding db' a u token.toUnsignedPayload :=
    fun db' hw => ⟨hw.flag hs h.admin, hw.flag hs h.target,
      fun token ht => (h.held token ht).kept hs hw⟩
  cases i with
  | holder env token req =>
    by_cases hmem : token ∈ sys.held
    · have hw := handle_writes svc env token req hs
      obtain ⟨hadmin, htarget, hheld⟩ := hkeep _ hw
      simp only [System.step, if_pos hmem] at hsound ⊢
      refine ⟨hsound, hadmin, htarget, ?_⟩
      intro token' ht
      obtain ht | ht := mem_collect ht
      · exact hheld token' ht
      · refine Holding.kept hs hw (holding_of_signs h hmem ?_ (execute_signs (handle_ok ht).2))
        intro t he hsub
        subst he
        exact hc hmem hsub (switchAccepted_of_ok ht)
    · simp only [System.step, if_neg hmem]
      exact h
  | other env token req =>
    by_cases hmem : token ∈ sys.issued
    · obtain ⟨hadmin, htarget, hheld⟩ := hkeep _ (handle_writes svc env token req hs)
      simp only [System.step, if_pos hmem] at hsound ⊢
      exact ⟨hsound, hadmin, htarget, hheld⟩
    · simp only [System.step, if_neg hmem]
      exact h
  | anonymous env req =>
    obtain ⟨hadmin, htarget, hheld⟩ := hkeep _ (execute_writes svc env req.command hs)
    exact ⟨hsound, hadmin, htarget, hheld⟩

/-! ## What an accepted switch does -/

theorem held_step (svc : Service) (sys : System) (i : SystemInput) {token : JwtPayload}
    (h : token ∈ sys.held) : token ∈ (sys.step svc i).held := by
  cases i with
  | holder env token' req =>
    by_cases hmem : token' ∈ sys.held
    · simp only [System.step, if_pos hmem]
      exact mem_collect_of_mem h
    · simp only [System.step, if_neg hmem]
      exact h
  | other env token' req =>
    by_cases hmem : token' ∈ sys.issued
    · simp only [System.step, if_pos hmem]
      exact h
    · simp only [System.step, if_neg hmem]
      exact h
  | anonymous env req => exact h

theorem held_run (svc : Service) (sys : System) (inputs : List SystemInput) {token : JwtPayload}
    (h : token ∈ sys.held) : token ∈ (run (System.step svc) sys inputs).held :=
  run_invariant (I := fun sys => token ∈ sys.held) (fun sys i h => held_step svc sys i h) h inputs

/-- An accepted switch issues an ordinary token of the same subject. -/
theorem accepted_switch (svc : Service) {env : Env} {db : IdentityDb} (hs : db.Schema)
    {token : JwtPayload} {t : String} (h : SwitchAccepted env db token t) :
    ∃ token', (handle svc env token (.switchTenant t) db).2 = .ok (some token') ∧
      token'.sub = token.sub ∧ token'.isImpersonating = false := by
  obtain ⟨hv, hrow⟩ := h
  obtain ⟨user, hmem, hid, -⟩ := validate_ok hv
  have hfind : findUserById db token.sub = .ok user := hid ▸ hs.findUserById_of_mem hmem
  have hpass : ((findByUserAndTenant env db token.sub t).isNone && !user.isPlatformAdmin) =
      false := by
    cases hf : findByUserAndTenant env db token.sub t with
    | some m => rfl
    | none =>
      obtain ⟨m, hvis, hu, ht⟩ | ⟨admin, hadmin, haid, hflag⟩ := hrow
      · exact absurd ht (findByUserAndTenant_none hf m hvis hu)
      · obtain rfl := hs.user_unique hadmin hmem (haid.trans hid.symm)
        rw [hflag]
        rfl
  refine ⟨AuthService.signAccessToken svc env (AuthService.buildJwtPayload db user
    (findByUserAndTenant env db token.sub t)), ?_, hid, rfl⟩
  unfold handle
  rw [hv]
  show (execute svc env (.switchTenant token.sub t) db).2 = _
  simp only [execute, AuthService.switchTenant, hfind, hpass]
  rfl

theorem attributed_noSwitch {svc : Service} {a u : String} {inputs : List SystemInput}
    {sys : System} (hs : sys.Sound)
    (h : (run (System.step svc) sys inputs).Attributed a u) :
    StepsSatisfy (System.step svc) (NoSwitchAs u) sys inputs := by
  induction inputs generalizing sys with
  | nil => exact trivial
  | cons i inputs ih =>
    refine ⟨?_, ih (hs.step i) h⟩
    unfold NoSwitchAs
    split
    next env token t =>
      intro hmem hsub hacc
      obtain ⟨token', hok, hsub', himp⟩ := accepted_switch svc hs.schema hacc
      have hgot : token' ∈ (sys.step svc (.holder env token (.switchTenant t))).held := by
        simp only [System.step, if_pos hmem, hok]
        exact List.mem_cons_self
      have hlost := (h token' (held_run svc _ inputs hgot) (hsub'.trans hsub)).1
      rw [himp] at hlost
      cases hlost
    next => exact trivial

/-! ## The law -/

/-- From a reachable system on, whoever holds an impersonation token of `a` as `u` has only
    attributed tokens of `u`, if and only if no switch request of theirs as `u` is accepted. -/
theorem impersonation_attributable_iff {svc : Service} {sys : System}
    (hr : ReachableSystem svc sys) {p : JwtPayload} (hp : p ∈ sys.issued)
    (himp : p.isImpersonating = true) {a : String} (hreal : p.realUserId = some a)
    (inputs : List SystemInput) :
    (run (System.step svc) (sys.handTo p) inputs).Attributed a p.sub ↔
      StepsSatisfy (System.step svc) (NoSwitchAs p.sub) (sys.handTo p) inputs := by
  have hsound := reachable_sound hr
  have hstart : (sys.handTo p).Sound :=
    { schema := hsound.schema
      issued := hsound.issued
      held := by
        intro token ht
        rw [List.mem_singleton.mp ht]
        exact hp }
  constructor
  · exact attributed_noSwitch hstart
  · intro hc
    obtain ⟨a', hreal', hadmin, htarget⟩ := (hsound.issued p hp).impersonating himp
    obtain rfl := Option.some.inj (hreal'.symm.trans hreal)
    have h0 : Holdings a' p.sub (sys.handTo p) := by
      refine ⟨hstart, hadmin, htarget, ?_⟩
      intro token ht
      rw [List.mem_singleton.mp ht]
      exact ⟨fun _ => hreal, Or.inr htarget, fun _ => himp⟩
    have hend := run_invariant_of (I := Holdings a' p.sub) (fun _ i h hc => holdings_step i h hc)
      h0 hc
    intro token ht hsub
    have himp' := (hend.held token ht).attributed hsub
    exact ⟨himp', (hend.held token ht).real himp'⟩

namespace Sample

/-- `root`'s token from the login below. -/
def rootToken : JwtPayload :=
  AuthService.signAccessToken svc (clock 1)
    { sub := "root", email := "root@example.com", displayName := "root", isPlatformAdmin := true,
      tenantId := none, tenantSlug := none, roles := [], permissions := [],
      isImpersonating := false, realUserId := none }

/-- `root` plays `ann` in `t1`. -/
def annToken : JwtPayload :=
  AuthService.sign svc (clock 3) "30m"
    { sub := "ann", email := "ann@example.com", displayName := "ann", isPlatformAdmin := false,
      tenantId := some "t1", tenantSlug := none, roles := ["member"],
      permissions := ["ledger:read"], isImpersonating := true, realUserId := some "root" }

/-- `root` logs in, makes `ann` a member of `t1` and starts to play her. -/
def impersonated : System :=
  run (System.step svc) (System.start seed)
    [.anonymous (clock 1) (.login "root@example.com" "Passw0rd" none none),
     .other (clock 2) rootToken (.createMembership ⟨"ann", "t1", "r1", none⟩),
     .other (clock 3) rootToken (.startImpersonation ⟨"ann", "t1", "support ticket"⟩)]

theorem annToken_issued : annToken ∈ impersonated.issued := by decide +kernel

end Sample

theorem impersonation_attributable_iff_sample :
    (run (System.step Sample.svc) (Sample.impersonated.handTo Sample.annToken)
      [.holder (Sample.clock 4) Sample.annToken .endImpersonation]).Attributed "root" "ann" :=
  (impersonation_attributable_iff (a := "root") ⟨Sample.seed, _, rfl⟩ Sample.annToken_issued
    (by decide) (by decide) [.holder (Sample.clock 4) Sample.annToken .endImpersonation]).mpr
    ⟨trivial, trivial⟩

/-- switch-tenant turns the impersonation token into an ordinary token of `ann`. -/
theorem switch_loses_impersonator :
    ReachableSystem Sample.svc Sample.impersonated ∧
    Sample.annToken ∈ Sample.impersonated.issued ∧
    ¬ (run (System.step Sample.svc) (Sample.impersonated.handTo Sample.annToken)
      [.holder (Sample.clock 4) Sample.annToken (.switchTenant "t1")]).Attributed "root" "ann" := by
  refine ⟨⟨Sample.seed, _, rfl⟩, Sample.annToken_issued, ?_⟩
  unfold System.Attributed
  decide +kernel

end SaasChassis.Identity
