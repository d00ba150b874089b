/-
  Login attempts for one e-mail address that run at the same time.

  `validateCredentials` reads the counter of failed attempts, looks the user up, compares the
  password and only then increments the counter. An attempt that passed the check and has not
  counted yet is in flight, and the check does not see it: six attempts that all read before one
  counts make six guesses where five are allowed (`six_guesses`).

  `guesses_le`: the guesses between two expiries stay within the limit in every schedule in which
  the attempts in flight, together with the failures counted, leave room whenever an attempt passes
  the check. `guesses_le_iff`: within one window of the counter there is no other way.
-/
import SaasChassis.Lib.Interleaving
import SaasChassis.Identity.Step

namespace SaasChassis.Identity

open SaasChassis.Lib

/-! ## The method, step by step -/

/-- Where an attempt is: each step is one answer of Redis or of the database. -/
inductive LoginThread where
  | arrived (email password : String)
  | unblocked (email password : String)
  /-- `INCR` comes next. -/
  | rejected (email : String)
  /-- `EXPIRE` comes next. -/
  | countedFirst (email : String)
  /-- `DEL` comes next. -/
  | accepted (email : String) (user : User)
  | ended (answer : Except HttpException (Option User))
  /-- The clock, with the milliseconds its next steps take. -/
  | clock (waits : List ℕ)

/-- The service while attempts for the address `key` are on their way. -/
structure LoginState where
  db : IdentityDb
  env : Env
  /-- Password comparisons since the counter expired last. -/
  guesses : ℕ

def IdentityDb.withLoginAttempts (db : IdentityDb) (rows : List LoginAttempts) : IdentityDb :=
  { db with loginAttempts := rows }

/-- The rows after the key of `row` is set to it. -/
def setLoginAttempts (row : LoginAttempts) (rows : List LoginAttempts) : List LoginAttempts :=
  row :: rows.filter (·.email ≠ row.email)

namespace LoginState

def counter (key : String) (s : LoginState) : Option LoginAttempts :=
  AuthService.loginAttempts s.env s.db key

/-- What `GET` answers is at the limit. -/
def blocked (svc : Service) (key : String) (s : LoginState) : Bool :=
  (s.counter key).any (svc.loginMaxAttempts ≤ ·.count)

/-- What `GET` answers, 0 for `null`. -/
def failures (key : String) (s : LoginState) : ℤ := ((s.counter key).map (·.count)).getD 0

def save (row : LoginAttempts) (s : LoginState) : LoginState :=
  { s with db := s.db.withLoginAttempts (setLoginAttempts row s.db.loginAttempts) }

/-- The counter after `INCR`; a new key has no time to live. -/
def incremented (key : String) (s : LoginState) : LoginAttempts :=
  match s.counter key with
  | some row => { row with email := key, count := row.count + 1 }
  | none => { email := key, count := 1, expiresAt := none }

def expire (svc : Service) (key : String) (s : LoginState) : LoginState :=
  match s.counter key with
  | some row =>
    s.save { row with
      email := key
      expiresAt := some (s.env.now + 1000 * svc.loginBlockDurationSeconds) }
  | none => s

def del (key : String) (s : LoginState) : LoginState :=
  { s with db := s.db.withLoginAttempts (s.db.loginAttempts.filter (·.email ≠ key)) }

def wait (ms : ℕ) (s : LoginState) : LoginState :=
  { s with env := { s.env with now := s.env.now + ms } }

def guess (s : LoginState) : LoginState := { s with guesses := s.guesses + 1 }

/-- The state `s'` after `s`: where the counter has expired in between, guesses count from 0. -/
def afterExpiry (key : String) (s s' : LoginState) : LoginState :=
  if (s.counter key).isSome ∧ s'.counter key = none then { s' with guesses := 0 } else s'

end LoginState

namespace LoginThread

def next (svc : Service) (key : String) (s : LoginState) : LoginThread → LoginState × LoginThread
  | .arrived email password =>
    if s.blocked svc (svc.toLowerCase email) then
      (s, .ended (.error (.unauthorized
        ("Account temporarily locked due to too many failed login " ++
          "attempts. Try again in 15 minutes."))))
    else (s, .unblocked email password)
  | .unblocked email password =>
    match UsersService.findByEmail svc s.db email with
    | none => (s, .rejected email)
    | some user =>
      if !user.isActive then (s, .rejected email)
      else if !svc.compareSync password user.passwordHash then (s.guess, .rejected email)
      else (s.guess, .accepted email user)
  | .rejected email =>
    let row := s.incremented (svc.toLowerCase email)
    (s.save row, if row.count = 1 then .countedFirst email else .ended (.ok none))
  | .countedFirst email =>
    (s.afterExpiry key (s.expire svc (svc.toLowerCase email)), .ended (.ok none))
  | .accepted email user => (s.del (svc.toLowerCase email), .ended (.ok (some user)))
  | .clock (ms :: waits) => (s.afterExpiry key (s.wait ms), .clock waits)
  | done => (s, done)

def arriving : LoginThread → Bool
  | .arrived _ _ => true
  | _ => false

/-- Past the check, and not yet counted. -/
def inFlight : LoginThread → Bool
  | .unblocked _ _ | .rejected _ | .accepted _ _ => true
  | _ => false

/-- Looked up, and not yet counted. -/
def awaitsCount : LoginThread → Bool
  | .rejected _ => true
  | _ => false

/-- No attempt, or one for the address `key` whose password is wrong. -/
def Guesses (svc : Service) (key : String) (users : List User) : LoginThread → Prop
  | .arrived email password | .unblocked email password =>
    svc.toLowerCase email = key ∧ ∀ user, users.find? (·.email = key) = some user →
      user.isActive = true → svc.compareSync password user.passwordHash = false
  | .rejected email | .countedFirst email => svc.toLowerCase email = key
  | .accepted _ _ => False
  | .ended _ | .clock _ => True

end LoginThread

abbrev LoginPool := Pool LoginState LoginThread

namespace LoginPool

def inFlight (p : LoginPool) : ℕ := p.threads.countP (·.inFlight)

/-- Attempts that are about to count. -/
def awaitingCount (p : LoginPool) : ℕ := p.threads.countP (·.awaitsCount)

/-- An attempt that now passes the check is, with those in flight and the failures counted, within
    the limit. -/
def LeavesRoom (svc : Service) (key : String) (p : LoginPool) (k : ℕ) : Prop :=
  ∀ t ∈ p.threads[k]?, t.arriving → ¬ p.shared.blocked svc key →
    p.shared.failures key + p.inFlight < svc.loginMaxAttempts

instance (svc : Service) (key : String) (p : LoginPool) (k : ℕ) :
    Decidable (LeavesRoom svc key p k) :=
  inferInstanceAs (Decidable (∀ t ∈ p.threads[k]?, t.arriving → ¬ p.shared.blocked svc key →
    p.shared.failures key + p.inFlight < svc.loginMaxAttempts))

/-- Nobody has failed yet and no attempt is in flight; all attempts are for `key`, with wrong
    passwords. -/
structure Start (svc : Service) (key : String) (p : LoginPool) : Prop where
  oneRow : (p.shared.db.loginAttempts.filter (·.email = key)).length ≤ 1
  absent : p.shared.counter key = none
  guesses : p.shared.guesses = 0
  idle : ∀ t ∈ p.threads, t.inFlight = false
  wrong : ∀ t ∈ p.threads, t.Guesses svc key p.shared.db.users

end LoginPool

variable {svc : Service} {key : String}

/-! ## The counter -/

/-- Its end, if it has one, has not come. -/
def LoginAttempts.lives (now : ℤ) (row : LoginAttempts) : Bool :=
  match row.expiresAt with
  | some endsAt => now < endsAt
  | none => true

theorem LoginAttempts.lives_earlier {row : LoginAttempts} {now later : ℤ}
    (h : row.lives later = true) (hle : now ≤ later) : row.lives now = true := by
  obtain ⟨_, _, endsAt⟩ := row
  cases endsAt with
  | none => rfl
  | some endsAt =>
    simp only [lives, decide_eq_true_eq] at h ⊢
    omega

namespace LoginState

theorem counter_eq (s : LoginState) :
    s.counter key = (s.db.loginAttempts.filter (·.email = key)).find? (·.lives s.env.now) := by
  rw [List.find?_filter]
  unfold counter AuthService.loginAttempts LoginAttempts.lives
  refine congrArg (List.find? · _) (funext fun row => ?_)
  cases row.expiresAt <;> simp

theorem counter_email {s : LoginState} {row : LoginAttempts} (h : s.counter key = some row) :
    row.email = key := by
  rw [counter_eq] at h
  simpa using (List.mem_filter.mp (List.mem_of_find?_eq_some h)).2

theorem counter_lives {s : LoginState} {row : LoginAttempts} (h : s.counter key = some row) :
    row.lives s.env.now = true := by
  rw [counter_eq] at h
  exact List.find?_some h

/-- A key holds one value. -/
def OneRow (key : String) (s : LoginState) : Prop :=
  (s.db.loginAttempts.filter (·.email = key)).length ≤ 1

theorem rows_save {row : LoginAttempts} (h : row.email = key) (s : LoginState) :
    (s.save row).db.loginAttempts.filter (·.email = key) = [row] := by
  have hrest : (s.db.loginAttempts.filter (·.email ≠ row.email)).filter (·.email = key) = [] := by
    rw [List.filter_filter, List.filter_eq_nil_iff]
    intro other _
    simp [h]
  show (row :: s.db.loginAttempts.filter (·.email ≠ row.email)).filter (·.email = key) = [row]
  rw [List.filter_cons_of_pos (by simpa using h), hrest]

theorem OneRow.save {row : LoginAttempts} (h : row.email = key) (s : LoginState) :
    (s.save row).OneRow key := by
  unfold OneRow
  rw [rows_save h]
  exact Nat.le_refl 1

/-- What is set is there, unless its end has come. -/
theorem counter_save {row : LoginAttempts} (h : row.email = key) (s : LoginState) :
    (s.save row).counter key = some row ∨ (s.save row).counter key = none := by
  rw [counter_eq, rows_save h]
  cases hlives : row.lives (s.save row).env.now with
  | true => exact .inl (List.find?_cons_of_pos hlives)
  | false => exact .inr (List.find?_eq_none.mpr (by simp [hlives]))

theorem incremented_email (key : String) (s : LoginState) : (s.incremented key).email = key := by
  unfold incremented
  cases s.counter key <;> rfl

theorem incremented_count (key : String) (s : LoginState) :
    (s.incremented key).count = s.failures key + 1 := by
  unfold incremented failures
  cases s.counter key with
  | some row => rfl
  | none => rfl

/-- `INCR` leaves the time to live alone. -/
theorem counter_incremented (s : LoginState) :
    (s.save (s.incremented key)).counter key = some (s.incremented key) := by
  rw [counter_eq, rows_save (incremented_email key s)]
  refine List.find?_cons_of_pos ?_
  unfold incremented
  cases hrow : s.counter key with
  | some row =>
    have hlives : row.lives s.env.now = true := counter_lives hrow
    exact hlives
  | none => rfl

theorem failures_incremented (s : LoginState) :
    (s.save (s.incremented key)).failures key = s.failures key + 1 := by
  rw [failures, counter_incremented]
  exact incremented_count key s

/-- Nothing has happened to the counter and the guesses, or the counter has expired. -/
def Elapsed (key : String) (s s' : LoginState) : Prop :=
  (s'.failures key = s.failures key ∧ s'.guesses = s.guesses) ∨
    ((s.counter key).isSome ∧ s'.counter key = none ∧ s'.guesses = 0)

theorem failures_of_none {s : LoginState} (h : s.counter key = none) : s.failures key = 0 := by
  unfold failures
  rw [h]
  rfl

theorem elapsed_afterExpiry {s s' : LoginState} (hguesses : s'.guesses = s.guesses)
    (h : s'.failures key = s.failures key ∨ s'.counter key = none) :
    Elapsed key s (s.afterExpiry key s') := by
  unfold afterExpiry
  split
  next hgone => exact .inr ⟨hgone.1, hgone.2, rfl⟩
  next hkept =>
    refine .inl ⟨?_, hguesses⟩
    rcases h with h | h
    · exact h
    · have hnone : s.counter key = none := by
        simpa [h] using hkept
      rw [failures_of_none h, failures_of_none hnone]

theorem failures_of_counter {s s' : LoginState} (h : s'.counter key = s.counter key) :
    s'.failures key = s.failures key := by
  unfold failures
  rw [h]

theorem counter_wait {s : LoginState} (h : s.OneRow key) (ms : ℕ) :
    (s.wait ms).counter key = s.counter key ∨ (s.wait ms).counter key = none := by
  rw [counter_eq, counter_eq]
  show (s.db.loginAttempts.filter (·.email = key)).find? (·.lives (s.env.now + ms)) = _ ∨
    (s.db.loginAttempts.filter (·.email = key)).find? (·.lives (s.env.now + ms)) = none
  unfold OneRow at h
  generalize s.db.loginAttempts.filter (·.email = key) = rows at h ⊢
  match rows, h with
  | [], _ => exact .inl rfl
  | [row], _ =>
    cases hlater : row.lives (s.env.now + ms) with
    | false => exact .inr (List.find?_eq_none.mpr (by simp [hlater]))
    | true =>
      have hnow : row.lives s.env.now = true := LoginAttempts.lives_earlier hlater (by omega)
      exact .inl ((List.find?_cons_of_pos hlater).trans (List.find?_cons_of_pos hnow).symm)

theorem expire_guesses (svc : Service) (key : String) (s : LoginState) :
    (s.expire svc key).guesses = s.guesses := by
  unfold expire
  split <;> rfl

theorem counter_expire (svc : Service) (key : String) (s : LoginState) :
    (s.expire svc key).failures key = s.failures key ∨ (s.expire svc key).counter key = none := by
  unfold expire
  cases hrow : s.counter key with
  | none => exact .inl rfl
  | some row =>
    refine (counter_save rfl s).imp_left fun h => ?_
    unfold failures
    rw [h, hrow]
    rfl

theorem OneRow.expire {s : LoginState} (h : s.OneRow key) (svc : Service) :
    (s.expire svc key).OneRow key := by
  unfold LoginState.expire
  split
  · exact .save rfl s
  · exact h

theorem OneRow.afterExpiry {s s' : LoginState} (h : s'.OneRow key) :
    (s.afterExpiry key s').OneRow key := by
  unfold LoginState.afterExpiry
  split
  · exact h
  · exact h

end LoginState

open LoginState

/-! ## Without interruption -/

theorem afterExpiry_db (s s' : LoginState) : (s.afterExpiry key s').db = s'.db := by
  unfold LoginState.afterExpiry
  split <;> rfl

/-- `INCR` and `EXPIRE` are `incrementLoginAttempts`. -/
theorem rejected_alone (s : LoginState) (email : String)
    (hpos : ∀ row, s.counter (svc.toLowerCase email) = some row → 0 < row.count) :
    (Pool.alone (LoginThread.next svc key) 2 s (.rejected email)).1.db =
        AuthService.incrementLoginAttempts svc s.env (svc.toLowerCase email) s.db ∧
      (Pool.alone (LoginThread.next svc key) 2 s (.rejected email)).2 = .ended (.ok none) := by
  have hincr : (s.save (s.incremented (svc.toLowerCase email))).counter (svc.toLowerCase email) =
      some (s.incremented (svc.toLowerCase email)) := counter_incremented s
  cases hrow : s.counter (svc.toLowerCase email) with
  | some row =>
    have hnew : s.incremented (svc.toLowerCase email) = { row with count := row.count + 1 } := by
      unfold incremented
      rw [hrow, ← counter_email hrow]
    have hfirst : row.count + 1 ≠ 1 := by
      have hcount := hpos row hrow
      omega
    unfold AuthService.incrementLoginAttempts
    rw [show AuthService.loginAttempts s.env s.db (svc.toLowerCase email) = some row from hrow]
    simp only [Pool.alone, LoginThread.next, hnew, hfirst, if_false, and_true]
    unfold save IdentityDb.withLoginAttempts setLoginAttempts
    rw [counter_email hrow]
  | none =>
    have hnew : s.incremented (svc.toLowerCase email) =
        { email := svc.toLowerCase email, count := 1, expiresAt := none } := by
      unfold incremented
      rw [hrow]
    unfold AuthService.incrementLoginAttempts
    rw [show AuthService.loginAttempts s.env s.db (svc.toLowerCase email) = none from hrow]
    rw [hnew] at hincr
    simp only [Pool.alone, LoginThread.next, hnew, if_true, afterExpiry_db, and_true]
    unfold expire
    rw [hincr]
    simp only [save, IdentityDb.withLoginAttempts, setLoginAttempts]
    rw [List.filter_cons_of_neg (by simp), List.filter_filter]
    simp

theorem validateCredentials_alone (svc : Service) (env : Env) (email password : String)
    (db : IdentityDb) (guesses : ℕ)
    (hpos : ∀ row, AuthService.loginAttempts env db (svc.toLowerCase email) = some row →
      0 < row.count) :
    (Pool.alone (LoginThread.next svc key) 4 ⟨db, env, guesses⟩ (.arrived email password)).1.db =
        (AuthService.validateCredentials svc env email password db).1 ∧
      (Pool.alone (LoginThread.next svc key) 4 ⟨db, env, guesses⟩ (.arrived email password)).2 =
        .ended (AuthService.validateCredentials svc env email password db).2 := by
  unfold AuthService.validateCredentials
  dsimp only
  split
  next hblocked =>
    have hb : LoginState.blocked svc (svc.toLowerCase email) ⟨db, env, guesses⟩ = true := hblocked
    simp only [Pool.alone, LoginThread.next, hb, if_true, and_self]
  next hblocked =>
    have hb : ¬ LoginState.blocked svc (svc.toLowerCase email) ⟨db, env, guesses⟩ = true := hblocked
    have hfirst : Pool.alone (LoginThread.next svc key) 4 ⟨db, env, guesses⟩
        (.arrived email password) =
        Pool.alone (LoginThread.next svc key) 3 ⟨db, env, guesses⟩ (.unblocked email password) := by
      rw [Pool.alone]
      simp only [LoginThread.next, hb, if_false, Bool.false_eq_true]
    rw [hfirst, Pool.alone]
    simp only [LoginThread.next]
    cases UsersService.findByEmail svc db email with
    | none => exact rejected_alone _ email hpos
    | some user =>
      dsimp only
      by_cases hactive : user.isActive = true
      · by_cases hcompare : svc.compareSync password user.passwordHash = true
        · simp only [hactive, hcompare, Bool.not_true, Bool.or_self]
          exact ⟨rfl, rfl⟩
        · simp only [hactive, hcompare, Bool.not_true, Bool.not_false, Bool.false_or]
          exact rejected_alone _ email hpos
      · simp only [hactive, Bool.not_false, Bool.true_or]
        exact rejected_alone _ email hpos

/-! ## One step -/

/-- Somebody with the address has an active account. -/
def hasAccount (key : String) (users : List User) : Bool :=
  (users.find? (·.email = key)).any (·.isActive)

/-- The steps of attempts with a wrong password, and of the clock. -/
inductive LoginStep (svc : Service) (key : String) (s : LoginState) :
    LoginThread → LoginState → LoginThread → Prop
  | aside {t t' : LoginThread} {s' : LoginState} (before : t.inFlight = false)
      (after : t'.inFlight = false) (turnedAway : t.arriving → s.blocked svc key)
      (elapsed : Elapsed key s s') : LoginStep svc key s t s' t'
  | passed (email password : String)
      (unblocked : ¬ s.blocked svc key = true) :
      LoginStep svc key s (.arrived email password) s (.unblocked email password)
  | compared (email password : String) {s' : LoginState} (same : s'.counter key = s.counter key)
      (guesses : s'.guesses = s.guesses + if hasAccount key s.db.users then 1 else 0) :
      LoginStep svc key s (.unblocked email password) s' (.rejected email)
  | counted (email : String) {s' : LoginState} {t' : LoginThread} (after : t'.inFlight = false)
      (failures : s'.failures key = s.failures key + 1) (guesses : s'.guesses = s.guesses)
      (counter : (s'.counter key).isSome) : LoginStep svc key s (.rejected email) s' t'

theorem next_step {s : LoginState} {t : LoginThread} (hone : s.OneRow key)
    (ht : t.Guesses svc key s.db.users) :
    LoginStep svc key s t (t.next svc key s).1 (t.next svc key s).2 := by
  cases t with
  | arrived email password =>
    obtain ⟨hkey, -⟩ := ht
    simp only [LoginThread.next, hkey]
    split
    next h => exact .aside rfl rfl (fun _ => h) (.inl ⟨rfl, rfl⟩)
    next h => exact .passed email password h
  | unblocked email password =>
    obtain ⟨hkey, hwrong⟩ := ht
    have hfind : UsersService.findByEmail svc s.db email = s.db.users.find? (·.email = key) := by
      rw [UsersService.findByEmail, hkey]
    simp only [LoginThread.next, hfind]
    cases huser : s.db.users.find? (·.email = key) with
    | none => exact .compared email password rfl (by simp [hasAccount, huser])
    | some user =>
      by_cases hactive : user.isActive = true
      · have hcompare : svc.compareSync password user.passwordHash = false :=
          hwrong user huser hactive
        simp only [hactive, hcompare, Bool.not_true, Bool.not_false, if_true]
        exact .compared email password rfl (by simp [hasAccount, huser, hactive, guess])
      · simp only [hactive, Bool.not_false, if_true]
        exact .compared email password rfl (by simp [hasAccount, huser, hactive])
  | rejected email =>
    have hkey : svc.toLowerCase email = key := ht
    simp only [LoginThread.next, hkey]
    refine .counted email ?_ (failures_incremented s) rfl ?_
    · split <;> rfl
    · rw [counter_incremented]
      rfl
  | countedFirst email =>
    have hkey : svc.toLowerCase email = key := ht
    simp only [LoginThread.next, hkey]
    refine .aside rfl rfl nofun ?_
    exact elapsed_afterExpiry (expire_guesses svc key s) (counter_expire svc key s)
  | accepted email user => exact ht.elim
  | ended answer => exact .aside rfl rfl nofun (.inl ⟨rfl, rfl⟩)
  | clock waits =>
    cases waits with
    | nil => exact .aside rfl rfl nofun (.inl ⟨rfl, rfl⟩)
    | cons ms waits =>
      refine .aside rfl rfl nofun (elapsed_afterExpiry rfl ?_)
      exact (counter_wait hone ms).imp_left failures_of_counter

theorem next_users {s : LoginState} (t : LoginThread) :
    (t.next svc key s).1.db.users = s.db.users := by
  have hafter (s' : LoginState) : (s.afterExpiry key s').db.users = s'.db.users := by
    unfold LoginState.afterExpiry
    split <;> rfl
  cases t with
  | arrived email password =>
    simp only [LoginThread.next]
    split <;> rfl
  | unblocked email password =>
    simp only [LoginThread.next]
    split
    · rfl
    · split_ifs <;> rfl
  | rejected email => rfl
  | countedFirst email =>
    simp only [LoginThread.next, hafter]
    unfold LoginState.expire
    split <;> rfl
  | accepted email user => rfl
  | ended answer => rfl
  | clock waits =>
    cases waits with
    | nil => rfl
    | cons ms waits => exact hafter (s.wait ms)

theorem next_oneRow {s : LoginState} {t : LoginThread} (ht : t.Guesses svc key s.db.users)
    (h : s.OneRow key) : (t.next svc key s).1.OneRow key := by
  cases t with
  | arrived email password =>
    simp only [LoginThread.next]
    split
    · exact h
    · exact h
  | unblocked email password =>
    simp only [LoginThread.next]
    split
    · exact h
    · split_ifs <;> exact h
  | rejected email =>
    have hkey : svc.toLowerCase email = key := ht
    simp only [LoginThread.next, hkey]
    exact .save (incremented_email key s) s
  | countedFirst email =>
    have hkey : svc.toLowerCase email = key := ht
    simp only [LoginThread.next, hkey]
    exact (h.expire svc).afterExpiry
  | accepted email user => exact ht.elim
  | ended answer => exact h
  | clock waits =>
    cases waits with
    | nil => exact h
    | cons ms waits =>
      have hwait : (s.wait ms).OneRow key := h
      exact hwait.afterExpiry

theorem next_guesses {s : LoginState} {t : LoginThread} (ht : t.Guesses svc key s.db.users) :
    (t.next svc key s).2.Guesses svc key s.db.users := by
  cases t with
  | arrived email password =>
    simp only [LoginThread.next]
    split
    · trivial
    · exact ht
  | unblocked email password =>
    obtain ⟨hkey, hwrong⟩ := ht
    simp only [LoginThread.next]
    split
    · exact hkey
    next user huser =>
      rw [UsersService.findByEmail, hkey] at huser
      split_ifs with hactive hcompare
      · exact hkey
      · exact hkey
      · have hcompare' := hwrong user huser (by simpa using hactive)
        exact absurd hcompare' (by simpa using hcompare)
  | rejected email =>
    have hkey : svc.toLowerCase email = key := ht
    simp only [LoginThread.next]
    split
    · exact hkey
    · trivial
  | countedFirst email => trivial
  | accepted email user => exact ht.elim
  | ended answer => trivial
  | clock waits => cases waits <;> trivial

/-! ## Any schedule -/

/-- Attempts for `key` with wrong passwords, and clocks. -/
abbrev Attempts (svc : Service) (key : String) (p : LoginPool) : Prop :=
  p.Holds (OneRow key) fun s t => t.Guesses svc key s.db.users

theorem Attempts.step {p : LoginPool} (h : Attempts svc key p) (k : ℕ) :
    Attempts svc key (p.step (LoginThread.next svc key) k) := by
  refine Pool.Holds.step (C := fun _ _ => True) ?_ h fun _ _ => trivial
  intro s t hone ht _
  rw [next_users]
  exact ⟨next_oneRow ht hone, next_guesses ht, fun u hu => hu⟩

theorem Attempts.step_cases {p : LoginPool} (h : Attempts svc key p) {k : ℕ} {t : LoginThread}
    (ht : p.threads[k]? = some t) :
    LoginStep svc key p.shared t (p.step (LoginThread.next svc key) k).shared
      (t.next svc key p.shared).2 := by
  rw [Pool.step_some ht]
  exact next_step h.shared (h.threads t (List.mem_of_getElem? ht))

theorem not_awaitsCount {t : LoginThread} (h : t.inFlight = false) : t.awaitsCount = false := by
  cases t with
  | rejected email => cases h
  | _ => rfl

/-- The failures counted and the attempts in flight are within the limit, and the failures and the
    attempts about to count cover all guesses. -/
structure WithinLimit (svc : Service) (key : String) (s : LoginState) (awaiting inFlight : ℕ) :
    Prop where
  nonneg : 0 ≤ s.failures key
  guesses : s.guesses ≤ s.failures key + awaiting
  room : s.failures key + inFlight ≤ svc.loginMaxAttempts

theorem LoginStep.withinLimit {s s' : LoginState} {t t' : LoginThread} {a a' f f' : ℕ}
    (hstep : LoginStep svc key s t s' t') (h : WithinLimit svc key s a f)
    (ha : a' + (if t.awaitsCount then 1 else 0) = a + if t'.awaitsCount then 1 else 0)
    (hf : f' + (if t.inFlight then 1 else 0) = f + if t'.inFlight then 1 else 0)
    (hroom : t.arriving → ¬ s.blocked svc key → s.failures key + f < svc.loginMaxAttempts) :
    WithinLimit svc key s' a' f' := by
  obtain ⟨hnonneg, hguesses, hlimit⟩ := h
  cases hstep with
  | aside before after turnedAway elapsed =>
    simp only [not_awaitsCount before, not_awaitsCount after, before, after, reduceIte,
      Bool.false_eq_true] at ha hf
    rcases elapsed with ⟨hfailures, hsame⟩ | ⟨-, hnone, hzero⟩
    · exact ⟨by omega, by omega, by omega⟩
    · have hfailures := failures_of_none hnone
      exact ⟨by omega, by omega, by omega⟩
  | passed email password unblocked =>
    have hfree := hroom rfl unblocked
    simp only [LoginThread.awaitsCount, LoginThread.inFlight, reduceIte,
      Bool.false_eq_true] at ha hf
    exact ⟨hnonneg, by omega, by omega⟩
  | compared email password same guesses =>
    have hfailures := failures_of_counter same
    simp only [LoginThread.awaitsCount, LoginThread.inFlight, reduceIte,
      Bool.false_eq_true] at ha hf
    split at guesses <;> exact ⟨by omega, by omega, by omega⟩
  | counted email after failures guesses counter =>
    rw [not_awaitsCount after] at ha
    rw [after] at hf
    simp only [LoginThread.awaitsCount, LoginThread.inFlight, reduceIte,
      Bool.false_eq_true] at ha hf
    exact ⟨by omega, by omega, by omega⟩

theorem WithinLimit.step {p : LoginPool}
    (h : WithinLimit svc key p.shared p.awaitingCount p.inFlight) (hp : Attempts svc key p) {k : ℕ}
    (hc : p.LeavesRoom svc key k) :
    WithinLimit svc key (p.step (LoginThread.next svc key) k).shared
      (LoginPool.awaitingCount (p.step (LoginThread.next svc key) k))
      (LoginPool.inFlight (p.step (LoginThread.next svc key) k)) := by
  cases ht : p.threads[k]? with
  | none =>
    rw [Pool.step_none ht]
    exact h
  | some t =>
    exact (hp.step_cases ht).withinLimit h (Pool.countP_step ht _) (Pool.countP_step ht _)
      (hc t ht)

theorem LoginPool.inFlight_of_idle {p : LoginPool} (h : ∀ t ∈ p.threads, t.inFlight = false) :
    p.inFlight = 0 := by
  refine List.countP_eq_zero.mpr fun t ht => ?_
  rw [h t ht]
  exact Bool.false_ne_true

theorem LoginPool.awaitingCount_of_idle {p : LoginPool}
    (h : ∀ t ∈ p.threads, t.inFlight = false) : p.awaitingCount = 0 := by
  refine List.countP_eq_zero.mpr fun t ht => ?_
  rw [not_awaitsCount (h t ht)]
  exact Bool.false_ne_true

theorem LoginPool.Start.attempts {p : LoginPool} (h : p.Start svc key) : Attempts svc key p :=
  ⟨h.oneRow, h.wrong⟩

theorem LoginPool.Start.withinLimit {p : LoginPool} (h : p.Start svc key)
    (hmax : 0 ≤ svc.loginMaxAttempts) :
    WithinLimit svc key p.shared p.awaitingCount p.inFlight := by
  have hfailures : p.shared.failures key = 0 := failures_of_none h.absent
  have hflight : p.inFlight = 0 := LoginPool.inFlight_of_idle h.idle
  refine ⟨Int.le_of_eq hfailures.symm, ?_, ?_⟩
  · rw [h.guesses]
    omega
  · omega

theorem WithinLimit.run {p : LoginPool}
    (h : WithinLimit svc key p.shared p.awaitingCount p.inFlight) (hp : Attempts svc key p)
    {schedule : List ℕ}
    (hc : StepsSatisfy (Pool.step (LoginThread.next svc key)) (LoginPool.LeavesRoom svc key) p
      schedule) :
    WithinLimit svc key (run (Pool.step (LoginThread.next svc key)) p schedule).shared
      (LoginPool.awaitingCount (run (Pool.step (LoginThread.next svc key)) p schedule))
      (LoginPool.inFlight (run (Pool.step (LoginThread.next svc key)) p schedule)) := by
  have hinv := run_invariant_of
    (I := fun p : LoginPool => Attempts svc key p ∧
      WithinLimit svc key p.shared p.awaitingCount p.inFlight)
    (fun p k hp hk => ⟨hp.1.step k, hp.2.step hp.1 hk⟩) ⟨hp, h⟩ hc
  exact hinv.2

/-! ## Within one window of the counter -/

/-- The step does not end the counter. -/
def LoginPool.KeepsCounter (svc : Service) (key : String) (p : LoginPool) (k : ℕ) : Prop :=
  (p.shared.counter key).isSome →
    ((p.step (LoginThread.next svc key) k).shared.counter key).isSome

/-- Every attempt that has passed the check has guessed or is about to: what the attempts of this
    window have come to so far. -/
structure Exact (key : String) (s : LoginState) (awaiting : ℕ) : Prop where
  account : hasAccount key s.db.users = true
  guesses : s.guesses = s.failures key + awaiting

theorem LoginStep.exact {s s' : LoginState} {t t' : LoginThread} {a a' f f' : ℕ}
    (hstep : LoginStep svc key s t s' t') (h : Exact key s a) (husers : s'.db.users = s.db.users)
    (hkept : (s.counter key).isSome → (s'.counter key).isSome)
    (ha : a' + (if t.awaitsCount then 1 else 0) = a + if t'.awaitsCount then 1 else 0)
    (hf : f' + (if t.inFlight then 1 else 0) = f + if t'.inFlight then 1 else 0) :
    Exact key s' a' ∧
      s'.failures key + f' = s.failures key + f +
        if t.arriving ∧ ¬ s.blocked svc key then 1 else 0 := by
  obtain ⟨haccount, hguesses⟩ := h
  have haccount' : hasAccount key s'.db.users = true := by rw [husers, haccount]
  cases hstep with
  | aside before after turnedAway elapsed =>
    have hnone : ¬ (t.arriving = true ∧ ¬ s.blocked svc key = true) :=
      fun h => h.2 (turnedAway h.1)
    simp only [not_awaitsCount before, not_awaitsCount after, before, after, reduceIte,
      Bool.false_eq_true] at ha hf
    rw [if_neg hnone]
    rcases elapsed with ⟨hfailures, hsame⟩ | ⟨hsome, hgone, -⟩
    · exact ⟨⟨haccount', by omega⟩, by omega⟩
    · have hstays := hkept hsome
      rw [hgone] at hstays
      cases hstays
  | passed email password unblocked =>
    have hpass : (LoginThread.arrived email password).arriving = true ∧
        ¬ s.blocked svc key = true := ⟨rfl, unblocked⟩
    simp only [LoginThread.awaitsCount, LoginThread.inFlight, reduceIte,
      Bool.false_eq_true] at ha hf
    rw [if_pos hpass]
    exact ⟨⟨haccount, by omega⟩, by omega⟩
  | compared email password same guesses =>
    have hfailures := failures_of_counter same
    rw [haccount, if_pos rfl] at guesses
    simp only [LoginThread.awaitsCount, LoginThread.inFlight, reduceIte,
      Bool.false_eq_true] at ha hf
    have hnone : ¬ ((LoginThread.unblocked email password).arriving = true ∧
        ¬ s.blocked svc key = true) := fun h => Bool.false_ne_true h.1
    rw [if_neg hnone]
    exact ⟨⟨haccount', by omega⟩, by omega⟩
  | counted email after failures guesses counter =>
    rw [not_awaitsCount after] at ha
    rw [after] at hf
    simp only [LoginThread.awaitsCount, LoginThread.inFlight, reduceIte,
      Bool.false_eq_true] at ha hf
    have hnone : ¬ ((LoginThread.rejected email).arriving = true ∧
        ¬ s.blocked svc key = true) := fun h => Bool.false_ne_true h.1
    rw [if_neg hnone]
    exact ⟨⟨haccount', by omega⟩, by omega⟩

namespace LoginPool

/-- The attempts of this window that have passed the check. -/
def passed (key : String) (p : LoginPool) : ℤ := p.shared.failures key + p.inFlight

abbrev InWindow (svc : Service) (key : String) (p : LoginPool) : Prop :=
  Attempts svc key p ∧ Exact key p.shared p.awaitingCount

theorem InWindow.step {p : LoginPool} (h : InWindow svc key p) {k : ℕ}
    (hkept : KeepsCounter svc key p k) :
    InWindow svc key (p.step (LoginThread.next svc key) k) ∧
      passed key p ≤ passed key (p.step (LoginThread.next svc key) k) ∧
      (passed key p ≤ svc.loginMaxAttempts →
        (LeavesRoom svc key p k ↔
          passed key (p.step (LoginThread.next svc key) k) ≤ svc.loginMaxAttempts)) := by
  obtain ⟨hattempts, hexact⟩ := h
  unfold passed
  cases ht : p.threads[k]? with
  | none =>
    rw [Pool.step_none ht]
    refine ⟨⟨hattempts, hexact⟩, Int.le_refl _, fun hlimit => iff_of_true ?_ hlimit⟩
    intro t ht'
    rw [ht] at ht'
    cases ht'
  | some t =>
    have husers : (p.step (LoginThread.next svc key) k).shared.db.users = p.shared.db.users := by
      rw [Pool.step_some ht]
      exact next_users t
    obtain ⟨hnext, hcount⟩ := (hattempts.step_cases ht).exact hexact husers hkept
      (Pool.countP_step ht _) (Pool.countP_step ht (·.inFlight))
    have hroom : LeavesRoom svc key p k ↔ (t.arriving → ¬ p.shared.blocked svc key →
        p.shared.failures key + p.inFlight < svc.loginMaxAttempts) := by
      unfold LeavesRoom
      rw [ht]
      simp
    refine ⟨⟨hattempts.step k, hnext⟩, ?_, fun hlimit => ?_⟩
    · rw [inFlight, inFlight, hcount]
      split <;> omega
    · rw [hroom, inFlight, inFlight, hcount, ← inFlight]
      split
      next hpass =>
        exact ⟨fun h => by have := h hpass.1 hpass.2; omega, fun h _ _ => by omega⟩
      next hpass => exact iff_of_true (fun ha hb => absurd ⟨ha, hb⟩ hpass) (by omega)

theorem passed_mono {p : LoginPool} (h : InWindow svc key p) {schedule : List ℕ}
    (hkept : StepsSatisfy (Pool.step (LoginThread.next svc key)) (KeepsCounter svc key) p
      schedule) :
    passed key p ≤ passed key (run (Pool.step (LoginThread.next svc key)) p schedule) := by
  induction schedule generalizing p with
  | nil => exact Int.le_refl _
  | cons k schedule ih =>
    obtain ⟨hnext, hle, -⟩ := h.step hkept.1
    exact Int.le_trans hle (ih hnext hkept.2)

theorem Start.inWindow {p : LoginPool} (h : p.Start svc key)
    (haccount : hasAccount key p.shared.db.users = true) : InWindow svc key p := by
  refine ⟨h.attempts, haccount, ?_⟩
  rw [h.guesses, failures_of_none h.absent, awaitingCount_of_idle h.idle]
  rfl

end LoginPool

open LoginPool

theorem guesses_le (hmax : 0 ≤ svc.loginMaxAttempts) {p : LoginPool} (h : p.Start svc key)
    {schedule : List ℕ}
    (hc : StepsSatisfy (Pool.step (LoginThread.next svc key)) (LeavesRoom svc key) p schedule) :
    ∀ n, (run (Pool.step (LoginThread.next svc key)) p (schedule.take n)).shared.guesses ≤
      svc.loginMaxAttempts := by
  intro n
  obtain ⟨-, hguesses, hroom⟩ := (h.withinLimit hmax).run h.attempts (hc.take n)
  generalize run (Pool.step (LoginThread.next svc key)) p (schedule.take n) = q at hguesses hroom
  have hle : awaitingCount q ≤ inFlight q := by
    refine List.countP_mono_left fun t _ ht => ?_
    cases t with
    | rejected email => rfl
    | _ => cases ht
  omega

/-- Of an account that exists, in one window of the counter, once nobody is in flight. -/
theorem guesses_le_iff (hmax : 0 ≤ svc.loginMaxAttempts) {p : LoginPool} (h : p.Start svc key)
    (haccount : hasAccount key p.shared.db.users = true) {schedule : List ℕ}
    (hkept : StepsSatisfy (Pool.step (LoginThread.next svc key)) (KeepsCounter svc key) p schedule)
    (hended : ∀ t ∈ (run (Pool.step (LoginThread.next svc key)) p schedule).threads,
      t.inFlight = false) :
    StepsSatisfy (Pool.step (LoginThread.next svc key)) (LeavesRoom svc key) p schedule ↔
      (run (Pool.step (LoginThread.next svc key)) p schedule).shared.guesses ≤
        svc.loginMaxAttempts := by
  have hstart := h.inWindow haccount
  have hinv (n : ℕ) : InWindow svc key
      (run (Pool.step (LoginThread.next svc key)) p (schedule.take n)) :=
    run_invariant_of (fun p k hp hk => (hp.step hk).1) hstart (hkept.take n)
  have hlaw := stepsSatisfy_iff_under (C := LeavesRoom svc key)
    (L := fun p => passed key p ≤ svc.loginMaxAttempts)
    (fun p k hp hk => (InWindow.step hp hk).1)
    (fun p k hp hl hk => (InWindow.step hp hk).2.2 hl) hstart (h.withinLimit hmax).room hkept
  have hend : passed key (run (Pool.step (LoginThread.next svc key)) p schedule) =
      (run (Pool.step (LoginThread.next svc key)) p schedule).shared.guesses := by
    have hexact := (hinv schedule.length).2.guesses
    rw [List.take_length] at hexact
    rw [hexact, awaitingCount_of_idle hended, passed, inFlight_of_idle hended]
  rw [hlaw, ← hend]
  constructor
  · intro hall
    have hlast := hall schedule.length
    rw [List.take_length] at hlast
    exact hlast
  · intro hlast n
    have hrest : run (Pool.step (LoginThread.next svc key))
        (run (Pool.step (LoginThread.next svc key)) p (schedule.take n)) (schedule.drop n) =
          run (Pool.step (LoginThread.next svc key)) p schedule := by
      rw [← run_append, List.take_append_drop]
    have hkept' := hkept
    rw [← List.take_append_drop n schedule, stepsSatisfy_append] at hkept'
    have hmono := passed_mono (hinv n) hkept'.2
    rw [hrest] at hmono
    exact Int.le_trans hmono hlast

namespace Sample

/-- It lowers the one address that the attempts below spell in two ways. -/
def guessSvc : Service :=
  { Sample.svc with
    toLowerCase := fun email => if email = "Ann@example.com" then "ann@example.com" else email }

/-- Attempts with a wrong password for `ann`, in one letter case or another, and the clock. -/
def guessers (attempts : List String) (waits : List ℕ) : LoginPool :=
  { shared := { db := IdentityDb.seeded seed, env := clock 0, guesses := 0 }
    threads := attempts.map (.arrived · "guess") ++ [.clock waits] }

theorem guess_wrong : ∀ user ∈ seed.users.find? (·.email = "ann@example.com"),
    user.isActive = true → Sample.guessSvc.compareSync "guess" user.passwordHash = false := by
  decide +kernel

theorem guessers_start {attempts : List String} (waits : List ℕ)
    (h : ∀ email ∈ attempts, Sample.guessSvc.toLowerCase email = "ann@example.com") :
    (guessers attempts waits).Start Sample.guessSvc "ann@example.com" := by
  refine ⟨Nat.zero_le 1, rfl, rfl, fun t ht => ?_, fun t ht => ?_⟩
  · rcases List.mem_append.mp ht with ht | ht
    · obtain ⟨email, -, rfl⟩ := List.mem_map.mp ht
      rfl
    · obtain rfl := List.mem_singleton.mp ht
      rfl
  · rcases List.mem_append.mp ht with ht | ht
    · obtain ⟨email, hemail, rfl⟩ := List.mem_map.mp ht
      exact ⟨h email hemail, guess_wrong⟩
    · obtain rfl := List.mem_singleton.mp ht
      trivial

end Sample

/-- Three attempts at once; the counter expires before the last of them is counted. -/
theorem guesses_le_sample :
    (run (Pool.step (LoginThread.next Sample.guessSvc "ann@example.com"))
      (Sample.guessers ["ann@example.com", "Ann@example.com", "ann@example.com"] [900000])
      ([0, 1, 0, 1, 2, 0, 2, 1, 0, 3, 2, 2].take 12)).shared.guesses ≤
        Sample.guessSvc.loginMaxAttempts :=
  guesses_le (by decide) (Sample.guessers_start [900000] (by decide +kernel)) (by decide +kernel) 12

/-- Six attempts that all read the counter first, of an address that may guess five times. -/
theorem six_guesses :
    (Sample.guessers (List.replicate 6 "ann@example.com") []).Start Sample.guessSvc
      "ann@example.com" ∧
    Sample.guessSvc.loginMaxAttempts <
      (run (Pool.step (LoginThread.next Sample.guessSvc "ann@example.com"))
        (Sample.guessers (List.replicate 6 "ann@example.com") [])
        [0, 1, 2, 3, 4, 5, 0, 1, 2, 3, 4, 5]).shared.guesses :=
  ⟨Sample.guessers_start [] (by decide +kernel), by decide +kernel⟩

end SaasChassis.Identity
