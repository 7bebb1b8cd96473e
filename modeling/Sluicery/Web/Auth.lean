import Sluicery.Db.Models

/-!
# Logins and sessions

A session is a row which holds the hash of a random token; the token is in a
signed cookie.  A visitor has an anonymous session, a login replaces it by one
of the user, and a new password deletes all sessions of the user.
-/

namespace Sluicery.Web.Auth

open Sluicery.Library Sluicery.Db

/-! ## State -/

structure UserRow where
  username : String
  passwordHash : String
  lastLoginAt : Option Time := none
  failedLoginAttempts : Int := 0
  lockedUntil : Option Time := none
deriving DecidableEq, Repr

structure AuthSessionRow where
  tokenHash : String
  userId : Option Nat
  expiresAt : Time
deriving DecidableEq, Repr

/-- The tables, and how many tokens have been drawn. -/
structure AuthState where
  users : Table UserRow := .empty
  sessions : Table AuthSessionRow := .empty
  drawn : Nat := 0

/-- Random tokens, hashes and signatures. -/
structure Environment where
  /-- The tokens of `secrets.token_urlsafe`, in the order of the calls. -/
  sessionToken : Nat → String
  hashSessionToken : String → String
  dumps : String → String
  loads : String → Option String
  /-- `_PASSWORD_HASHER.hash`, by salt. -/
  hashPassword : String → String → String
  verifyPassword : String → String → Bool
  needsRehash : String → Bool

/-- The settings which the service reads. -/
structure Limits where
  sessionMaxAgeSec : Int := 2592000
  maxLoginAttempts : Int := 5
  lockoutSec : Int := 900

/-- The readings of the clock in one call. -/
structure Clock where
  now : Time := 0
  /-- When `create_session` deletes the expired sessions. -/
  swept : Time := now
  /-- From when the new session lasts. -/
  issued : Time := swept

structure SessionIdentity where
  token : String
  sessionId : Nat
  userId : Option Nat
  username : Option String
  expiresAt : Time
deriving DecidableEq, Repr

structure NewSession where
  token : String
  signedCookie : String
  identity : SessionIdentity
deriving DecidableEq, Repr

structure LoginResult where
  ok : Bool
  session : Option NewSession := none
deriving DecidableEq, Repr

/-! ## `AuthService` -/

section Service

variable (environment : Environment) (state : AuthState)

/-- `create_session`; the row of a session without its user stays. -/
def createSession (userId : Option Nat) (limits : Limits) (clock : Clock) :
    Except String NewSession × AuthState :=
  let token := environment.sessionToken state.drawn
  let kept := state.sessions.deleteWhere fun _ row =>
    decide (row.expiresAt ≤ clock.swept)
  let row : AuthSessionRow :=
    { tokenHash := environment.hashSessionToken token, userId,
      expiresAt := clock.issued + limits.sessionMaxAgeSec }
  let drawn := { state with sessions := kept, drawn := state.drawn + 1 }
  if kept.any fun _ other => other.tokenHash == row.tokenHash then
    (.error "UNIQUE constraint failed: auth_session.token_hash", drawn)
  else
    let after := { drawn with sessions := kept.insert row }
    let session (username : Option String) : NewSession :=
      { token, signedCookie := environment.dumps token,
        identity :=
          { token, sessionId := kept.nextKey, userId, username,
            expiresAt := row.expiresAt } }
    match userId with
    | none => (.ok (session none), after)
    | some key =>
        match state.users.get key with
        | some user => (.ok (session (some user.username)), after)
        | none =>
            (.error "セッションに指定されたユーザーが存在しません", after)

/-- `get_by_token_hash`. -/
def getByTokenHash (sessions : Table AuthSessionRow) (tokenHash : String) :
    Option (Nat × AuthSessionRow) :=
  (sessions.select fun _ row => row.tokenHash == tokenHash).head?

/-- `load_session`. -/
def loadSession (signedCookie : Option String) (now : Time) :
    Option SessionIdentity × AuthState :=
  match (signedCookie.filter fun cookie => cookie != "").bind
      environment.loads with
  | none => (none, state)
  | some token =>
      match getByTokenHash state.sessions
          (environment.hashSessionToken token) with
      | none => (none, state)
      | some (sessionId, row) =>
          let deleted :=
            { state with sessions := state.sessions.erase sessionId }
          if row.expiresAt ≤ now then (none, deleted)
          else
            match row.userId with
            | none =>
                (some { token, sessionId, userId := none, username := none,
                        expiresAt := row.expiresAt }, state)
            | some key =>
                match state.users.get key with
                | none => (none, deleted)
                | some user =>
                    (some { token, sessionId, userId := some key,
                            username := some user.username,
                            expiresAt := row.expiresAt }, state)

/-- `delete_session`. -/
def deleteSession (token : String) : AuthState :=
  { state with
    sessions := state.sessions.deleteWhere fun _ row =>
      row.tokenHash == environment.hashSessionToken token }

/-- The user after a failed login. -/
def failLogin (limits : Limits) (now : Time) (user : UserRow) : UserRow :=
  let failed := user.failedLoginAttempts + 1
  { user with
    failedLoginAttempts := failed
    lockedUntil :=
      if limits.maxLoginAttempts ≤ failed then
        some (now + limits.lockoutSec)
      else user.lockedUntil }

/-- The user after a login, with a new hash if the old one is outdated. -/
def passLogin (password salt : String) (now : Time) (user : UserRow) :
    UserRow :=
  { user with
    passwordHash :=
      if environment.needsRehash user.passwordHash then
        environment.hashPassword salt password
      else user.passwordHash
    failedLoginAttempts := 0
    lockedUntil := none
    lastLoginAt := some now }

/-- A lock which has ended is lifted. -/
def unlock (user : UserRow) : UserRow :=
  if user.lockedUntil.isSome then
    { user with lockedUntil := none, failedLoginAttempts := 0 }
  else user

/-- `authenticate`. -/
def authenticate (currentToken username password salt : String)
    (limits : Limits) (clock : Clock) :
    Except String LoginResult × AuthState :=
  match state.users.rows.head? with
  | none => (.ok { ok := false }, state)
  | some (key, user) =>
      if user.lockedUntil.any fun lockedUntil => clock.now < lockedUntil then
        (.ok { ok := false }, state)
      else if username = user.username ∧
          environment.verifyPassword user.passwordHash password then
        let passed := deleteSession environment
          { state with
            users := state.users.modify key fun user =>
              passLogin environment password salt clock.now (unlock user) }
          currentToken
        let created :=
          createSession environment passed (some key) limits clock
        (created.1.map fun session => { ok := true, session := some session },
          created.2)
      else
        (.ok { ok := false },
          { state with
            users := state.users.modify key fun user =>
              failLogin limits clock.now (unlock user) })

/-- `change_password`. -/
def changePassword (userId : Nat) (currentPassword newPassword salt : String) :
    Bool × AuthState :=
  match state.users.get userId with
  | none => (false, state)
  | some user =>
      if environment.verifyPassword user.passwordHash currentPassword then
        (true,
          { state with
            users := state.users.modify userId fun user =>
              { user with
                passwordHash := environment.hashPassword salt newPassword
                failedLoginAttempts := 0
                lockedUntil := none }
            sessions := state.sessions.deleteWhere fun _ row =>
              row.userId == some userId })
      else (false, state)

/-- `ensure_initial_user`, with the password it was given or has drawn. -/
def ensureInitialUser (username password salt : String) : Bool × AuthState :=
  match state.users.rows.head? with
  | some _ => (false, state)
  | none =>
      (true,
        { state with
          users := state.users.insert
            { username
              passwordHash := environment.hashPassword salt password } })

end Service

/-! ## Histories -/

/-- What happens to the service. -/
inductive Event where
  | ensureInitialUser (username password salt : String)
  | createSession
  | request (cookie : Option String)
  | login (currentToken username password salt : String)
  | logout (token : String)
  | changePassword (userId : Nat) (currentPassword newPassword salt : String)

/-- An event, the clock and the settings at that time. -/
structure Action where
  event : Event
  clock : Clock := {}
  limits : Limits := {}

/-- What a call returns. -/
inductive Outcome where
  | initialUser (created : Bool)
  | session (created : Except String NewSession)
  /-- The identity of a request, or the anonymous session it gets. -/
  | identity (identity : SessionIdentity)
  | login (result : Except String LoginResult)
  | loggedOut
  | passwordChanged (changed : Bool)

/-- One event; a request without a session gets an anonymous one. -/
def perform (environment : Environment) (state : AuthState)
    (action : Action) : Outcome × AuthState :=
  match action.event with
  | .ensureInitialUser username password salt =>
      let done := ensureInitialUser environment state username password salt
      (.initialUser done.1, done.2)
  | .createSession =>
      let created :=
        createSession environment state none action.limits action.clock
      (.session created.1, created.2)
  | .request cookie =>
      let loaded := loadSession environment state cookie action.clock.now
      match loaded.1 with
      | some identity => (.identity identity, loaded.2)
      | none =>
          let created := createSession environment loaded.2 none
            action.limits action.clock
          (.session created.1, created.2)
  | .login currentToken username password salt =>
      let done := authenticate environment state currentToken username
        password salt action.limits action.clock
      (.login done.1, done.2)
  | .logout token => (.loggedOut, deleteSession environment state token)
  | .changePassword userId currentPassword newPassword salt =>
      let done := changePassword environment state userId currentPassword
        newPassword salt
      (.passwordChanged done.1, done.2)

/-- One event of a history, with the state before it. -/
structure Entry where
  before : AuthState
  action : Action
  outcome : Outcome

/-- The entries of all actions, and the state after them. -/
def execute (environment : Environment) (start : AuthState) :
    List Action → List Entry × AuthState :=
  List.foldl
    (fun done action =>
      let performed := perform environment done.2 action
      (done.1 ++ [⟨done.2, action, performed.1⟩], performed.2))
    ([], start)

end Sluicery.Web.Auth
