import Sluicery.Web.Auth
import Mathlib.Logic.Function.Basic

/-!
# Which sessions are authenticated

A session row comes from one call which issued its token, and no later call
has logged it out or changed the password of its user.  Tokens are drawn once,
so a token has the user it was issued for, or none.
-/

namespace Sluicery.Web.Auth

open Sluicery.Library Sluicery.Db

/-! ## Entries -/

/-- The session which a call has issued. -/
def issuedBy (entry : Entry) : Option SessionIdentity :=
  match entry.outcome with
  | .session (.ok session) => some session.identity
  | .login (.ok result) => result.session.map NewSession.identity
  | _ => none

def LogsOut (entry : Entry) (token : String) : Prop :=
  entry.action.event = .logout token

def ChangesPassword (entry : Entry) (userId : Nat) : Prop :=
  entry.outcome = .passwordChanged true ∧
    ∃ currentPassword newPassword salt, entry.action.event =
      .changePassword userId currentPassword newPassword salt

/-- A login of the user, with the right name and password. -/
def LogsIn (environment : Environment) (entry : Entry) (userId : Nat) :
    Prop :=
  ∃ currentToken username password salt user session,
    entry.action.event = .login currentToken username password salt ∧
      entry.outcome = .login (.ok { ok := true, session := some session }) ∧
      entry.before.users.get userId = some user ∧
      user.username = username ∧
      environment.verifyPassword user.passwordHash password = true

/-- The row of a session. -/
def IsRowOf (environment : Environment) (identity : SessionIdentity)
    (row : AuthSessionRow) : Prop :=
  row =
    { tokenHash := environment.hashSessionToken identity.token
      userId := identity.userId
      expiresAt := identity.expiresAt }

/-- A call which ends other sessions only. -/
structure Keeps (environment : Environment) (entry : Entry)
    (row : AuthSessionRow) : Prop where
  notLoggedOut : ∀ token, LogsOut entry token →
    row.tokenHash ≠ environment.hashSessionToken token
  notChanged : ∀ userId, ChangesPassword entry userId →
    row.userId ≠ some userId

/-! ## Calls -/

/-- What `create_session` does. -/
structure Creates (environment : Environment) (state : AuthState)
    (userId : Option Nat) (created : Except String NewSession × AuthState) :
    Prop where
  users : created.2.users = state.users
  drawn : created.2.drawn = state.drawn + 1
  issued : ∀ session, created.1 = .ok session →
    session.identity.token = environment.sessionToken state.drawn ∧
      session.identity.userId = userId
  rows : ∀ key row, created.2.sessions.get key = some row →
    state.sessions.get key = some row ∨
      (∃ session, created.1 = .ok session ∧
        IsRowOf environment session.identity row) ∨
      ∃ missing, userId = some missing ∧ state.users.get missing = none

theorem creates_createSession
    (environment : Environment) (state : AuthState) (userId : Option Nat)
    (limits : Limits) (clock : Clock) :
    Creates environment state userId
      (createSession environment state userId limits clock) := by
  have kept : ∀ key row,
      (state.sessions.deleteWhere fun _ row =>
        decide (row.expiresAt ≤ clock.swept)).get key = some row →
          state.sessions.get key = some row := by
    intro key row found
    exact ((Table.get_deleteWhere_eq_some_iff _ _ _ _).mp found).1
  have inserted : ∀ {new : AuthSessionRow} key row,
      ((state.sessions.deleteWhere fun _ row =>
        decide (row.expiresAt ≤ clock.swept)).insert new).get key =
          some row →
        state.sessions.get key = some row ∨ row = new := by
    intro new key row found
    rw [Table.get_insert] at found
    split at found
    · exact Or.inr (Option.some.inj found).symm
    · exact Or.inl (kept key row found)
  unfold createSession
  dsimp only
  split
  · constructor
    · rfl
    · rfl
    · intro session impossible
      cases impossible
    · exact fun key row found => Or.inl (kept key row found)
  · split
    · constructor
      · rfl
      · rfl
      · intro session isSession
        cases isSession
        exact ⟨rfl, rfl⟩
      · intro key row found
        rcases inserted key row found with already | isNew
        · exact Or.inl already
        · exact Or.inr (Or.inl ⟨_, rfl, isNew⟩)
    · next user =>
        split
        · next found =>
            constructor
            · rfl
            · rfl
            · intro session isSession
              cases isSession
              exact ⟨rfl, rfl⟩
            · intro key row found
              rcases inserted key row found with already | isNew
              · exact Or.inl already
              · exact Or.inr (Or.inl ⟨_, rfl, isNew⟩)
        · next missing =>
            constructor
            · rfl
            · rfl
            · intro session impossible
              cases impossible
            · intro key row found
              rcases inserted key row found with already | _
              · exact Or.inl already
              · exact Or.inr (Or.inr ⟨user, rfl, missing⟩)

/-- What `load_session` does; a row which is not valid is deleted. -/
structure Loads (environment : Environment) (state : AuthState) (now : Time)
    (loaded : Option SessionIdentity × AuthState) : Prop where
  users : loaded.2.users = state.users
  drawn : loaded.2.drawn = state.drawn
  rows : ∀ key row, loaded.2.sessions.get key = some row →
    state.sessions.get key = some row
  identity : ∀ identity, loaded.1 = some identity →
    now < identity.expiresAt ∧ ∃ key row,
      state.sessions.get key = some row ∧ IsRowOf environment identity row

theorem loads_loadSession
    (environment : Environment) (state : AuthState)
    (signedCookie : Option String) (now : Time) :
    Loads environment state now
      (loadSession environment state signedCookie now) := by
  have unchanged : Loads environment state now (none, state) := by
    constructor
    · rfl
    · rfl
    · exact fun _ _ found => found
    · intro identity impossible
      cases impossible
  have deleted : ∀ sessionId, Loads environment state now
      (none, { state with
        sessions := state.sessions.erase sessionId }) := by
    intro sessionId
    constructor
    · rfl
    · rfl
    · intro key row found
      rw [Table.get_erase] at found
      split at found
      · cases found
      · exact found
    · intro identity impossible
      cases impossible
  unfold loadSession
  split
  · exact unchanged
  · next token _ =>
      split
      · exact unchanged
      · next sessionId row isRow =>
          have found := (Table.mem_select_iff _ _ _ _).mp
            (List.mem_of_mem_head? isRow)
          rw [beq_iff_eq] at found
          have isHere : ∀ identity : SessionIdentity,
              identity.token = token → identity.userId = row.userId →
                identity.expiresAt = row.expiresAt → ∃ key row,
                  state.sessions.get key = some row ∧
                    IsRowOf environment identity row := by
            intro identity isToken isUser isExpiry
            refine ⟨sessionId, row, found.1, ?_⟩
            rw [IsRowOf, isToken, isUser, isExpiry, ← found.2]
          dsimp only
          split
          · exact deleted sessionId
          · next notExpired =>
              have valid := Int.not_le.mp notExpired
              split
              · next noUser =>
                  constructor
                  · rfl
                  · rfl
                  · exact fun _ _ found => found
                  · intro identity isIdentity
                    cases isIdentity
                    exact ⟨valid, isHere _ rfl noUser.symm rfl⟩
              · next userId isUser =>
                  split
                  · exact deleted sessionId
                  · constructor
                    · rfl
                    · rfl
                    · exact fun _ _ found => found
                    · intro identity isIdentity
                      cases isIdentity
                      exact ⟨valid, isHere _ rfl isUser.symm rfl⟩

/-- What `authenticate` does; it issues a session after a login only. -/
structure Authenticates (environment : Environment) (state : AuthState)
    (username password : String)
    (done : Except String LoginResult × AuthState) : Prop where
  drawn : state.drawn ≤ done.2.drawn
  issued : ∀ result session, done.1 = .ok result →
    result.session = some session →
      result = { ok := true, session := some session } ∧
        session.identity.token = environment.sessionToken state.drawn ∧
        state.drawn < done.2.drawn ∧ ∃ userId user,
          session.identity.userId = some userId ∧
            state.users.get userId = some user ∧ user.username = username ∧
            environment.verifyPassword user.passwordHash password = true
  rows : ∀ key row, done.2.sessions.get key = some row →
    state.sessions.get key = some row ∨
      ∃ result session, done.1 = .ok result ∧
        result.session = some session ∧
        IsRowOf environment session.identity row

theorem authenticates_authenticate
    (environment : Environment) (state : AuthState)
    (currentToken username password salt : String) (limits : Limits)
    (clock : Clock) :
    Authenticates environment state username password
      (authenticate environment state currentToken username password salt
        limits clock) := by
  have failed : ∀ users, Authenticates environment state username password
      (.ok { ok := false }, { state with users }) := by
    intro users
    constructor
    · exact Nat.le_refl _
    · intro result session isResult isSession
      cases isResult
      cases isSession
    · exact fun _ _ found => Or.inl found
  unfold authenticate
  split
  · exact failed _
  · next userId user isFirst =>
      have isUser : state.users.get userId = some user :=
        (Table.get_eq_some_iff _ _ _).mpr (List.mem_of_mem_head? isFirst)
      split
      · exact failed _
      · split
        · next agrees =>
            dsimp only
            generalize isPassed : deleteSession environment
              { state with
                users := state.users.modify userId fun user =>
                  passLogin environment password salt clock.now
                    (unlock user) } currentToken = passed
            have creates := creates_createSession environment passed
              (some userId) limits clock
            have isDrawn : passed.drawn = state.drawn := by
              rw [← isPassed]
              rfl
            have kept : ∀ key row, passed.sessions.get key = some row →
                state.sessions.get key = some row := by
              intro key row found
              rw [← isPassed] at found
              exact ((Table.get_deleteWhere_eq_some_iff _ _ _ _).mp found).1
            have hasUser : passed.users.get userId ≠ none := by
              rw [← isPassed]
              simp [deleteSession, isUser]
            generalize createSession environment passed (some userId) limits
              clock = created at creates ⊢
            constructor
            · show state.drawn ≤ created.2.drawn
              rw [creates.drawn, isDrawn]
              exact Nat.le_succ _
            · intro result session isResult isSession
              rcases created with ⟨error | new, after⟩
              · cases isResult
              · cases isResult
                cases isSession
                rcases creates.issued session rfl with ⟨isToken, ofUser⟩
                rw [isDrawn] at isToken
                refine ⟨rfl, isToken, ?_, userId, user, ofUser, isUser,
                  agrees.1.symm, agrees.2⟩
                show state.drawn < after.drawn
                rw [creates.drawn, isDrawn]
                exact Nat.lt_succ_self _
            · intro key row found
              rcases creates.rows key row found with
                already | ⟨session, isSession, isRow⟩ | ⟨missing, same, none⟩
              · exact Or.inl (kept key row already)
              · right
                refine ⟨{ ok := true, session := some session }, session,
                  ?_, rfl, isRow⟩
                show created.1.map _ = _
                rw [isSession]
                rfl
              · cases same
                exact absurd none hasUser
        · exact failed _

/-! ## One entry -/

/-- What a call does to the sessions. -/
structure Performs (environment : Environment) (entry : Entry)
    (after : AuthState) : Prop where
  drawn : entry.before.drawn ≤ after.drawn
  fresh : ∀ identity, issuedBy entry = some identity →
    identity.token = environment.sessionToken entry.before.drawn ∧
      entry.before.drawn < after.drawn
  login : ∀ identity userId, issuedBy entry = some identity →
    identity.userId = some userId → LogsIn environment entry userId
  rows : ∀ key row, after.sessions.get key = some row →
    entry.before.sessions.get key = some row ∧
        Keeps environment entry row ∨
      ∃ identity, issuedBy entry = some identity ∧
        IsRowOf environment identity row

theorem keeps_of_other {environment : Environment} {entry : Entry}
    (notLogout : ∀ token, entry.action.event ≠ .logout token)
    (notChanged : entry.outcome ≠ .passwordChanged true)
    (row : AuthSessionRow) : Keeps environment entry row where
  notLoggedOut token logsOut := absurd logsOut (notLogout token)
  notChanged _ changes := absurd changes.1 notChanged

/-- An anonymous session, after the calls which delete rows only. -/
theorem performs_of_creates
    {environment : Environment} {state middle : AuthState} {action : Action}
    {created : Except String NewSession × AuthState}
    (creates : Creates environment middle none created)
    (sameDrawn : middle.drawn = state.drawn)
    (kept : ∀ key row, middle.sessions.get key = some row →
      state.sessions.get key = some row)
    (notLogout : ∀ token, action.event ≠ .logout token) :
    Performs environment ⟨state, action, .session created.1⟩ created.2 := by
  have issued : ∀ identity,
      issuedBy ⟨state, action, .session created.1⟩ = some identity →
        ∃ session, created.1 = .ok session ∧
          session.identity = identity := by
    intro identity isIssued
    cases isCreated : created.1 with
    | error =>
        rw [isCreated] at isIssued
        cases isIssued
    | ok session =>
        rw [isCreated] at isIssued
        exact ⟨session, rfl, Option.some.inj isIssued⟩
  constructor
  · show state.drawn ≤ created.2.drawn
    rw [creates.drawn, sameDrawn]
    exact Nat.le_succ _
  · intro identity isIssued
    rcases issued identity isIssued with ⟨session, isSession, rfl⟩
    constructor
    · rw [(creates.issued session isSession).1, sameDrawn]
    · show state.drawn < created.2.drawn
      rw [creates.drawn, sameDrawn]
      exact Nat.lt_succ_self _
  · intro identity userId isIssued ofUser
    rcases issued identity isIssued with ⟨session, isSession, rfl⟩
    rw [(creates.issued session isSession).2] at ofUser
    cases ofUser
  · intro key row found
    rcases creates.rows key row found with
      already | ⟨session, isSession, isRow⟩ | ⟨missing, impossible, _⟩
    · left
      apply And.intro (kept key row already)
      apply keeps_of_other notLogout
      exact fun impossible => nomatch impossible
    · right
      refine ⟨session.identity, ?_, isRow⟩
      rw [isSession]
      rfl
    · cases impossible

/-- A call which issues no session. -/
theorem performs_of_kept
    {environment : Environment} {entry : Entry} {after : AuthState}
    (notIssued : issuedBy entry = none)
    (drawn : entry.before.drawn = after.drawn)
    (kept : ∀ key row, after.sessions.get key = some row →
      entry.before.sessions.get key = some row ∧
        Keeps environment entry row) :
    Performs environment entry after where
  drawn := Nat.le_of_eq drawn
  fresh identity isIssued := by
    rw [notIssued] at isIssued
    cases isIssued
  login identity _ isIssued := by
    rw [notIssued] at isIssued
    cases isIssued
  rows key row found := Or.inl (kept key row found)

theorem performs_perform
    (environment : Environment) (state : AuthState) (action : Action) :
    Performs environment
      ⟨state, action, (perform environment state action).1⟩
      (perform environment state action).2 := by
  rcases action with ⟨event, clock, limits⟩
  cases event with
  | ensureInitialUser username password salt =>
      have same :
          (ensureInitialUser environment state username password
            salt).2.drawn = state.drawn ∧
          (ensureInitialUser environment state username password
            salt).2.sessions = state.sessions := by
        unfold ensureInitialUser
        split <;> exact ⟨rfl, rfl⟩
      apply performs_of_kept rfl same.1.symm
      intro key row found
      change (ensureInitialUser environment state username password
        salt).2.sessions.get key = some row at found
      rw [same.2] at found
      apply And.intro found
      apply keeps_of_other
      · exact fun _ impossible => nomatch impossible
      · exact fun impossible => nomatch impossible
  | createSession =>
      exact performs_of_creates (creates_createSession ..) rfl
        (fun _ _ found => found) (fun _ impossible => nomatch impossible)
  | request cookie =>
      have loads := loads_loadSession environment state cookie clock.now
      cases isLoaded : (loadSession environment state cookie clock.now).1 with
      | some identity =>
          simp only [perform, isLoaded]
          apply performs_of_kept rfl loads.drawn.symm
          intro key row found
          apply And.intro (loads.rows key row found)
          apply keeps_of_other
          · exact fun _ impossible => nomatch impossible
          · exact fun impossible => nomatch impossible
      | none =>
          simp only [perform, isLoaded]
          exact performs_of_creates (creates_createSession ..) loads.drawn
            loads.rows (fun _ impossible => nomatch impossible)
  | login currentToken username password salt =>
      have logsIn := authenticates_authenticate environment state
        currentToken username password salt limits clock
      simp only [perform]
      generalize authenticate environment state currentToken username
        password salt limits clock = done at logsIn ⊢
      have issued : ∀ identity,
          issuedBy ⟨state,
            ⟨.login currentToken username password salt, clock, limits⟩,
            .login done.1⟩ = some identity →
            ∃ result session, done.1 = .ok result ∧
              result.session = some session ∧
              session.identity = identity := by
        intro identity isIssued
        cases isDone : done.1 with
        | error =>
            rw [isDone] at isIssued
            cases isIssued
        | ok result =>
            rw [isDone] at isIssued
            rcases Option.map_eq_some_iff.mp isIssued with
              ⟨session, isSession, isIdentity⟩
            exact ⟨result, session, rfl, isSession, isIdentity⟩
      constructor
      · exact logsIn.drawn
      · intro identity isIssued
        rcases issued identity isIssued with
          ⟨result, session, isResult, isSession, rfl⟩
        rcases logsIn.issued result session isResult isSession with
          ⟨_, isToken, isDrawn, _⟩
        exact ⟨isToken, isDrawn⟩
      · intro identity userId isIssued ofUser
        rcases issued identity isIssued with
          ⟨result, session, isResult, isSession, rfl⟩
        rcases logsIn.issued result session isResult isSession with
          ⟨rfl, _, _, other, user, ofOther, isUser, isName, isPassword⟩
        rw [ofOther] at ofUser
        cases ofUser
        exact ⟨currentToken, username, password, salt, user, session, rfl,
          congrArg Outcome.login isResult, isUser, isName, isPassword⟩
      · intro key row found
        rcases logsIn.rows key row found with
          already | ⟨result, session, isResult, isSession, isRow⟩
        · left
          apply And.intro already
          apply keeps_of_other
          · exact fun _ impossible => nomatch impossible
          · exact fun impossible => nomatch impossible
        · right
          refine ⟨session.identity, ?_, isRow⟩
          simp only [issuedBy, isResult, isSession, Option.map_some]
  | logout token =>
      apply performs_of_kept
      · rfl
      · rfl
      · intro key row found
        rcases (Table.get_deleteWhere_eq_some_iff _ _ _ _).mp found with
          ⟨already, differs⟩
        apply And.intro already
        constructor
        · intro other logsOut
          cases logsOut
          simpa using differs
        · rintro userId ⟨impossible, _⟩
          cases impossible
  | changePassword userId currentPassword newPassword salt =>
      simp only [perform]
      have refused : Performs environment
          ⟨state, ⟨.changePassword userId currentPassword newPassword salt,
            clock, limits⟩, .passwordChanged false⟩ state := by
        apply performs_of_kept rfl rfl
        intro key row found
        apply And.intro found
        apply keeps_of_other
        · exact fun _ impossible => nomatch impossible
        · exact fun impossible => nomatch impossible
      unfold changePassword
      split
      · exact refused
      · split
        · apply performs_of_kept
          · rfl
          · rfl
          · intro key row found
            rcases (Table.get_deleteWhere_eq_some_iff _ _ _ _).mp found with
              ⟨already, differs⟩
            apply And.intro already
            constructor
            · intro token impossible
              cases impossible
            · rintro other ⟨_, _, _, _, isEvent⟩
              cases isEvent
              simpa using differs
        · exact refused

/-! ## Histories -/

/-- Where the rows and the tokens of a history come from. -/
structure Sound (environment : Environment) (history : List Entry)
    (state : AuthState) : Prop where
  rows : ∀ key row, state.sessions.get key = some row →
    ∃ before entry after identity, history = before ++ entry :: after ∧
      issuedBy entry = some identity ∧ IsRowOf environment identity row ∧
      ∀ later ∈ after, Keeps environment later row
  drawn : ∀ entry ∈ history, ∀ identity, issuedBy entry = some identity →
    ∃ number < state.drawn,
      identity.token = environment.sessionToken number
  distinct : history.Pairwise fun earlier later => ∀ first second,
    issuedBy earlier = some first → issuedBy later = some second →
      first.token ≠ second.token
  logins : ∀ entry ∈ history, ∀ identity userId,
    issuedBy entry = some identity → identity.userId = some userId →
      LogsIn environment entry userId

theorem sound_of_empty
    (environment : Environment) {state : AuthState}
    (noSessions : state.sessions = .empty) :
    Sound environment [] state where
  rows key row found := by
    rw [noSessions, Table.get_empty] at found
    cases found
  drawn entry member := by cases member
  distinct := List.Pairwise.nil
  logins entry member := by cases member

/-- What one call preserves. -/
theorem Sound.step
    {environment : Environment} {history : List Entry} {state : AuthState}
    (tokens : Function.Injective environment.sessionToken)
    (sound : Sound environment history state) (action : Action) :
    Sound environment
      (history ++ [⟨state, action, (perform environment state action).1⟩])
      (perform environment state action).2 := by
  have performs := performs_perform environment state action
  generalize isEntry : (⟨state, action,
    (perform environment state action).1⟩ : Entry) = entry at performs ⊢
  have isBefore : entry.before = state := by
    rw [← isEntry]
  generalize (perform environment state action).2 = after at performs ⊢
  constructor
  · intro key row found
    rcases performs.rows key row found with
      ⟨already, keeps⟩ | ⟨identity, isIssued, isRow⟩
    · rw [isBefore] at already
      rcases sound.rows key row already with
        ⟨before, issuing, between, identity, rfl, isIssued, isRow, kept⟩
      refine ⟨before, issuing, between ++ [entry], identity, by simp,
        isIssued, isRow, ?_⟩
      intro later member
      rcases List.mem_append.mp member with inBetween | isLast
      · exact kept later inBetween
      · rw [List.mem_singleton] at isLast
        rw [isLast]
        exact keeps
    · refine ⟨history, entry, [], identity, rfl, isIssued, isRow, ?_⟩
      intro later member
      cases member
  · intro other member identity isIssued
    rcases List.mem_append.mp member with inHistory | isLast
    · rcases sound.drawn other inHistory identity isIssued with
        ⟨number, isLess, isToken⟩
      have grows := performs.drawn
      rw [isBefore] at grows
      exact ⟨number, Nat.lt_of_lt_of_le isLess grows, isToken⟩
    · rw [List.mem_singleton] at isLast
      rw [isLast] at isIssued
      exact ⟨entry.before.drawn, (performs.fresh identity isIssued).2,
        (performs.fresh identity isIssued).1⟩
  · rw [List.pairwise_append]
    refine ⟨sound.distinct, List.pairwise_singleton _ _, ?_⟩
    intro earlier member later isLast first second isFirst isSecond same
    rw [List.mem_singleton] at isLast
    rw [isLast] at isSecond
    rcases sound.drawn earlier member first isFirst with
      ⟨number, isLess, isToken⟩
    rw [isToken, (performs.fresh second isSecond).1] at same
    have isNumber := tokens same
    rw [isNumber, isBefore] at isLess
    exact Nat.lt_irrefl _ isLess
  · intro other member identity userId isIssued ofUser
    rcases List.mem_append.mp member with inHistory | isLast
    · exact sound.logins other inHistory identity userId isIssued ofUser
    · rw [List.mem_singleton] at isLast
      rw [isLast] at isIssued ⊢
      exact performs.login identity userId isIssued ofUser

/-- What every history preserves. -/
theorem sound_execute
    {environment : Environment} {start : AuthState}
    (tokens : Function.Injective environment.sessionToken)
    (noSessions : start.sessions = .empty) (actions : List Action) :
    Sound environment (execute environment start actions).1
      (execute environment start actions).2 := by
  have fromHere : ∀ done : List Entry × AuthState,
      Sound environment done.1 done.2 →
        Sound environment
          (actions.foldl (fun done action =>
            let performed := perform environment done.2 action
            (done.1 ++ [⟨done.2, action, performed.1⟩], performed.2))
            done).1
          (actions.foldl (fun done action =>
            let performed := perform environment done.2 action
            (done.1 ++ [⟨done.2, action, performed.1⟩], performed.2))
            done).2 := by
    induction actions with
    | nil => exact fun _ sound => sound
    | cons action rest induction =>
        intro done sound
        exact induction _ (sound.step tokens action)
  exact fromHere ([], start) (sound_of_empty environment noSessions)

/-- A valid session of the user: what its history has to say. -/
structure Genuine (environment : Environment) (history : List Entry)
    (identity : SessionIdentity) (userId : Nat) (now : Time) : Prop where
  /-- A login issued the token, and it has not been revoked since. -/
  login : ∃ before entry after issued, history = before ++ entry :: after ∧
    LogsIn environment entry userId ∧ issuedBy entry = some issued ∧
    issued.token = identity.token ∧ now < issued.expiresAt ∧
    ∀ later ∈ after,
      ¬ LogsOut later identity.token ∧ ¬ ChangesPassword later userId
  /-- No anonymous session was issued with this token. -/
  notPreLogin : ∀ entry ∈ history, ∀ anonymous,
    issuedBy entry = some anonymous → anonymous.userId = none →
      anonymous.token ≠ identity.token

/-- Only a login authenticates a session, and only until it is revoked. -/
theorem load_session_genuine
    {environment : Environment} {start : AuthState}
    (tokens : Function.Injective environment.sessionToken)
    (hashes : Function.Injective environment.hashSessionToken)
    (noSessions : start.sessions = .empty) (actions : List Action)
    (signedCookie : Option String) (now : Time) {identity : SessionIdentity}
    {userId : Nat}
    (loaded : (loadSession environment
      (execute environment start actions).2 signedCookie now).1 =
        some identity)
    (authenticated : identity.userId = some userId) :
    Genuine environment (execute environment start actions).1 identity
      userId now := by
  have sound := sound_execute tokens noSessions actions
  rcases (loads_loadSession environment
    (execute environment start actions).2 signedCookie now).identity identity
      loaded with ⟨notExpired, key, row, found, isRow⟩
  rcases sound.rows key row found with
    ⟨before, entry, after, issued, isHistory, isIssued, isRow', kept⟩
  rw [isRow] at isRow'
  simp only [IsRowOf, AuthSessionRow.mk.injEq] at isRow'
  rcases isRow' with ⟨sameHash, sameUser, sameExpiry⟩
  have sameToken := hashes sameHash
  have ofUser : issued.userId = some userId := by
    rw [← sameUser, authenticated]
  have isMember : entry ∈ (execute environment start actions).1 := by
    rw [isHistory]
    exact List.mem_append_right _ List.mem_cons_self
  constructor
  · refine ⟨before, entry, after, issued, isHistory,
      sound.logins entry isMember issued userId isIssued ofUser, isIssued,
      sameToken.symm, ?_, ?_⟩
    · rw [← sameExpiry]
      exact notExpired
    · intro later member
      have keeps := kept later member
      rw [isRow] at keeps
      constructor
      · intro logsOut
        exact keeps.notLoggedOut _ logsOut rfl
      · intro changes
        exact keeps.notChanged userId changes authenticated
  · intro other inHistory anonymous isAnonymous noUser sameToken'
    have distinct := sound.distinct
    rw [isHistory] at distinct inHistory
    rw [List.pairwise_append, List.pairwise_cons] at distinct
    rcases distinct with ⟨_, ⟨fromEntry, _⟩, toEntry⟩
    rcases List.mem_append.mp inHistory with inBefore | inRest
    · exact toEntry other inBefore entry List.mem_cons_self anonymous issued
        isAnonymous isIssued (sameToken'.trans sameToken)
    · rcases List.mem_cons.mp inRest with rfl | inAfter
      · rw [isAnonymous] at isIssued
        cases isIssued
        rw [noUser] at ofUser
        cases ofUser
      · exact fromEntry other inAfter issued anonymous isIssued isAnonymous
          (sameToken.symm.trans sameToken'.symm)

/-- Tokens by number, which are their own hashes. -/
def plainEnvironment : Environment where
  sessionToken number := String.ofList (List.replicate number 'a')
  hashSessionToken token := token
  dumps token := token
  loads cookie := some cookie
  hashPassword _ password := password
  verifyPassword hash password := hash == password
  needsRehash _ := false

/-- A visitor logs in with the initial password. -/
def firstLogin : List Action :=
  [⟨.ensureInitialUser "admin" "secret" "", {}, {}⟩,
    ⟨.createSession, {}, {}⟩, ⟨.createSession, {}, {}⟩,
    ⟨.login "a" "admin" "secret" "", {}, {}⟩]

theorem load_session_genuine_firstLogin :
    ∃ identity, (loadSession plainEnvironment
        (execute plainEnvironment {} firstLogin).2 (some "aa") 60).1 =
          some identity ∧
      identity.userId = some 1 ∧
      Genuine plainEnvironment (execute plainEnvironment {} firstLogin).1
        identity 1 60 := by
  have tokens : Function.Injective plainEnvironment.sessionToken := by
    intro first second same
    have lengths := congrArg String.length same
    simpa [plainEnvironment] using lengths
  have loaded : ∃ identity, (loadSession plainEnvironment
      (execute plainEnvironment {} firstLogin).2 (some "aa") 60).1 =
        some identity ∧ identity.userId = some 1 := by
    exact ⟨_, rfl, rfl⟩
  rcases loaded with ⟨identity, isLoaded, ofUser⟩
  exact ⟨identity, isLoaded, ofUser,
    load_session_genuine tokens (fun _ _ same => same) rfl firstLogin
      (some "aa") 60 isLoaded ofUser⟩

end Sluicery.Web.Auth
