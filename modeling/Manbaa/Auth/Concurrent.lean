import Manbaa.Auth.Families
import Manbaa.Lib.Sessions

/-!
# Refreshes and mass revocations beside each other

The calls, one statement at a time.  A statement reads what has been committed; what a
transaction writes shows when it commits, and it holds the locks of the rows that it has
updated until then.  A bulk update selects its rows first and waits for the locks of
those; a row that is inserted in between is not among them.

The lock of the row of a user is left out: only another reset of its password waits for
it.
-/

namespace Manbaa.Auth

open Manbaa.Lib Manbaa.Lib.Effect

/-! ## Calls and their statements -/

/-- A refresh of a token that has been verified. -/
structure Refreshing where
  now : Nat
  rawToken : RawToken
  payload : RefreshPayload
  deriving DecidableEq

/-- What a bulk update selects. -/
inductive Selection where
  | ofFamily (familyId : Uuid)
  | ofUser (userId : Uuid)
  | ofHash (tokenHash : Digest)
  deriving DecidableEq

/-- The token is selected. -/
def Selection.selects : Selection → RefreshToken → Bool
  | .ofFamily familyId, token => token.familyId == familyId
  | .ofUser userId, token => token.userId == userId
  | .ofHash tokenHash, token => token.tokenHash == tokenHash

/-- How a call goes on after its bulk update. -/
inductive Sequel where
  | returns
  | setsPassword (passwordHash : String)
  | throwsReuse
  deriving DecidableEq

/-- A bulk update, with the tokens that there were when its call started. -/
structure Revoking where
  now : Nat
  selection : Selection
  known : List RefreshToken
  sequel : Sequel
  deriving DecidableEq

/-- How a call has ended.  A refresh has exchanged a token; a mass revocation has
revoked the rows that it saw. -/
inductive Outcome where
  | exchanged (parent : Uuid) (pair : Refreshed)
  | revokedAll (userId : Uuid) (known : List RefreshToken) (seen : List Uuid)
  | returned
  | threw (exception : Exception)
  deriving DecidableEq

/-- The next statement of a call, with what the call has read by then. -/
inductive AuthStage where
  | login (now : Nat) (dto : Credentials) (client : ClientMeta)
  | findToken (call : Refreshing)
  | findUser (call : Refreshing) (token : RefreshToken)
  | issue (call : Refreshing) (token : RefreshToken) (user : User)
  | saveToken (call : Refreshing) (token issued : RefreshToken) (pair : Refreshed)
  | commitExchange (call : Refreshing) (token issued : RefreshToken) (pair : Refreshed)
  | findReset (now : Nat) (secret password : String) (known : List RefreshToken)
  | selectTokens (call : Revoking)
  | lockTokens (call : Revoking) (seen : List Uuid)
  | commitRevoking (call : Revoking) (seen : List Uuid)
  | ended (outcome : Outcome)
  deriving DecidableEq

/-- The rows that a transaction has locked. -/
def AuthStage.locks : AuthStage → List Uuid
  | .commitExchange _ token _ _ => [token.id]
  | .commitRevoking _ seen => seen
  | _ => []

/-- The row that a transaction has inserted. -/
def AuthStage.pending : AuthStage → Option Uuid
  | .saveToken _ _ issued _ | .commitExchange _ _ issued _ => some issued.id
  | _ => none

/-- The token that a refresh has exchanged. -/
def AuthStage.parent : AuthStage → Option Uuid
  | .ended (.exchanged parent _) => some parent
  | _ => none

/-- No other transaction holds the lock of the row. -/
def free (others : List AuthStage) (id : Uuid) : Bool :=
  others.all fun other => !other.locks.contains id

/-- The identifiers that a statement draws, if it draws any. -/
structure Draw where
  tokenId : Uuid
  familyId : Uuid
  deriving DecidableEq

/-- The identifier of a token is new, to the rows and to those not yet committed. -/
def Draw.newToken (draw : Draw) (db : AuthDb) (others : List AuthStage) : Bool :=
  db.tokens.all (·.id != draw.tokenId) && others.all (·.pending != some draw.tokenId)

/-- The family is new. -/
def Draw.newFamily (draw : Draw) (db : AuthDb) : Bool :=
  db.tokens.all (·.familyId != draw.familyId)

/-- The tables once an exchange commits. -/
def AuthDb.exchange (db : AuthDb) (now : Nat) (token issued : RefreshToken) : AuthDb :=
  (db.token? token.id).elim db fun row => (db.writeToken issued).writeToken
    { row.revoke now with replacedByTokenId := some issued.id }

/-- The tables once a bulk update commits, with the password that is set before it. -/
def Revoking.commit (call : Revoking) (db : AuthDb) (seen : List Uuid) : AuthDb :=
  match call.sequel, call.selection with
  | .throwsReuse, _ => db
  | .setsPassword passwordHash, .ofUser userId =>
      ((db.user? userId).elim db fun user =>
        db.writeUser (user.withPassword passwordHash)).revokeWhere call.now
          fun token => seen.contains token.id
  | _, _ => db.revokeWhere call.now fun token => seen.contains token.id

/-- How a call ends whose bulk update commits. -/
def Revoking.outcome (call : Revoking) (seen : List Uuid) : Outcome :=
  match call.sequel, call.selection with
  | .throwsReuse, _ => .threw (.unauthorized "Refresh token reuse detected")
  | _, .ofUser userId => .revokedAll userId call.known seen
  | _, _ => .returned

/-- The next statement of a call, unless a lock blocks it or what it draws is not
new. -/
def AuthStage.next (settings : Settings) (db : AuthDb) (others : List AuthStage)
    (draw : Draw) : AuthStage → Option (AuthDb × AuthStage)
  | .login now dto client =>
      if draw.newToken db others && draw.newFamily db then
        some ((Auth.login settings now draw.familyId draw.tokenId dto client db).2, .ended .returned)
      else none
  | .findToken call =>
      match presented call.now call.rawToken call.payload db with
      | none => some (db, .ended (.threw (.unauthorized "Invalid refresh token")))
      | some token =>
          if token.revoked then
            some (db, .selectTokens ⟨call.now, .ofFamily token.familyId, [], .throwsReuse⟩)
          else some (db, .findUser call token)
  | .findUser call token =>
      match activeUser call.payload.sub db with
      | none =>
          some (db, .ended (.threw (.error "Could not find any entity of type \"User\"")))
      | some user => some (db, .issue call token user)
  | .issue call token user =>
      if draw.newToken db others then
        some (db, .saveToken call token
          (refreshRow settings call.now draw.tokenId user.id token.familyId)
          (refreshed settings call.now draw.tokenId token user))
      else none
  | .saveToken call token issued pair =>
      if free others token.id then some (db, .commitExchange call token issued pair) else none
  | .commitExchange call token issued pair =>
      some (db.exchange call.now token issued, .ended (.exchanged token.id pair))
  | .findReset now secret password known =>
      match resettable now secret db with
      | none => some (db, .ended (.threw (.unauthorized "Invalid or expired reset token")))
      | some user =>
          some (db, .selectTokens
            ⟨now, .ofUser user.id, known, .setsPassword (settings.hashPassword password)⟩)
  | .selectTokens call =>
      some (db, .lockTokens call ((db.tokens.filter call.selection.selects).map RefreshToken.id))
  | .lockTokens call seen =>
      if seen.all (free others) then some (db, .commitRevoking call seen) else none
  | .commitRevoking call seen => some (call.commit db seen, .ended (call.outcome seen))
  | .ended _ => none

/-- A call. -/
inductive AuthRequest where
  | login (now : Nat) (dto : Credentials) (client : ClientMeta)
  | refresh (now : Nat) (rawToken : RawToken)
  | logout (now : Nat) (rawToken : RawToken)
  | logoutAll (now : Nat) (userId : Uuid)
  | resetPassword (now : Nat) (token password : String)
  deriving DecidableEq

/-- The first statement of a refresh, if its token can be verified. -/
def refreshStage (now : Nat) (rawToken : RawToken) : AuthStage :=
  match verifyAsync now rawToken with
  | some payload =>
      if payload.type = "refresh" then .findToken ⟨now, rawToken, payload⟩
      else .ended (.threw (.unauthorized "Invalid refresh token"))
  | none => .ended (.threw (.unauthorized "Invalid refresh token"))

/-- The first statement of a call. -/
def AuthRequest.stage (db : AuthDb) : AuthRequest → AuthStage
  | .login now dto client => .login now dto client
  | .refresh now rawToken => refreshStage now rawToken
  | .logout now rawToken => .selectTokens ⟨now, .ofHash (sha256 rawToken), db.tokens, .returns⟩
  | .logoutAll now userId => .selectTokens ⟨now, .ofUser userId, db.tokens, .returns⟩
  | .resetPassword now token password => .findReset now token password db.tokens

/-- The calls beside each other. -/
def authSessions (settings : Settings) : Sessions AuthDb AuthStage AuthRequest Draw where
  start := fun db request => (db, some (request.stage db))
  advance := fun db others stage draw => stage.next settings db others draw

/-! ## One call -/

section
variable {settings : Settings} {db : AuthDb} {draw : Draw} {now : Nat} {rawToken : RawToken}

/-- A call goes on to its next statement. -/
theorem alone_next {stage : AuthStage} {next : AuthDb × AuthStage} {steps : Nat}
    (nextEq : stage.next settings db [] draw = some next) :
    (authSessions settings).alone draw (steps + 1) (db, stage) =
      (authSessions settings).alone draw steps next :=
  Sessions.alone_succ _ draw nextEq

/-- A call that is over stays so. -/
theorem alone_over (steps : Nat) (outcome : Outcome) :
    (authSessions settings).alone draw steps (db, .ended outcome) = (db, .ended outcome) := by
  cases steps with
  | zero => rfl
  | succ steps => rfl

/-- The rows that a bulk update has seen are those that it selects. -/
theorem revokeWhere_seen (keyed : Table.Keyed RefreshToken.id db.tokens)
    (selected : RefreshToken → Bool) :
    (db.revokeWhere now fun token =>
        ((db.tokens.filter selected).map RefreshToken.id).contains token.id) =
      db.revokeWhere now selected := by
  have same : ∀ token ∈ db.tokens,
      ((db.tokens.filter selected).map RefreshToken.id).contains token.id = selected token := by
    intro token tokenMem
    rw [Bool.eq_iff_iff, List.contains_iff_mem, List.mem_map]
    constructor
    · rintro ⟨other, otherMem, idEq⟩
      obtain ⟨otherMem, chosen⟩ := List.mem_filter.mp otherMem
      rwa [← keyed.eq otherMem tokenMem idEq]
    · intro chosen
      exact ⟨token, List.mem_filter.mpr ⟨tokenMem, chosen⟩, rfl⟩
  have mapped : (db.tokens.map fun token =>
      if ((db.tokens.filter selected).map RefreshToken.id).contains token.id then token.revoke now
      else token) = db.tokens.map fun token => if selected token then token.revoke now else token :=
    List.map_congr_left fun token tokenMem => by rw [same token tokenMem]
  rw [AuthDb.revokeWhere, mapped]
  rfl

/-- Without other calls no lock is waited for. -/
theorem next_lockTokens (call : Revoking) (seen : List Uuid) :
    (AuthStage.lockTokens call seen).next settings db [] draw =
      some (db, .commitRevoking call seen) :=
  if_pos (by simp [free])

/-- Without other calls, a mass revocation does what `logoutAll` does. -/
theorem alone_logoutAll (keyed : Table.Keyed RefreshToken.id db.tokens) (userId : Uuid) :
    ((authSessions settings).alone draw 3
        (db, (AuthRequest.logoutAll now userId).stage db)).1 = (logoutAll now userId db).2 := by
  rw [AuthRequest.stage, alone_next rfl, alone_next (next_lockTokens _ _), alone_next rfl,
    alone_over]
  exact revokeWhere_seen keyed _

/-- Nor does a logout do anything else than `logout`. -/
theorem alone_logout (keyed : Table.Keyed RefreshToken.id db.tokens) :
    ((authSessions settings).alone draw 3 (db, (AuthRequest.logout now rawToken).stage db)).1 =
      (logout now rawToken db).2 := by
  rw [AuthRequest.stage, alone_next rfl, alone_next (next_lockTokens _ _), alone_next rfl,
    alone_over]
  exact revokeWhere_seen keyed _

/-- A mass revocation of a reset sets the password first. -/
theorem alone_resetPassword (keyed : Table.Keyed RefreshToken.id db.tokens)
    (usersKeyed : Table.Keyed User.id db.users) {secret password : String} :
    ((authSessions settings).alone draw 4
        (db, (AuthRequest.resetPassword now secret password).stage db)).1 =
      (resetPassword settings now secret password db).2 := by
  rw [AuthRequest.stage]
  cases found : resettable now secret db with
  | none =>
      have nextEq : (AuthStage.findReset now secret password db.tokens).next settings db [] draw =
          some (db, .ended (.threw (.unauthorized "Invalid or expired reset token"))) := by
        simp only [AuthStage.next, found]
      rw [alone_next nextEq, alone_over]
      simp [resetPassword, bind, reading, found, orThrow]
  | some user =>
      have nextEq : (AuthStage.findReset now secret password db.tokens).next settings db [] draw =
          some (db, .selectTokens ⟨now, .ofUser user.id, db.tokens,
            .setsPassword (settings.hashPassword password)⟩) := by
        simp only [AuthStage.next, found]
      rw [alone_next nextEq, alone_next rfl, alone_next (next_lockTokens _ _), alone_next rfl,
        alone_over]
      have userMem : user ∈ db.users :=
        List.mem_of_find?_eq_some (Option.filter_eq_some_iff.mp found).1
      have userEq : db.user? user.id = some user := usersKeyed.get?_of_mem userMem
      have resetEq : (resetPassword settings now secret password db).2 =
          (db.writeUser (user.withPassword (settings.hashPassword password))).revokeWhere now
            fun token => token.userId == user.id := by
        simp [resetPassword, bind, reading, found, orThrow, transaction, writing]
      have keyedThen : Table.Keyed RefreshToken.id
          (db.writeUser (user.withPassword (settings.hashPassword password))).tokens := keyed
      rw [resetEq, ← revokeWhere_seen keyedThen]
      simp only [Revoking.commit, userEq, Option.elim_some]
      rfl

/-- A refresh for which something is not in order changes nothing. -/
theorem refresh_refused {tokenId : Uuid}
    (refused : ∀ payload token user, verifyAsync now rawToken = some payload →
      payload.type = "refresh" → presented now rawToken payload db = some token →
      token.revoked = false → activeUser payload.sub db ≠ some user) :
    (refresh settings now tokenId rawToken db).2 = db := by
  rcases refreshEq : refresh settings now tokenId rawToken db with ⟨thrown | pair, after⟩
  · exact refresh_error refreshEq
  · obtain ⟨payload, token, user, verified, typed, found, fresh, active, _⟩ :=
      refresh_ok refreshEq
    exact absurd active (refused payload token user verified typed found fresh)

theorem next_issue (new : draw.newToken db [] = true) (call : Refreshing) (token : RefreshToken)
    (user : User) :
    (AuthStage.issue call token user).next settings db [] draw = some (db, .saveToken call token
      (refreshRow settings call.now draw.tokenId user.id token.familyId)
      (refreshed settings call.now draw.tokenId token user)) :=
  if_pos new

theorem next_saveToken (call : Refreshing) (token issued : RefreshToken) (pair : Refreshed) :
    (AuthStage.saveToken call token issued pair).next settings db [] draw =
      some (db, .commitExchange call token issued pair) := by
  simp [AuthStage.next, free]

/-- The part of a refresh that follows when its token is in order. -/
theorem alone_findUser {payload : RefreshPayload} {token : RefreshToken}
    (keyed : Table.Keyed RefreshToken.id db.tokens) (new : draw.newToken db [] = true)
    (verified : verifyAsync now rawToken = some payload) (typed : payload.type = "refresh")
    (found : presented now rawToken payload db = some token) (fresh : token.revoked = false) :
    ((authSessions settings).alone draw 4
        (db, .findUser ⟨now, rawToken, payload⟩ token)).1 =
      (refresh settings now draw.tokenId rawToken db).2 := by
  cases active : activeUser payload.sub db with
  | none =>
      have nextEq : (AuthStage.findUser ⟨now, rawToken, payload⟩ token).next settings db [] draw =
          some (db, .ended (.threw (.error "Could not find any entity of type \"User\""))) := by
        simp only [AuthStage.next, active]
      rw [alone_next nextEq, alone_over, refresh_refused]
      intro other same user verifiedOther _ _ _ activeOther
      cases verified.symm.trans verifiedOther
      cases active.symm.trans activeOther
  | some user =>
      have nextEq : (AuthStage.findUser ⟨now, rawToken, payload⟩ token).next settings db [] draw =
          some (db, .issue ⟨now, rawToken, payload⟩ token user) := by
        simp only [AuthStage.next, active]
      rw [alone_next nextEq, alone_next (next_issue new _ _ _), alone_next (next_saveToken _ _ _ _),
        alone_next rfl, alone_over, refresh_returns verified typed found fresh active]
      have tokenEq : db.token? token.id = some token :=
        keyed.get?_of_mem (mem_of_presented found).1
      rw [AuthDb.exchange, tokenEq]
      rfl

/-- Without other calls, a refresh does what `refresh` does. -/
theorem alone_refresh (keyed : Table.Keyed RefreshToken.id db.tokens)
    (new : draw.newToken db [] = true) :
    ((authSessions settings).alone draw 5 (db, refreshStage now rawToken)).1 =
      (refresh settings now draw.tokenId rawToken db).2 := by
  rw [refreshStage]
  cases verified : verifyAsync now rawToken with
  | none =>
      rw [refresh_refused (by simp [verified]), alone_over]
  | some payload =>
      by_cases typed : payload.type = "refresh"
      · simp only [if_pos typed]
        cases found : presented now rawToken payload db with
        | none =>
            have nextEq : (AuthStage.findToken ⟨now, rawToken, payload⟩).next settings db [] draw =
                some (db, .ended (.threw (.unauthorized "Invalid refresh token"))) := by
              simp only [AuthStage.next, found]
            rw [alone_next nextEq, alone_over, refresh_refused]
            intro other token user verifiedOther _ foundOther
            cases verified.symm.trans verifiedOther
            cases found.symm.trans foundOther
        | some token =>
            by_cases revoked : token.revoked = true
            · have nextEq : (AuthStage.findToken ⟨now, rawToken, payload⟩).next settings db []
                  draw = some (db, .selectTokens
                    ⟨now, .ofFamily token.familyId, [], .throwsReuse⟩) := by
                simp only [AuthStage.next, found, if_pos revoked]
              rw [alone_next nextEq, alone_next rfl, alone_next (next_lockTokens _ _),
                alone_next rfl, alone_over, refresh_refused]
              · rfl
              · intro other same user verifiedOther _ foundOther fresh
                cases verified.symm.trans verifiedOther
                cases found.symm.trans foundOther
                rw [revoked] at fresh
                cases fresh
            · have nextEq : (AuthStage.findToken ⟨now, rawToken, payload⟩).next settings db []
                  draw = some (db, .findUser ⟨now, rawToken, payload⟩ token) := by
                simp only [AuthStage.next, found, if_neg revoked]
              rw [alone_next nextEq]
              exact alone_findUser keyed new verified typed found (by simpa using revoked)
      · simp only [if_neg typed]
        rw [alone_over, refresh_refused]
        intro other token user verifiedOther typedOther
        cases verified.symm.trans verifiedOther
        exact absurd typedOther typed

end

/-! ## The races -/

/-- The rows that a mass revocation has selected. -/
def AuthStage.seen : AuthStage → List Uuid
  | .lockTokens call seen | .commitRevoking call seen =>
      match call.selection with
      | .ofUser _ => seen
      | _ => []
  | .ended (.revokedAll _ _ seen) => seen
  | _ => []

/-- The statement does not commit an exchange of a token that another refresh has
exchanged, or that a mass revocation has selected, since it was read. -/
def AuthStage.NoRace (db : AuthDb) (others : List AuthStage) (stage : AuthStage) (_ : Draw) :
    Prop :=
  match stage with
  | .commitExchange _ token _ _ =>
      (∀ row ∈ db.tokens, row.id = token.id → row.replacedByTokenId = none) ∧
        ∀ other ∈ others, token.id ∉ other.seen
  | _ => True

instance (db : AuthDb) (others : List AuthStage) (draw : Draw) :
    (stage : AuthStage) → Decidable (stage.NoRace db others draw)
  | .commitExchange _ token _ _ =>
      inferInstanceAs (Decidable ((∀ row ∈ db.tokens, row.id = token.id →
        row.replacedByTokenId = none) ∧ ∀ other ∈ others, token.id ∉ other.seen))
  | .login _ _ _ | .findToken _ | .findUser _ _ | .issue _ _ _ | .saveToken _ _ _ _
  | .findReset _ _ _ _ | .selectTokens _ | .lockTokens _ _ | .commitRevoking _ _
  | .ended _ => .isTrue trivial

/-- The family had a token of the user when the call started. -/
def Covers (userId : Uuid) (known : List RefreshToken) (familyId : Uuid) : Prop :=
  ∃ token ∈ known, token.userId = userId ∧ token.familyId = familyId

/-! ## What the tables keep -/

variable {settings : Settings} {db after : AuthDb} {token row issued : RefreshToken}
  {stage next : AuthStage} {others : List AuthStage} {draw : Draw}

/-- Rows have their own identifiers and are those of issued tokens, and a family is one
user's. -/
structure Tokens (db : AuthDb) : Prop where
  keyed : Table.Keyed RefreshToken.id db.tokens
  signed : ∀ token ∈ db.tokens, Signed token
  single : ∀ token ∈ db.tokens, ∀ other ∈ db.tokens, token.familyId = other.familyId →
    token.userId = other.userId

/-- The second row is what has become of the first one. -/
structure Becomes (row later : RefreshToken) : Prop where
  id : later.id = row.id
  userId : later.userId = row.userId
  familyId : later.familyId = row.familyId
  tokenHash : later.tokenHash = row.tokenHash
  expiresAt : later.expiresAt = row.expiresAt
  revoked : row.revoked = true → later.revoked = true
  replaced : row.replacedByTokenId.isSome = true → later.replacedByTokenId.isSome = true

theorem Becomes.refl (row : RefreshToken) : Becomes row row :=
  ⟨rfl, rfl, rfl, rfl, rfl, fun revoked => revoked, fun replaced => replaced⟩

theorem becomes_revoke (row : RefreshToken) (now : Nat) : Becomes row (row.revoke now) :=
  ⟨rfl, rfl, rfl, rfl, rfl, fun _ => rfl, fun replaced => replaced⟩

theorem Becomes.signed (becomes : Becomes row token) (signed : Signed row) : Signed token := by
  obtain ⟨payload, hashEq, subEq, idEq, typed, expiresEq⟩ := signed
  exact ⟨payload, becomes.tokenHash.trans hashEq, subEq.trans becomes.userId.symm,
    idEq.trans becomes.id.symm, typed, becomes.expiresAt.trans expiresEq⟩

/-- The rows of some tables become those of others, and some are new. -/
structure Evolves (db after : AuthDb) (added : List RefreshToken) : Prop where
  kept : ∀ row ∈ db.tokens, ∃ later ∈ after.tokens, Becomes row later
  old : ∀ later ∈ after.tokens, later ∈ added ∨ ∃ row ∈ db.tokens, Becomes row later

theorem Evolves.of_eq (tokensEq : after.tokens = db.tokens) : Evolves db after [] where
  kept := by
    intro row rowMem
    exact ⟨row, tokensEq ▸ rowMem, Becomes.refl row⟩
  old := by
    intro row rowMem
    exact Or.inr ⟨row, tokensEq ▸ rowMem, Becomes.refl row⟩

/-- The tables hold a row of the token. -/
def Has (db : AuthDb) (token : RefreshToken) : Prop :=
  ∃ row ∈ db.tokens, row.id = token.id ∧ row.userId = token.userId ∧
    row.familyId = token.familyId

theorem Has.evolves {added : List RefreshToken} (has : Has db token)
    (evolves : Evolves db after added) : Has after token := by
  obtain ⟨row, rowMem, idEq, userEq, familyEq⟩ := has
  obtain ⟨later, laterMem, becomes⟩ := evolves.kept row rowMem
  exact ⟨later, laterMem, becomes.id.trans idEq, becomes.userId.trans userEq,
    becomes.familyId.trans familyEq⟩

/-! ## What the tables owe a call -/

/-- The rows that a mass revocation has to reach: those of the families that it knew. -/
structure Reaches (db : AuthDb) (userId : Uuid) (known : List RefreshToken)
    (seen : List Uuid) : Prop where
  stored : ∀ token ∈ known, Has db token
  held : ∀ id ∈ seen, ∃ row ∈ db.tokens, row.id = id
  reached : ∀ row ∈ db.tokens, Covers userId known row.familyId → row.id ∈ seen

/-- What the tables owe a call at its next statement. -/
def AuthStage.Owns (db : AuthDb) : AuthStage → Prop
  | .findToken call => verifyAsync call.now call.rawToken = some call.payload
  | .findUser call token => Has db token ∧ call.payload.sub = token.userId
  | .issue _ token user => Has db token ∧ user.id = token.userId
  | .saveToken _ token issued _ | .commitExchange _ token issued _ =>
      Has db token ∧ Signed issued ∧ issued.userId = token.userId ∧
        issued.familyId = token.familyId ∧ ∀ row ∈ db.tokens, row.id ≠ issued.id
  | .findReset _ _ _ known => ∀ token ∈ known, Has db token
  | .selectTokens call => ∀ token ∈ call.known, Has db token
  | .lockTokens call seen | .commitRevoking call seen =>
      ∀ userId, call.selection = .ofUser userId → Reaches db userId call.known seen
  | .ended (.exchanged parent _) =>
      ∃ row ∈ db.tokens, row.id = parent ∧ row.replacedByTokenId.isSome = true
  | .ended (.revokedAll userId known seen) =>
      Reaches db userId known seen ∧ ∀ row ∈ db.tokens, row.id ∈ seen → row.revoked = true
  | _ => True

/-- The call is a mass revocation that has selected rows and knew the family. -/
def AuthStage.Misses (familyId : Uuid) : AuthStage → Prop
  | .lockTokens call _ | .commitRevoking call _ =>
      ∃ userId, call.selection = .ofUser userId ∧ Covers userId call.known familyId
  | .ended (.revokedAll userId known _) => Covers userId known familyId
  | _ => False

theorem Reaches.evolves {userId : Uuid} {known : List RefreshToken} {seen : List Uuid}
    {added : List RefreshToken} (reaches : Reaches db userId known seen)
    (evolves : Evolves db after added)
    (uncovered : ∀ new ∈ added, ¬ Covers userId known new.familyId) :
    Reaches after userId known seen where
  stored := fun token tokenMem => (reaches.stored token tokenMem).evolves evolves
  held := by
    intro id idMem
    obtain ⟨row, rowMem, rfl⟩ := reaches.held id idMem
    obtain ⟨later, laterMem, becomes⟩ := evolves.kept row rowMem
    exact ⟨later, laterMem, becomes.id⟩
  reached := by
    intro later laterMem covers
    rcases evolves.old later laterMem with new | ⟨row, rowMem, becomes⟩
    · exact absurd covers (uncovered later new)
    · rw [becomes.familyId] at covers
      rw [becomes.id]
      exact reaches.reached row rowMem covers

/-- A call is owed what it was owed, while no row is added that it has inserted or
misses. -/
theorem Owns.evolves {added : List RefreshToken} (owns : stage.Owns db)
    (evolves : Evolves db after added)
    (fresh : ∀ new ∈ added, ∀ row ∈ db.tokens, row.id ≠ new.id)
    (apart : ∀ new ∈ added, stage.pending ≠ some new.id ∧ ¬ stage.Misses new.familyId) :
    stage.Owns after := by
  cases stage with
  | login now dto client => trivial
  | findToken call => exact owns
  | findUser call token => exact ⟨owns.1.evolves evolves, owns.2⟩
  | issue call token user => exact ⟨owns.1.evolves evolves, owns.2⟩
  | saveToken call token issued pair | commitExchange call token issued pair =>
      obtain ⟨has, signed, userEq, familyEq, new⟩ := owns
      refine ⟨has.evolves evolves, signed, userEq, familyEq, ?_⟩
      intro later laterMem same
      rcases evolves.old later laterMem with addedMem | ⟨row, rowMem, becomes⟩
      · exact (apart later addedMem).1 (congrArg some same.symm)
      · exact new row rowMem (becomes.id.symm.trans same)
  | findReset now secret password known =>
      exact fun token tokenMem => (owns token tokenMem).evolves evolves
  | selectTokens call => exact fun token tokenMem => (owns token tokenMem).evolves evolves
  | lockTokens call seen | commitRevoking call seen =>
      intro userId selected
      apply (owns userId selected).evolves evolves
      intro new newMem covers
      exact (apart new newMem).2 ⟨userId, selected, covers⟩
  | ended outcome =>
      cases outcome with
      | exchanged parent pair =>
          obtain ⟨row, rowMem, idEq, replaced⟩ := owns
          obtain ⟨later, laterMem, becomes⟩ := evolves.kept row rowMem
          exact ⟨later, laterMem, becomes.id.trans idEq, becomes.replaced replaced⟩
      | revokedAll userId known seen =>
          refine ⟨owns.1.evolves evolves fun new newMem => (apart new newMem).2, ?_⟩
          intro later laterMem seenMem
          rcases evolves.old later laterMem with addedMem | ⟨row, rowMem, becomes⟩
          · obtain ⟨row, rowMem, idEq⟩ := owns.1.held later.id seenMem
            exact absurd idEq (fresh later addedMem row rowMem)
          · rw [becomes.id] at seenMem
            exact becomes.revoked (owns.2 row rowMem seenMem)
      | returned => trivial
      | threw exception => trivial

/-! ## What the writes do -/

/-- A row with a new identifier is added. -/
theorem evolves_save_new (fresh : ∀ row ∈ db.tokens, row.id ≠ issued.id)
    (tokensEq : after.tokens = Table.save RefreshToken.id db.tokens issued) :
    Evolves db after [issued] where
  kept := by
    intro row rowMem
    refine ⟨row, ?_, Becomes.refl row⟩
    rw [tokensEq]
    exact Table.mem_save_iff.mpr (Or.inr ⟨rowMem, fresh row rowMem⟩)
  old := by
    intro later laterMem
    rw [tokensEq] at laterMem
    rcases Table.mem_save_iff.mp laterMem with rfl | ⟨oldMem, _⟩
    · exact Or.inl (List.mem_singleton_self _)
    · exact Or.inr ⟨later, oldMem, Becomes.refl later⟩

/-- What new rows have to be. -/
theorem Tokens.evolves {added : List RefreshToken} (tokens : Tokens db)
    (evolves : Evolves db after added) (keyed : Table.Keyed RefreshToken.id after.tokens)
    (signed : ∀ new ∈ added, Signed new)
    (single : ∀ new ∈ added, ∀ later ∈ after.tokens, later.familyId = new.familyId →
      later.userId = new.userId) :
    Tokens after where
  keyed := keyed
  signed := by
    intro later laterMem
    rcases evolves.old later laterMem with new | ⟨row, rowMem, becomes⟩
    · exact signed later new
    · exact becomes.signed (tokens.signed row rowMem)
  single := by
    intro first firstMem second secondMem same
    rcases evolves.old first firstMem with new | ⟨row, rowMem, becomes⟩
    · exact (single first new second secondMem same.symm).symm
    · rcases evolves.old second secondMem with new | ⟨other, otherMem, othersBecomes⟩
      · exact single second new first firstMem same
      · rw [becomes.userId, othersBecomes.userId]
        apply tokens.single row rowMem other otherMem
        rw [← becomes.familyId, ← othersBecomes.familyId, same]

/-- The tokens are those of other tables, or one more was issued. -/
def Issues (settings : Settings) (now : Nat) (familyId tokenId : Uuid) (db after : AuthDb) :
    Prop :=
  after.tokens = db.tokens ∨ ∃ user : User, after.tokens =
    Table.save RefreshToken.id db.tokens (refreshRow settings now tokenId user.id familyId)

/-- A login issues at most one token. -/
theorem login_issues {now : Nat} {familyId tokenId : Uuid} {dto : Credentials}
    {client : ClientMeta} :
    Issues settings now familyId tokenId db
      (login settings now familyId tokenId dto client db).2 := by
  have unchanged : Issues settings now familyId tokenId db db := Or.inl rfl
  apply readOnly_reading.after_bind unchanged
  intro found _
  apply after_bind
  · intro thrown middle recordEq
    cases recordEq
  · intro _ middle recordEq
    have tokensEq : middle.tokens = db.tokens := by rw [← writing_eq_ok_iff.mp recordEq]
    have recorded : Issues settings now familyId tokenId db middle := Or.inl tokensEq
    apply readOnly_orThrow.after_bind recorded
    intro user _
    refine Or.inr ⟨user, ?_⟩
    rw [← tokensEq]
    rfl

theorem evolves_revokeWhere {now : Nat} {selected : RefreshToken → Bool}
    (tokensEq : after.tokens = (db.revokeWhere now selected).tokens) : Evolves db after [] where
  kept := by
    intro row rowMem
    rw [tokensEq]
    refine ⟨_, List.mem_map.mpr ⟨row, rowMem, rfl⟩, ?_⟩
    split
    · exact becomes_revoke row now
    · exact Becomes.refl row
  old := by
    intro later laterMem
    rw [tokensEq] at laterMem
    obtain ⟨row, rowMem, laterEq⟩ := List.mem_map.mp laterMem
    refine Or.inr ⟨row, rowMem, ?_⟩
    split at laterEq
    · exact laterEq ▸ becomes_revoke row now
    · exact laterEq ▸ Becomes.refl row

theorem keyed_revokeWhere (keyed : Table.Keyed RefreshToken.id db.tokens) (now : Nat)
    (selected : RefreshToken → Bool) :
    Table.Keyed RefreshToken.id (db.revokeWhere now selected).tokens := by
  apply Table.keyed_map _ keyed
  intro row
  split
  · rfl
  · rfl

/-- A bulk update that commits revokes the rows that it has seen, unless it is rolled
back. -/
theorem commit_tokens (call : Revoking) (seen : List Uuid) :
    ((call.commit db seen).tokens = db.tokens ∧
      ∃ exception, call.outcome seen = .threw exception) ∨
    (call.commit db seen).tokens =
      (db.revokeWhere call.now fun token => seen.contains token.id).tokens := by
  obtain ⟨now, selection, known, sequel⟩ := call
  cases sequel with
  | throwsReuse => exact Or.inl ⟨rfl, _, rfl⟩
  | returns => exact Or.inr rfl
  | setsPassword passwordHash =>
      cases selection with
      | ofUser userId =>
          right
          simp only [Revoking.commit]
          cases db.user? userId with
          | none => rfl
          | some user => rfl
      | ofFamily familyId => exact Or.inr rfl
      | ofHash tokenHash => exact Or.inr rfl

/-- A mass revocation that has ended was one. -/
theorem outcome_revokedAll {call : Revoking} {seen rows : List Uuid} {userId : Uuid}
    {known : List RefreshToken} (outcomeEq : call.outcome seen = .revokedAll userId known rows) :
    call.selection = .ofUser userId ∧ known = call.known ∧ rows = seen := by
  obtain ⟨now, selection, held, sequel⟩ := call
  cases sequel <;> cases selection <;> cases outcomeEq
  · exact ⟨rfl, rfl, rfl⟩
  · exact ⟨rfl, rfl, rfl⟩

/-- What is left of an exchange that commits. -/
theorem exchange_evolves (now : Nat) (keyed : Table.Keyed RefreshToken.id db.tokens)
    (rowMem : row ∈ db.tokens) (idEq : row.id = token.id)
    (fresh : ∀ row ∈ db.tokens, row.id ≠ issued.id) :
    Evolves db (db.exchange now token issued) [issued] ∧
      Table.Keyed RefreshToken.id (db.exchange now token issued).tokens ∧
      ∃ later ∈ (db.exchange now token issued).tokens, later.id = token.id ∧
        later.replacedByTokenId.isSome = true := by
  have exchangeEq : db.exchange now token issued = (db.writeToken issued).writeToken
      { row.revoke now with replacedByTokenId := some issued.id } := by
    rw [AuthDb.exchange, AuthDb.token?, ← idEq, keyed.get?_of_mem rowMem]
    rfl
  have becomes : Becomes row { row.revoke now with replacedByTokenId := some issued.id } :=
    ⟨rfl, rfl, rfl, rfl, rfl, fun _ => rfl, fun _ => rfl⟩
  rw [exchangeEq]
  refine ⟨⟨?_, ?_⟩, Table.keyed_save (Table.keyed_save keyed), ?_⟩
  · intro other otherMem
    by_cases same : other.id = row.id
    · obtain rfl := keyed.eq otherMem rowMem same
      exact ⟨_, Table.mem_save_iff.mpr (Or.inl rfl), becomes⟩
    · have kept : other ∈ (db.writeToken issued).tokens :=
        Table.mem_save_iff.mpr (Or.inr ⟨otherMem, fresh other otherMem⟩)
      exact ⟨other, Table.mem_save_iff.mpr (Or.inr ⟨kept, same⟩), Becomes.refl other⟩
  · intro later laterMem
    rcases Table.mem_save_iff.mp laterMem with rfl | ⟨laterMem, _⟩
    · exact Or.inr ⟨row, rowMem, becomes⟩
    · rcases Table.mem_save_iff.mp laterMem with rfl | ⟨laterMem, _⟩
      · exact Or.inl (List.mem_singleton_self _)
      · exact Or.inr ⟨later, laterMem, Becomes.refl later⟩
  · exact ⟨_, Table.mem_save_iff.mpr (Or.inl rfl), idEq, rfl⟩

/-! ## What a step keeps -/

/-- What holds between statements under the condition. -/
structure Serial (db : AuthDb) (sessions : List AuthStage) : Prop where
  tokens : Tokens db
  owns : ∀ stage ∈ sessions, stage.Owns db
  pending : (sessions.filterMap AuthStage.pending).Nodup
  parents : (sessions.filterMap AuthStage.parent).Nodup

theorem Serial.perm {sessions : List AuthStage} (perm : sessions.Perm others)
    (serial : Serial db sessions) : Serial db others where
  tokens := serial.tokens
  owns := fun stage stageMem => serial.owns stage (perm.mem_iff.mpr stageMem)
  pending := (perm.filterMap _).nodup_iff.mp serial.pending
  parents := (perm.filterMap _).nodup_iff.mp serial.parents

/-- What identifiers a call leaves to the others. -/
theorem nodup_filterMap_cons {f : AuthStage → Option Uuid} :
    ((stage :: others).filterMap f).Nodup ↔
      (∀ id, f stage = some id → ∀ other ∈ others, f other ≠ some id) ∧
        (others.filterMap f).Nodup := by
  cases found : f stage with
  | none => simp [found]
  | some id =>
      rw [List.filterMap_cons, found]
      simp only [List.nodup_cons, List.mem_filterMap, not_exists, not_and, Option.some.injEq,
        forall_eq']

/-- A statement that writes no token leaves the others alone. -/
theorem Serial.pends (serial : Serial db (stage :: others)) (owns : next.Owns db)
    (pending : ∀ id, next.pending = some id → stage.pending = some id ∨
      ∀ other ∈ others, other.pending ≠ some id)
    (parent : next.parent = none) : Serial db (next :: others) := by
  have beside : ∀ other ∈ others, other.Owns db :=
    fun other otherMem => serial.owns other (List.mem_cons_of_mem _ otherMem)
  refine ⟨serial.tokens, List.forall_mem_cons.mpr ⟨owns, beside⟩, ?_, ?_⟩
  · obtain ⟨apart, rest⟩ := nodup_filterMap_cons.mp serial.pending
    refine nodup_filterMap_cons.mpr ⟨?_, rest⟩
    intro id nextEq
    rcases pending id nextEq with before | new
    · exact apart id before
    · exact new
  · refine nodup_filterMap_cons.mpr ⟨?_, (nodup_filterMap_cons.mp serial.parents).2⟩
    intro id nextEq
    rw [parent] at nextEq
    cases nextEq

/-- Nor does one that only reads. -/
theorem Serial.quiet (serial : Serial db (stage :: others)) (owns : next.Owns db)
    (pending : next.pending = none) (parent : next.parent = none) :
    Serial db (next :: others) := by
  apply serial.pends owns _ parent
  intro id nextEq
  rw [pending] at nextEq
  cases nextEq

/-- A statement that writes tokens keeps what the others are owed. -/
theorem Serial.writes {added : List RefreshToken} (serial : Serial db (stage :: others))
    (evolves : Evolves db after added) (tokens : Tokens after) (owns : next.Owns after)
    (pending : next.pending = none)
    (parent : ∀ id, next.parent = some id → ∀ other ∈ others, other.parent ≠ some id)
    (fresh : ∀ new ∈ added, ∀ row ∈ db.tokens, row.id ≠ new.id)
    (apart : ∀ new ∈ added, ∀ other ∈ others,
      other.pending ≠ some new.id ∧ ¬ other.Misses new.familyId) :
    Serial after (next :: others) := by
  have beside : ∀ other ∈ others, other.Owns after := by
    intro other otherMem
    apply Owns.evolves (serial.owns other (List.mem_cons_of_mem _ otherMem)) evolves fresh
    exact fun new newMem => apart new newMem other otherMem
  refine ⟨tokens, List.forall_mem_cons.mpr ⟨owns, beside⟩, ?_, ?_⟩
  · refine nodup_filterMap_cons.mpr ⟨?_, (nodup_filterMap_cons.mp serial.pending).2⟩
    intro id nextEq
    rw [pending] at nextEq
    cases nextEq
  · exact nodup_filterMap_cons.mpr ⟨parent, (nodup_filterMap_cons.mp serial.parents).2⟩

/-- What is not new to a family that a call knew was there when the call was. -/
theorem not_misses_of_newFamily {familyId : Uuid} (owns : stage.Owns db)
    (newFamily : ∀ row ∈ db.tokens, row.familyId ≠ familyId) : ¬ stage.Misses familyId := by
  have uncovered : ∀ userId known, (∀ token ∈ known, Has db token) →
      ¬ Covers userId known familyId := by
    rintro userId known stored ⟨token, tokenMem, _, familyEq⟩
    obtain ⟨row, rowMem, _, _, rowFamily⟩ := stored token tokenMem
    exact newFamily row rowMem (rowFamily.trans familyEq)
  cases stage with
  | lockTokens call seen | commitRevoking call seen =>
      rintro ⟨userId, selected, covers⟩
      exact uncovered userId _ (owns userId selected).stored covers
  | ended outcome =>
      cases outcome with
      | revokedAll userId known seen => exact uncovered userId known owns.1.stored
      | _ => exact id
  | _ => exact id

/-- A mass revocation misses no family of a token that it has not seen. -/
theorem not_misses_of_not_seen (owns : stage.Owns db) (rowMem : row ∈ db.tokens)
    (unseen : row.id ∉ stage.seen) : ¬ stage.Misses row.familyId := by
  cases stage with
  | lockTokens call seen | commitRevoking call seen =>
      rintro ⟨userId, selected, covers⟩
      apply unseen
      rw [AuthStage.seen, selected]
      exact (owns userId selected).reached row rowMem covers
  | ended outcome =>
      cases outcome with
      | revokedAll userId known seen =>
          intro covers
          exact unseen (owns.1.reached row rowMem covers)
      | _ => exact id
  | _ => exact id

/-- The first statement of a call is owed nothing that is not there. -/
theorem stage_owns (db : AuthDb) (request : AuthRequest) :
    (request.stage db).Owns db ∧ (request.stage db).pending = none ∧
      (request.stage db).parent = none := by
  have stored : ∀ token ∈ db.tokens, Has db token :=
    fun token tokenMem => ⟨token, tokenMem, rfl, rfl, rfl⟩
  cases request with
  | login now dto client => exact ⟨trivial, rfl, rfl⟩
  | refresh now rawToken =>
      rw [AuthRequest.stage, refreshStage]
      cases verified : verifyAsync now rawToken with
      | none => exact ⟨trivial, rfl, rfl⟩
      | some payload =>
          dsimp only
          split
          · exact ⟨verified, rfl, rfl⟩
          · exact ⟨trivial, rfl, rfl⟩
  | logout now rawToken => exact ⟨stored, rfl, rfl⟩
  | logoutAll now userId => exact ⟨stored, rfl, rfl⟩
  | resetPassword now token password => exact ⟨stored, rfl, rfl⟩

theorem newToken_iff : draw.newToken db others = true ↔
    (∀ row ∈ db.tokens, row.id ≠ draw.tokenId) ∧
      ∀ other ∈ others, other.pending ≠ some draw.tokenId := by
  simp [Draw.newToken]

section
variable (serial : Serial db (stage :: others))
include serial

theorem serial_login {now : Nat} {dto : Credentials} {client : ClientMeta}
    (stageEq : stage = .login now dto client)
    (nextEq : stage.next settings db others draw = some (after, next)) :
    Serial after (next :: others) := by
  subst stageEq
  simp only [AuthStage.next, Option.ite_none_right_eq_some, Bool.and_eq_true] at nextEq
  obtain ⟨⟨newToken, newFamily⟩, nextEq⟩ := nextEq
  obtain ⟨afterEq, rfl⟩ := Prod.mk.inj (Option.some.inj nextEq)
  have issues : Issues settings now draw.familyId draw.tokenId db after :=
    afterEq ▸ login_issues
  obtain ⟨fresh, unpended⟩ := newToken_iff.mp newToken
  have newFamily : ∀ row ∈ db.tokens, row.familyId ≠ draw.familyId := by
    simpa [Draw.newFamily] using newFamily
  have owns : (AuthStage.ended .returned).Owns after := trivial
  have noParent : ∀ id, (AuthStage.ended .returned).parent = some id →
      ∀ other ∈ others, other.parent ≠ some id := by
    intro id idEq
    cases idEq
  rcases issues with tokensEq | ⟨user, tokensEq⟩
  · have tokens : Tokens after := by
      refine ⟨?_, ?_, ?_⟩
      · exact tokensEq ▸ serial.tokens.keyed
      · exact tokensEq ▸ serial.tokens.signed
      · exact tokensEq ▸ serial.tokens.single
    exact serial.writes (Evolves.of_eq tokensEq) tokens owns rfl noParent (by simp) (by simp)
  · have evolves := evolves_save_new fresh tokensEq
    have tokens : Tokens after := by
      apply serial.tokens.evolves evolves
      · rw [tokensEq]
        exact Table.keyed_save serial.tokens.keyed
      · intro new newMem
        obtain rfl := List.mem_singleton.mp newMem
        exact ⟨_, rfl, rfl, rfl, rfl, rfl⟩
      · intro new newMem later laterMem same
        obtain rfl := List.mem_singleton.mp newMem
        rw [tokensEq] at laterMem
        rcases Table.mem_save_iff.mp laterMem with rfl | ⟨oldMem, _⟩
        · rfl
        · exact absurd same (newFamily later oldMem)
    apply serial.writes evolves tokens owns rfl noParent
    · intro new newMem
      obtain rfl := List.mem_singleton.mp newMem
      exact fresh
    · intro new newMem other otherMem
      obtain rfl := List.mem_singleton.mp newMem
      exact ⟨unpended other otherMem,
        not_misses_of_newFamily (serial.owns other (List.mem_cons_of_mem _ otherMem)) newFamily⟩

/-- A refresh before it commits. -/
theorem serial_reads
    (refreshes : (∃ call, stage = .findToken call) ∨ (∃ call token, stage = .findUser call token) ∨
      (∃ call token user, stage = .issue call token user) ∨
      ∃ call token issued pair, stage = .saveToken call token issued pair)
    (nextEq : stage.next settings db others draw = some (after, next)) :
    Serial after (next :: others) := by
  have owns := serial.owns stage List.mem_cons_self
  rcases refreshes with ⟨call, rfl⟩ | ⟨call, token, rfl⟩ | ⟨call, token, user, rfl⟩ |
    ⟨call, token, issued, pair, rfl⟩
  · cases found : presented call.now call.rawToken call.payload db with
    | none =>
        simp only [AuthStage.next, found] at nextEq
        obtain ⟨rfl, rfl⟩ := Prod.mk.inj (Option.some.inj nextEq)
        exact serial.quiet trivial rfl rfl
    | some token =>
        have tokenMem := (mem_of_presented found).1
        simp only [AuthStage.next, found] at nextEq
        split at nextEq
        · obtain ⟨rfl, rfl⟩ := Prod.mk.inj (Option.some.inj nextEq)
          exact serial.quiet (by simp [AuthStage.Owns]) rfl rfl
        · obtain ⟨rfl, rfl⟩ := Prod.mk.inj (Option.some.inj nextEq)
          apply serial.quiet _ rfl rfl
          exact ⟨⟨token, tokenMem, rfl, rfl, rfl⟩,
            sub_eq_of_presented (serial.tokens.signed token tokenMem) owns found⟩
  · cases found : activeUser call.payload.sub db with
    | none =>
        simp only [AuthStage.next, found] at nextEq
        obtain ⟨rfl, rfl⟩ := Prod.mk.inj (Option.some.inj nextEq)
        exact serial.quiet trivial rfl rfl
    | some user =>
        simp only [AuthStage.next, found] at nextEq
        obtain ⟨rfl, rfl⟩ := Prod.mk.inj (Option.some.inj nextEq)
        apply serial.quiet _ rfl rfl
        have idEq : user.id = call.payload.sub :=
          Table.key_of_get? (activeUser_eq_some_iff.mp found).1
        exact ⟨owns.1, idEq.trans owns.2⟩
  · simp only [AuthStage.next, Option.ite_none_right_eq_some] at nextEq
    obtain ⟨newToken, nextEq⟩ := nextEq
    obtain ⟨rfl, rfl⟩ := Prod.mk.inj (Option.some.inj nextEq)
    obtain ⟨fresh, unpended⟩ := newToken_iff.mp newToken
    apply serial.pends
    · exact ⟨owns.1, ⟨_, rfl, rfl, rfl, rfl, rfl⟩, owns.2, rfl, fresh⟩
    · rintro id idEq
      cases idEq
      exact Or.inr unpended
    · rfl
  · simp only [AuthStage.next, Option.ite_none_right_eq_some] at nextEq
    obtain ⟨_, nextEq⟩ := nextEq
    obtain ⟨rfl, rfl⟩ := Prod.mk.inj (Option.some.inj nextEq)
    exact serial.pends owns (fun _ idEq => Or.inl idEq) rfl

/-- An exchange that commits under the condition. -/
theorem serial_exchange {call : Refreshing} {token issued : RefreshToken} {pair : Refreshed}
    (stageEq : stage = .commitExchange call token issued pair)
    (met : stage.NoRace db others draw)
    (nextEq : stage.next settings db others draw = some (after, next)) :
    Serial after (next :: others) := by
  subst stageEq
  obtain ⟨afterEq, rfl⟩ := Prod.mk.inj (Option.some.inj nextEq)
  obtain ⟨unreplaced, unseen⟩ := met
  obtain ⟨has, signed, userEq, familyEq, fresh⟩ := serial.owns _ List.mem_cons_self
  obtain ⟨row, rowMem, idEq, rowUser, rowFamily⟩ := has
  have left := exchange_evolves call.now serial.tokens.keyed rowMem idEq fresh
  rw [afterEq] at left
  obtain ⟨evolves, keyed, later, laterMem, laterId, replaced⟩ := left
  have tokens : Tokens after := by
    apply serial.tokens.evolves evolves keyed
    · intro new newMem
      obtain rfl := List.mem_singleton.mp newMem
      exact signed
    · intro new newMem other otherMem same
      obtain rfl := List.mem_singleton.mp newMem
      rcases evolves.old other otherMem with newMem | ⟨old, oldMem, becomes⟩
      · rw [List.mem_singleton.mp newMem]
      · rw [becomes.userId, userEq, ← rowUser]
        apply serial.tokens.single old oldMem row rowMem
        rw [← becomes.familyId, same, familyEq, rowFamily]
  have owns : (AuthStage.ended (.exchanged token.id pair)).Owns after :=
    ⟨later, laterMem, laterId, replaced⟩
  apply serial.writes evolves tokens owns rfl
  · -- a call that has exchanged the token has left its mark on the row
    intro id parentEq other otherMem otherEq
    cases parentEq
    have otherOwns := serial.owns other (List.mem_cons_of_mem _ otherMem)
    cases other with
    | ended outcome =>
        cases outcome with
        | exchanged parent otherPair =>
            cases otherEq
            obtain ⟨marked, markedMem, markedId, markedReplaced⟩ := otherOwns
            rw [unreplaced marked markedMem markedId] at markedReplaced
            cases markedReplaced
        | _ => cases otherEq
    | _ => cases otherEq
  · intro new newMem
    obtain rfl := List.mem_singleton.mp newMem
    exact fresh
  · intro new newMem other otherMem
    obtain rfl := List.mem_singleton.mp newMem
    constructor
    · exact (nodup_filterMap_cons.mp serial.pending).1 _ rfl other otherMem
    · rw [familyEq, ← rowFamily]
      apply not_misses_of_not_seen (serial.owns other (List.mem_cons_of_mem _ otherMem)) rowMem
      rw [idEq]
      exact unseen other otherMem

/-- A call that revokes. -/
theorem serial_revokes
    (revokes : (∃ now secret password known, stage = .findReset now secret password known) ∨
      (∃ call, stage = .selectTokens call) ∨ (∃ call seen, stage = .lockTokens call seen) ∨
      ∃ call seen, stage = .commitRevoking call seen)
    (nextEq : stage.next settings db others draw = some (after, next)) :
    Serial after (next :: others) := by
  have owns := serial.owns stage List.mem_cons_self
  rcases revokes with ⟨now, secret, password, known, rfl⟩ | ⟨call, rfl⟩ | ⟨call, seen, rfl⟩ |
    ⟨call, seen, rfl⟩
  · cases found : resettable now secret db with
    | none =>
        simp only [AuthStage.next, found] at nextEq
        obtain ⟨rfl, rfl⟩ := Prod.mk.inj (Option.some.inj nextEq)
        exact serial.quiet trivial rfl rfl
    | some user =>
        simp only [AuthStage.next, found] at nextEq
        obtain ⟨rfl, rfl⟩ := Prod.mk.inj (Option.some.inj nextEq)
        exact serial.quiet owns rfl rfl
  · obtain ⟨rfl, rfl⟩ := Prod.mk.inj (Option.some.inj nextEq)
    apply serial.quiet _ rfl rfl
    intro userId selected
    refine ⟨owns, ?_, ?_⟩
    · intro id idMem
      obtain ⟨row, rowMem, rfl⟩ := List.mem_map.mp idMem
      exact ⟨row, (List.mem_filter.mp rowMem).1, rfl⟩
    · rintro row rowMem ⟨token, tokenMem, tokenUser, tokenFamily⟩
      obtain ⟨other, otherMem, _, otherUser, otherFamily⟩ := owns token tokenMem
      have sameUser : row.userId = userId := by
        rw [serial.tokens.single row rowMem other otherMem
          (tokenFamily.symm.trans otherFamily.symm), otherUser, tokenUser]
      apply List.mem_map_of_mem
      rw [List.mem_filter, selected]
      exact ⟨rowMem, by simpa [Selection.selects] using sameUser⟩
  · simp only [AuthStage.next, Option.ite_none_right_eq_some] at nextEq
    obtain ⟨_, nextEq⟩ := nextEq
    obtain ⟨rfl, rfl⟩ := Prod.mk.inj (Option.some.inj nextEq)
    exact serial.quiet owns rfl rfl
  · obtain ⟨afterEq, rfl⟩ := Prod.mk.inj (Option.some.inj nextEq)
    have writes : Evolves db after [] → Tokens after →
        (AuthStage.ended (call.outcome seen)).Owns after →
        Serial after (.ended (call.outcome seen) :: others) := by
      intro evolves tokens ends
      apply serial.writes evolves tokens ends rfl _ (by simp) (by simp)
      intro id parentEq
      obtain ⟨now, selection, known, sequel⟩ := call
      cases sequel <;> cases selection <;> cases parentEq
    rcases commit_tokens call seen with ⟨tokensEq, exception, outcomeEq⟩ | tokensEq
    · rw [afterEq] at tokensEq
      apply writes (Evolves.of_eq tokensEq)
      · refine ⟨?_, ?_, ?_⟩
        · exact tokensEq ▸ serial.tokens.keyed
        · exact tokensEq ▸ serial.tokens.signed
        · exact tokensEq ▸ serial.tokens.single
      · rw [outcomeEq]
        trivial
    · rw [afterEq] at tokensEq
      have evolves := evolves_revokeWhere tokensEq
      apply writes evolves
      · apply serial.tokens.evolves evolves _ (by simp) (by simp)
        rw [tokensEq]
        exact keyed_revokeWhere serial.tokens.keyed _ _
      · cases outcomeEq : call.outcome seen with
        | exchanged parent pair =>
            obtain ⟨now, selection, known, sequel⟩ := call
            cases sequel <;> cases selection <;> cases outcomeEq
        | revokedAll userId known rows =>
            obtain ⟨selected, rfl, rfl⟩ := outcome_revokedAll outcomeEq
            refine ⟨(owns userId selected).evolves evolves (by simp), ?_⟩
            intro later laterMem seenMem
            rw [tokensEq] at laterMem
            obtain ⟨row, rowMem, rfl⟩ := List.mem_map.mp laterMem
            split
            · rfl
            · rename_i missed
              rw [if_neg missed] at seenMem
              exact absurd (by simpa using seenMem) missed
        | returned => trivial
        | threw exception => trivial

end

/-- The calls beside each other keep what holds between statements. -/
theorem keepsAll_serial : (authSessions settings).KeepsAll (fun _ => True)
    (fun db others stage draw => stage.NoRace db others draw) Serial where
  perm := fun perm serial => serial.perm perm
  started := by
    intro db sessions request serial _
    obtain ⟨owns, pending, parent⟩ := stage_owns db request
    refine ⟨serial.tokens, List.forall_mem_cons.mpr ⟨owns, serial.owns⟩, ?_, ?_⟩
    · refine nodup_filterMap_cons.mpr ⟨?_, serial.pending⟩
      intro id idEq
      cases pending.symm.trans idEq
    · refine nodup_filterMap_cons.mpr ⟨?_, serial.parents⟩
      intro id idEq
      cases parent.symm.trans idEq
  advanced := by
    intro db others stage draw after next serial met nextEq
    replace nextEq : stage.next settings db others draw = some (after, next) := nextEq
    cases stage with
    | login now dto client => exact serial_login serial rfl nextEq
    | findToken call => exact serial_reads serial (Or.inl ⟨_, rfl⟩) nextEq
    | findUser call token => exact serial_reads serial (Or.inr (Or.inl ⟨_, _, rfl⟩)) nextEq
    | issue call token user =>
        exact serial_reads serial (Or.inr (Or.inr (Or.inl ⟨_, _, _, rfl⟩))) nextEq
    | saveToken call token issued pair =>
        exact serial_reads serial (Or.inr (Or.inr (Or.inr ⟨_, _, _, _, rfl⟩))) nextEq
    | commitExchange call token issued pair => exact serial_exchange serial rfl met nextEq
    | findReset now secret password known =>
        exact serial_revokes serial (Or.inl ⟨_, _, _, _, rfl⟩) nextEq
    | selectTokens call => exact serial_revokes serial (Or.inr (Or.inl ⟨_, rfl⟩)) nextEq
    | lockTokens call seen =>
        exact serial_revokes serial (Or.inr (Or.inr (Or.inl ⟨_, _, rfl⟩))) nextEq
    | commitRevoking call seen =>
        exact serial_revokes serial (Or.inr (Or.inr (Or.inr ⟨_, _, rfl⟩))) nextEq
    | ended outcome => cases nextEq

/-! ## Runs -/

/-- A step that returns the pair of an exchange, of a token of a family that a mass
revocation which has returned knew. -/
def AcceptsRevoked (state : Sessions.State AuthDb AuthStage) :
    Sessions.Action AuthRequest Draw → Prop
  | .start _ => False
  | .advance index _ =>
      ∃ call token issued pair userId known seen,
        state.sessions[index]? = some (.commitExchange call token issued pair) ∧
        AuthStage.ended (.revokedAll userId known seen) ∈ state.sessions ∧
        Covers userId known token.familyId

/-- Every token was exchanged at most once, and every token of a family that a mass
revocation knew which has returned is revoked. -/
structure Sound (state : Sessions.State AuthDb AuthStage) : Prop where
  once : ∀ (i j : Nat) parent firstPair secondPair,
    state.sessions[i]? = some (AuthStage.ended (.exchanged parent firstPair)) →
    state.sessions[j]? = some (AuthStage.ended (.exchanged parent secondPair)) → i = j
  complete : ∀ userId known seen,
    AuthStage.ended (.revokedAll userId known seen) ∈ state.sessions →
    ∀ row ∈ state.store.tokens, Covers userId known row.familyId → row.revoked = true

/-- Calls with one identifier are one call, where these are distinct. -/
theorem index_eq_of_nodup {f : AuthStage → Option Uuid} {sessions : List AuthStage}
    (nodup : (sessions.filterMap f).Nodup) {i j : Nat} {first second : AuthStage} {id : Uuid}
    (firstEq : sessions[i]? = some first) (secondEq : sessions[j]? = some second)
    (firstId : f first = some id) (secondId : f second = some id) : i = j := by
  have apart := List.pairwise_filterMap.mp nodup
  rw [List.pairwise_iff_getElem] at apart
  obtain ⟨iLt, rfl⟩ := List.getElem?_eq_some_iff.mp firstEq
  obtain ⟨jLt, rfl⟩ := List.getElem?_eq_some_iff.mp secondEq
  rcases Nat.lt_trichotomy i j with lt | eq | gt
  · exact absurd rfl (apart i j iLt jLt lt id firstId id secondId)
  · exact eq
  · exact absurd rfl (apart j i jLt iLt gt id secondId id firstId)

/-- What holds between statements makes a state sound. -/
theorem Serial.sound {state : Sessions.State AuthDb AuthStage}
    (serial : Serial state.store state.sessions) : Sound state where
  once := by
    intro i j parent firstPair secondPair firstEq secondEq
    exact index_eq_of_nodup serial.parents firstEq secondEq rfl rfl
  complete := by
    intro userId known seen stageMem row rowMem covers
    obtain ⟨reaches, revoked⟩ := serial.owns _ stageMem
    exact revoked row rowMem (reaches.reached row rowMem covers)

/-- Where no step is one of a race, every token is exchanged at most once, and a mass
revocation that has returned leaves no token of the families it knew to be accepted. -/
theorem revocation_sound {settings : Settings} {db : AuthDb} (tokens : Tokens db)
    {actions : List (Sessions.Action AuthRequest Draw)} {final : Sessions.State AuthDb AuthStage}
    (met : (authSessions settings).step.Meets
      (Sessions.Guard (fun _ => True) fun db others stage draw => stage.NoRace db others draw)
      ⟨db, []⟩ actions)
    (runEq : (authSessions settings).step.run ⟨db, []⟩ actions = some final) :
    Sound final ∧ (authSessions settings).step.Meets
      (fun state action => ¬ AcceptsRevoked state action) ⟨db, []⟩ actions := by
  have start : Serial db [] := ⟨tokens, by simp, List.nodup_nil, List.nodup_nil⟩
  refine ⟨(keepsAll_serial.run start met runEq).sound, ?_⟩
  have preserved : ∀ (state : Sessions.State AuthDb AuthStage) action next,
      Serial state.store state.sessions →
      Sessions.Guard (fun _ => True) (fun db others stage draw => stage.NoRace db others draw)
        state action →
      (authSessions settings).step state action = some next →
      Serial next.store next.sessions := fun _ _ _ => keepsAll_serial.step
  apply Step.meets_of_meets preserved _ start met
  intro state action serial guard accepts
  cases action with
  | start request => exact accepts
  | advance index draw =>
      obtain ⟨call, token, issued, pair, userId, known, seen, stageEq, massMem, covers⟩ := accepts
      obtain ⟨_, unseen⟩ := guard _ stageEq
      obtain ⟨row, rowMem, idEq, _, familyEq⟩ := (serial.owns _ (List.mem_of_getElem? stageEq)).1
      rw [← familyEq] at covers
      have seenMem := (serial.owns _ massMem).1.reached row rowMem covers
      obtain ⟨i, iEq⟩ := List.mem_iff_getElem?.mp massMem
      have ne : i ≠ index := by
        rintro rfl
        cases iEq.symm.trans stageEq
      have otherMem : AuthStage.ended (.revokedAll userId known seen) ∈
          state.sessions.eraseIdx index :=
        List.mem_eraseIdx_iff_getElem?.mpr ⟨i, ne, iEq⟩
      exact unseen _ otherMem (idEq ▸ seenMem)

/-! ## Two races -/

/-- A statement of the call in one place, with the identifiers it may draw. -/
def exampleAdvance (index : Nat) (tokenId : String) : Sessions.Action AuthRequest Draw :=
  .advance index ⟨uuid tokenId, uuid "g"⟩

/-- The tables after a registration. -/
def exampleTables : AuthDb :=
  (register exampleSettings 0 ⟨uuid "o", uuid "u", uuid "f", uuid "t1", "12345678"⟩
    ⟨"ann@example.org", "correct horse"⟩ ⟨none, none⟩ ⟨[], [], [], [], []⟩).2

/-- A refresh of the token, and after it a mass revocation. -/
def exampleSequence : List (Sessions.Action AuthRequest Draw) :=
  .start (.refresh 0 (.signed (examplePayload "t1"))) ::
    (List.replicate 5 (exampleAdvance 0 "t2") ++
      .start (.logoutAll 0 (uuid "u")) :: List.replicate 3 (exampleAdvance 1 "t3"))

theorem tokens_exampleTables : Tokens exampleTables := by
  have rowsEq : exampleTables.tokens =
      [refreshRow exampleSettings 0 (uuid "t1") (uuid "u") (uuid "f")] := by
    decide +kernel
  refine ⟨?_, ?_, ?_⟩
  · rw [rowsEq]
    exact List.nodup_singleton _
  · rw [rowsEq]
    intro row rowMem
    obtain rfl := List.mem_singleton.mp rowMem
    exact ⟨_, rfl, rfl, rfl, rfl, rfl⟩
  · rw [rowsEq]
    intro row rowMem other otherMem _
    rw [List.mem_singleton.mp rowMem, List.mem_singleton.mp otherMem]

/-- In a run without a race the token is exchanged and the new one is revoked. -/
theorem revocation_sound_example :
    ∃ final, (authSessions exampleSettings).step.run ⟨exampleTables, []⟩ exampleSequence =
        some final ∧
      final.sessions.length = 2 ∧ Sound final ∧
      (authSessions exampleSettings).step.Meets
        (fun state action => ¬ AcceptsRevoked state action) ⟨exampleTables, []⟩
        exampleSequence := by
  have taken : ((authSessions exampleSettings).step.run ⟨exampleTables, []⟩
      exampleSequence).any fun state => state.sessions.length == 2 := by
    decide +kernel
  have met : (authSessions exampleSettings).step.Meets
      (Sessions.Guard (fun _ => True) fun db others stage draw => stage.NoRace db others draw)
      ⟨exampleTables, []⟩ exampleSequence := by
    decide +kernel
  obtain ⟨final, runEq, two⟩ := Option.any_eq_true _ _ |>.mp taken
  exact ⟨final, runEq, by simpa using two, revocation_sound tokens_exampleTables met runEq⟩

/-- Two refreshes read the token before either commits. -/
def exampleDouble : List (Sessions.Action AuthRequest Draw) :=
  [.start (.refresh 0 (.signed (examplePayload "t1"))),
    .start (.refresh 0 (.signed (examplePayload "t1"))), exampleAdvance 0 "t2",
    exampleAdvance 1 "t3"] ++
    List.replicate 4 (exampleAdvance 0 "t2") ++ List.replicate 4 (exampleAdvance 1 "t3")

/-- A refresh commits after the mass revocation of its user has selected the rows, and
the token that it returned is exchanged after that. -/
def exampleOverlap : List (Sessions.Action AuthRequest Draw) :=
  [.start (.refresh 0 (.signed (examplePayload "t1"))), .start (.logoutAll 0 (uuid "u")),
    exampleAdvance 0 "t2", exampleAdvance 1 "t3"] ++
    List.replicate 4 (exampleAdvance 0 "t2") ++ List.replicate 2 (exampleAdvance 1 "t3") ++
    .start (.refresh 0 (.signed (examplePayload "t2"))) :: List.replicate 4 (exampleAdvance 2 "t4")

theorem parent_eq_some {stage : AuthStage} {parent : Uuid}
    (parentEq : stage.parent = some parent) : ∃ pair, stage = .ended (.exchanged parent pair) := by
  cases stage with
  | ended outcome =>
      cases outcome with
      | exchanged exchangedId pair =>
          cases parentEq
          exact ⟨pair, rfl⟩
      | _ => cases parentEq
  | _ => cases parentEq

/-- A token is exchanged twice; and a token of a family that was there before is
accepted after everything was revoked. -/
theorem races_unsound :
    (∃ final, (authSessions exampleSettings).step.run ⟨exampleTables, []⟩ exampleDouble =
        some final ∧ ¬ Sound final) ∧
      ∃ final, (authSessions exampleSettings).step.run ⟨exampleTables, []⟩ exampleOverlap =
        some final ∧ ¬ Sound final ∧ AcceptsRevoked final (exampleAdvance 2 "t4") := by
  constructor
  · have taken : ((authSessions exampleSettings).step.run ⟨exampleTables, []⟩
        exampleDouble).any fun state =>
          state.sessions[0]?.bind AuthStage.parent == some (uuid "t1") &&
            state.sessions[1]?.bind AuthStage.parent == some (uuid "t1") := by
      decide +kernel
    obtain ⟨final, runEq, found⟩ := Option.any_eq_true _ _ |>.mp taken
    obtain ⟨first, second⟩ := (Bool.and_eq_true _ _).mp found
    obtain ⟨stage, stageEq, parentEq⟩ := Option.bind_eq_some_iff.mp (beq_iff_eq.mp first)
    obtain ⟨other, otherEq, otherParent⟩ := Option.bind_eq_some_iff.mp (beq_iff_eq.mp second)
    obtain ⟨_, rfl⟩ := parent_eq_some parentEq
    obtain ⟨_, rfl⟩ := parent_eq_some otherParent
    refine ⟨final, runEq, ?_⟩
    intro sound
    exact absurd (sound.once 0 1 _ _ _ stageEq otherEq) (by decide)
  · have taken : ((authSessions exampleSettings).step.run ⟨exampleTables, []⟩
        exampleOverlap).any fun state =>
          state.sessions[1]? == some (AuthStage.ended
              (.revokedAll (uuid "u") exampleTables.tokens [uuid "t1"])) &&
            state.sessions[2]? == some (AuthStage.commitExchange
              ⟨0, .signed (examplePayload "t2"), examplePayload "t2"⟩
              (refreshRow exampleSettings 0 (uuid "t2") (uuid "u") (uuid "f"))
              (refreshRow exampleSettings 0 (uuid "t4") (uuid "u") (uuid "f"))
              (refreshed exampleSettings 0 (uuid "t4")
                (refreshRow exampleSettings 0 (uuid "t2") (uuid "u") (uuid "f")) exampleUser)) &&
            decide (refreshRow exampleSettings 0 (uuid "t2") (uuid "u") (uuid "f") ∈
              state.store.tokens) := by
      decide +kernel
    obtain ⟨final, runEq, found⟩ := Option.any_eq_true _ _ |>.mp taken
    simp only [Bool.and_eq_true, beq_iff_eq, decide_eq_true_eq] at found
    obtain ⟨⟨massEq, stageEq⟩, rowMem⟩ := found
    have massMem := List.mem_of_getElem? massEq
    have covers : Covers (uuid "u") exampleTables.tokens (uuid "f") := by
      refine ⟨refreshRow exampleSettings 0 (uuid "t1") (uuid "u") (uuid "f"), ?_, rfl, rfl⟩
      decide +kernel
    refine ⟨final, runEq, ?_, _, _, _, _, _, _, _, stageEq, massMem, covers⟩
    intro sound
    exact absurd (sound.complete _ _ _ massMem _ rowMem covers) (by decide)

end Manbaa.Auth
