import Manbaa.Core.Http
import Manbaa.Lib.Effect
import Manbaa.Lib.Except
import Manbaa.Lib.Table

/-!
# Accounts and refresh tokens

The rows that the authentication service works on and its calls.  A moment is a
number of milliseconds.  A call takes the identifiers and the tokens that it draws at
random from outside.

A token is known by what was signed, and a digest by what it is the digest of: two
digests are the same just when two texts are.
-/

namespace Manbaa.Auth

open Manbaa.Lib Manbaa.Lib.Effect

/-! ## Tokens -/

/-- What a refresh token says; its times are in seconds. -/
structure RefreshPayload where
  sub : Uuid
  tokenId : Uuid
  familyId : Uuid
  type : String
  iat : Nat
  exp : Nat
  deriving DecidableEq

/-- What an access token says. -/
structure AccessPayload where
  sub : Uuid
  orgId : Uuid
  role : UserRole
  type : String
  iat : Nat
  exp : Nat
  deriving DecidableEq

/-- A text that is sent as a token: signed with the secret of refresh tokens, or not. -/
inductive RawToken where
  | signed (payload : RefreshPayload)
  | text (value : String)
  deriving DecidableEq

/-- A digest. -/
structure Digest where
  content : RawToken
  deriving DecidableEq

/-- `sha256`. -/
def sha256 (value : RawToken) : Digest := ⟨value⟩

/-- `verifyAsync` with the secret of refresh tokens. -/
def verifyAsync (now : Nat) : RawToken → Option RefreshPayload
  | .signed payload => if now / 1000 < payload.exp then some payload else none
  | .text _ => none

/-! ## Rows -/

/-- A row of `organization`. -/
structure Organization where
  id : Uuid
  name : String
  plan : String
  deriving DecidableEq

/-- A role in an organization. -/
inductive OrganizationRole where
  | owner
  | admin
  | member
  | billing
  deriving DecidableEq

/-- A row of `organization_member`. -/
structure OrganizationMember where
  organizationId : Uuid
  userId : Uuid
  role : OrganizationRole
  active : Bool
  deriving DecidableEq

/-- A row of `user`, without the columns of invitations, locks and the verification
of the email.  The email is the text that its column compares. -/
structure User where
  id : Uuid
  email : String
  passwordHash : String
  role : UserRole
  orgId : Uuid
  isVerified : Bool
  isActive : Bool
  passwordResetTokenHash : Option Digest
  passwordResetExpiresAt : Option Nat
  deriving DecidableEq

/-- A row of `login_history`. -/
structure LoginHistory where
  userId : Option Uuid
  ipAddress : Option String
  userAgent : Option String
  success : Bool
  deriving DecidableEq

/-- A row of `refresh_token`. -/
structure RefreshToken where
  id : Uuid
  userId : Uuid
  tokenHash : Digest
  expiresAt : Nat
  revoked : Bool
  familyId : Uuid
  replacedByTokenId : Option Uuid
  revokedAt : Option Nat
  deriving DecidableEq

/-- The tables. -/
structure AuthDb where
  organizations : List Organization
  users : List User
  members : List OrganizationMember
  logins : List LoginHistory
  tokens : List RefreshToken
  deriving DecidableEq

/-- A computation on the database. -/
abbrev Statements := Effect AuthDb Exception

/-- The row of a user. -/
def AuthDb.user? (db : AuthDb) (id : Uuid) : Option User := Table.get? User.id db.users id

/-- The row of a refresh token. -/
def AuthDb.token? (db : AuthDb) (id : Uuid) : Option RefreshToken :=
  Table.get? RefreshToken.id db.tokens id

/-- The token with its mark. -/
def RefreshToken.revoke (token : RefreshToken) (now : Nat) : RefreshToken :=
  { token with revoked := true, revokedAt := some now }

/-- The database with the tokens of a selection revoked. -/
def AuthDb.revokeWhere (db : AuthDb) (now : Nat) (selected : RefreshToken → Bool) : AuthDb :=
  { db with tokens := db.tokens.map fun token =>
      if selected token then token.revoke now else token }

/-- The database with a token written under its identifier. -/
def AuthDb.writeToken (db : AuthDb) (token : RefreshToken) : AuthDb :=
  { db with tokens := Table.save RefreshToken.id db.tokens token }

/-- The database with a user written under its identifier. -/
def AuthDb.writeUser (db : AuthDb) (user : User) : AuthDb :=
  { db with users := Table.save User.id db.users user }

/-! ## Configuration -/

/-- What the service takes from its configuration and from libraries.  The times to live
are in seconds. -/
structure Settings where
  /-- An email without the blanks around it, in lower case. -/
  normalizeEmail : String → String
  hashPassword : String → String
  verifyPassword : String → String → Bool
  accessTtl : Nat
  refreshTtl : Nat
  production : Bool

/-- `ClientMeta`. -/
structure ClientMeta where
  ipAddress : Option String
  userAgent : Option String
  deriving DecidableEq

/-! ## Issuing tokens -/

/-- A pair of tokens, with the identifier of the refresh token. -/
structure TokenPair where
  accessToken : AccessPayload
  refreshToken : RawToken
  refreshTokenId : Uuid
  deriving DecidableEq

/-- What the refresh token of a pair says. -/
def refreshPayload (settings : Settings) (now : Nat) (tokenId userId familyId : Uuid) :
    RefreshPayload :=
  { sub := userId
    tokenId := tokenId
    familyId := familyId
    type := "refresh"
    iat := now / 1000
    exp := now / 1000 + settings.refreshTtl }

/-- The row of a refresh token. -/
def refreshRow (settings : Settings) (now : Nat) (tokenId userId familyId : Uuid) :
    RefreshToken :=
  { id := tokenId
    userId := userId
    tokenHash := sha256 (.signed (refreshPayload settings now tokenId userId familyId))
    expiresAt := (refreshPayload settings now tokenId userId familyId).exp * 1000
    revoked := false
    familyId := familyId
    replacedByTokenId := none
    revokedAt := none }

/-- `issueTokenPair`. -/
def issueTokenPair (settings : Settings) (now : Nat) (tokenId : Uuid) (user : User)
    (familyId : Uuid) : Statements TokenPair := do
  writing fun db => db.writeToken (refreshRow settings now tokenId user.id familyId)
  pure
    { accessToken :=
        { sub := user.id
          orgId := user.orgId
          role := user.role
          type := "access"
          iat := now / 1000
          exp := now / 1000 + settings.accessTtl }
      refreshToken := .signed (refreshPayload settings now tokenId user.id familyId)
      refreshTokenId := tokenId }

/-- `recordLogin`. -/
def recordLogin (userId : Option Uuid) (success : Bool) (client : ClientMeta) :
    Statements Unit :=
  writing fun db =>
    { db with logins := db.logins ++ [⟨userId, client.ipAddress, client.userAgent, success⟩] }

/-! ## Accounts -/

/-- The email and the password of a registration or a login. -/
structure Credentials where
  email : String
  password : String
  deriving DecidableEq

/-- The identifiers that a registration draws, and the text that makes the name of the
organization its own. -/
structure RegisterIds where
  organizationId : Uuid
  userId : Uuid
  familyId : Uuid
  tokenId : Uuid
  nameSuffix : String
  deriving DecidableEq

/-- The transaction of a registration. -/
def createAccount (settings : Settings) (ids : RegisterIds) (email password : String) :
    Statements User :=
  transaction do
    let organization : Organization :=
      { id := ids.organizationId
        name := String.ofList (email.toList.takeWhile (· != '@')) ++ "'s workspace " ++
          ids.nameSuffix
        plan := "free" }
    asking fun db => check (!db.organizations.any (·.name == organization.name))
      (.queryFailed (.uniqueViolation "organization_name_key"))
    writing fun db => { db with organizations := db.organizations ++ [organization] }
    let user : User :=
      { id := ids.userId
        email := email
        passwordHash := settings.hashPassword password
        role := .admin
        orgId := organization.id
        isVerified := false
        isActive := true
        passwordResetTokenHash := none
        passwordResetExpiresAt := none }
    asking fun db => check (!db.users.any (·.email == user.email))
      (.queryFailed (.uniqueViolation "user_email_key"))
    writing fun db => db.writeUser user
    writing fun db =>
      { db with members := db.members ++ [⟨organization.id, user.id, .owner, true⟩] }
    pure user

/-- `register`. -/
def register (settings : Settings) (now : Nat) (ids : RegisterIds) (dto : Credentials)
    (client : ClientMeta) : Statements TokenPair := do
  let email := settings.normalizeEmail dto.email
  let taken ← reading fun db => db.users.any fun user => user.email == email
  require (!taken) (.conflict "Email is already registered")
  let user ← createAccount settings ids email dto.password
  recordLogin (some user.id) true client
  issueTokenPair settings now ids.tokenId user ids.familyId

/-- `login`. -/
def login (settings : Settings) (now : Nat) (familyId tokenId : Uuid) (dto : Credentials)
    (client : ClientMeta) : Statements TokenPair := do
  let email := settings.normalizeEmail dto.email
  let found ← reading fun db => db.users.find? fun user => user.email == email
  let valid := found.filter fun user =>
    user.isActive && settings.verifyPassword user.passwordHash dto.password
  recordLogin (found.map User.id) valid.isSome client
  let user ← orThrow valid (.unauthorized "Invalid credentials")
  issueTokenPair settings now tokenId user familyId

/-! ## Refreshing and revoking -/

/-- The stored token that a text is, if it can be used at all. -/
def presented (now : Nat) (rawToken : RawToken) (payload : RefreshPayload) (db : AuthDb) :
    Option RefreshToken :=
  (db.token? payload.tokenId).filter fun token =>
    token.tokenHash == sha256 rawToken && decide (now < token.expiresAt)

/-- `findOneByOrFail` of the active user. -/
def activeUser (id : Uuid) (db : AuthDb) : Option User := (db.user? id).filter User.isActive

/-- What `refresh` returns. -/
structure Refreshed where
  accessToken : AccessPayload
  refreshToken : RawToken
  deriving DecidableEq

/-- The transaction of a refresh. -/
def exchange (settings : Settings) (now : Nat) (tokenId : Uuid) (rawToken : RawToken)
    (payload : RefreshPayload) : Statements Refreshed :=
  transaction do
    let found ← reading (presented now rawToken payload)
    let token ← orThrow found (.unauthorized "Invalid refresh token")
    if token.revoked then do
      writing fun db => db.revokeWhere now fun other => other.familyId == token.familyId
      throwing (.unauthorized "Refresh token reuse detected")
    else do
      let found ← reading (activeUser payload.sub)
      let user ← orThrow found (.error "Could not find any entity of type \"User\"")
      let pair ← issueTokenPair settings now tokenId user token.familyId
      writing fun db => db.writeToken
        { token.revoke now with replacedByTokenId := some pair.refreshTokenId }
      pure ⟨pair.accessToken, pair.refreshToken⟩

/-- `refresh`. -/
def refresh (settings : Settings) (now : Nat) (tokenId : Uuid) (rawToken : RawToken) :
    Statements Refreshed := do
  let payload ← orThrow (verifyAsync now rawToken) (.unauthorized "Invalid refresh token")
  require (payload.type == "refresh") (.unauthorized "Invalid refresh token")
  exchange settings now tokenId rawToken payload

/-- `logout`. -/
def logout (now : Nat) (rawToken : RawToken) : Statements Unit :=
  writing fun db => db.revokeWhere now fun token => token.tokenHash == sha256 rawToken

/-- `logoutAll`. -/
def logoutAll (now : Nat) (userId : Uuid) : Statements Unit :=
  writing fun db => db.revokeWhere now fun token => token.userId == userId

/-! ## Passwords -/

/-- `requestPasswordReset` with the token it draws.  The token is returned outside
production. -/
def requestPasswordReset (settings : Settings) (now : Nat) (token emailInput : String) :
    Statements (Option String) := do
  let found ← reading fun db =>
    db.users.find? fun user => user.email == settings.normalizeEmail emailInput
  match found with
  | none => pure none
  | some user => do
      writing fun db => db.writeUser
        { user with
          passwordResetTokenHash := some (sha256 (.text token))
          passwordResetExpiresAt := some (now + 30 * 60000) }
      pure (if settings.production then none else some token)

/-- The user whose password a token resets. -/
def resettable (now : Nat) (token : String) (db : AuthDb) : Option User :=
  (db.users.find? fun user => user.passwordResetTokenHash == some (sha256 (.text token))).filter
    fun user => user.passwordResetExpiresAt.any fun expiresAt => decide (now < expiresAt)

/-- The user with another password. -/
def User.withPassword (user : User) (passwordHash : String) : User :=
  { user with
    passwordHash := passwordHash
    passwordResetTokenHash := none
    passwordResetExpiresAt := none }

/-- `resetPassword`. -/
def resetPassword (settings : Settings) (now : Nat) (token password : String) :
    Statements Unit := do
  let found ← reading (resettable now token)
  let user ← orThrow found (.unauthorized "Invalid or expired reset token")
  transaction do
    writing fun db => db.writeUser (user.withPassword (settings.hashPassword password))
    writing fun db => db.revokeWhere now fun other => other.userId == user.id

end Manbaa.Auth
