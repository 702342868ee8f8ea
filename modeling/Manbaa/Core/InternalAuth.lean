import Manbaa.Core.Http
import Manbaa.Lib.Expiring
import Manbaa.Lib.OnceOnly

/-!
# Tokens between services

A service that calls the platform shows a token, signed under a secret that the two share.
While the secret is exchanged for another, the one before it is still good.  A token is good
for one use: the identifiers of the tokens that have been used are kept in a keyspace, each
until its token has expired.

The library that signs and verifies tokens is a parameter; what it is used for here are the
laws below.
-/

namespace Manbaa.InternalAuth

open Manbaa.Lib Manbaa.Lib.Expiring

/-! ## Tokens -/

/-- `InternalServiceClaims`. -/
structure InternalServiceClaims where
  iss : String
  sub : String
  aud : String
  iat : Nat
  exp : Nat
  jti : String
  service : String
  organizationId : String
  workspaceId : Option String
  taskId : Option String
  correlationId : String
  allowedActions : List String
  deriving DecidableEq

/-- `CreateInternalTokenInput`. -/
structure CreateInternalTokenInput where
  service : String
  organizationId : String
  workspaceId : Option String
  taskId : Option String
  correlationId : String
  allowedActions : List String

/-- The claims of a token that is made at a second. -/
def CreateInternalTokenInput.claims (input : CreateInternalTokenInput)
    (issuer audience : String) (clock ttlSeconds : Nat) (jti : String) : InternalServiceClaims where
  iss := issuer
  sub := "nestjs-platform"
  aud := audience
  iat := clock
  exp := clock + ttlSeconds
  jti := jti
  service := input.service
  organizationId := input.organizationId
  workspaceId := input.workspaceId
  taskId := input.taskId
  correlationId := input.correlationId
  allowedActions := input.allowedActions

/-- `JwtService`: how claims are signed under a secret, and what a token shows under a secret,
to an audience, at a second. -/
structure Jwt (Token : Type) where
  signAsync : String → InternalServiceClaims → Token
  verifyAsync : (secret issuer audience : String) → (clock : Nat) → Token →
    Option InternalServiceClaims

/-- A signed token shows its claims under its secret alone, to its audience alone, and before
it expires. -/
def Jwt.Lawful {Token : Type} (jwt : Jwt Token) : Prop :=
  ∀ secret issuer audience clock signed claims,
    jwt.verifyAsync secret issuer audience clock (jwt.signAsync signed claims) =
      if secret = signed ∧ claims.iss = issuer ∧ claims.aud = audience ∧ clock < claims.exp then
        some claims
      else none

/-- What the service reads of its configuration. -/
structure Settings where
  issuer : String
  audience : String
  current : String
  previous : Option String
  services : List String
  tokenTtlSeconds : Nat
  keyPrefix : String

/-- The secrets under which a token is looked at, in order. -/
def Settings.secrets (settings : Settings) : List String :=
  [settings.current, settings.previous.getD ""].filter (· ≠ "")

/-- `RedisService.key`. -/
def Settings.key (settings : Settings) (keyspace id : String) : String :=
  settings.keyPrefix ++ keyspace ++ ":" ++ id

/-! ## The platform -/

/-- The keys of Redis, and the time in milliseconds. -/
structure Platform where
  redis : Keyspace String String
  now : Nat

/-- The time in seconds, as tokens count it. -/
def Platform.clock (platform : Platform) : Nat := platform.now / 1000

/-- A method, call by call. -/
abbrev Method := Program Platform Exception

section Service

variable {Token : Type} (jwt : Jwt Token) (settings : Settings)

/-- `create`, which draws the identifier of the token. -/
def create (input : CreateInternalTokenInput) (jti : String) : Method Token :=
  Program.ask fun platform =>
    if settings.services.contains input.service then
      .ok (jwt.signAsync settings.current (input.claims settings.issuer settings.audience
        platform.clock settings.tokenTtlSeconds jti))
    else .error (.unauthorized "Internal service not allowed")

/-- The loop of `verify`: the first of the secrets that shows claims. -/
def firstClaims (token : Token) (expectedAudience : String) :
    List String → Method (Option InternalServiceClaims)
  | [] => pure none
  | secret :: rest => do
      let claims? ← Program.query fun platform =>
        jwt.verifyAsync secret settings.issuer expectedAudience platform.clock token
      match claims? with
      | some claims => pure (some claims)
      | none => firstClaims token expectedAudience rest

/-- `verify`. -/
def verify (token : Token) (expectedAudience : String) : Method InternalServiceClaims := do
  let claims? ← firstClaims jwt settings token expectedAudience settings.secrets
  match claims? with
  | some claims => do
      Program.ensure (settings.services.contains claims.service)
        (.unauthorized "Invalid internal service token")
      pure claims
  | none => Program.done (.error (.unauthorized "Invalid internal service token"))

/-- `markOnce`, which answers whether it has set the key. -/
def markOnce (settings : Settings) (keyspace id : String) (ttlSeconds : Nat) : Method Bool :=
  Program.write fun platform =>
    match platform.redis.putIfAbsent platform.now (settings.key keyspace id) "1"
        (platform.now + ttlSeconds * 1000) with
    | some redis => .ok (true, { platform with redis })
    | none => .ok (false, platform)

/-- `validate`. -/
def validate (token : Token) (expectedAudience : String) : Method InternalServiceClaims := do
  let claims ← verify jwt settings token expectedAudience
  let clock ← Program.query Platform.clock
  let fresh ← markOnce settings "internal-auth" claims.jti (max 1 (claims.exp - clock))
  Program.ensure fresh (.unauthorized "Internal token replay detected")
  pure claims

end Service

/-! ## Calls beside each other -/

/-- Time passes, or a token is validated. -/
inductive TokenRequest (Token : Type) where
  | wait (milliseconds : Nat)
  | validate (token : Token) (expectedAudience : String)

/-- How a request is answered: with claims, where a token is validated. -/
def answer {Token : Type} (jwt : Jwt Token) (settings : Settings) :
    TokenRequest Token → Method (Option InternalServiceClaims)
  | .wait milliseconds => do
      Program.write fun platform =>
        .ok ((), { platform with now := platform.now + milliseconds })
      pure none
  | .validate token expectedAudience => do
      let claims ← validate jwt settings token expectedAudience
      pure (some claims)

/-- A call has been answered with the claims. -/
def grants (claims : InternalServiceClaims) :
    Except Exception (Option InternalServiceClaims) → Bool
  | .ok (some granted) => granted = claims
  | _ => false

/-- The one use of the token with the claims, which the mark under its identifier stands for up to
the time from which the token is expired. -/
def ticket (settings : Settings) (claims : InternalServiceClaims) : Program.Ticket Platform where
  taken platform :=
    (platform.redis.get? platform.now (settings.key "internal-auth" claims.jti)).isSome = true
  kept platform :=
    platform.redis.HeldUntil platform.now (settings.key "internal-auth" claims.jti)
      (claims.exp * 1000)
  live platform := platform.now < claims.exp * 1000
  taken_of_kept platform kept := kept platform.now (Nat.le_refl platform.now)

instance (settings : Settings) (claims : InternalServiceClaims) (before reached : Platform) :
    Decidable ((ticket settings claims).Early before reached) :=
  inferInstanceAs (Decidable (¬ (before.redis.get? before.now _).isSome = true →
    (reached.redis.get? reached.now _).isSome = true → before.now < claims.exp * 1000))

/-- No time goes back. -/
def Platform.Precedes (before after : Platform) : Prop := before.now ≤ after.now

variable {Token : Type} {jwt : Jwt Token} {settings : Settings} {claims : InternalServiceClaims}
  {platform : Platform}

theorem firstClaims_looks (token : Token) (expectedAudience : String) (secrets : List String) :
    (firstClaims jwt settings token expectedAudience secrets).Each
      fun before reached => reached = before := by
  induction secrets with
  | nil => exact Program.each_pure
  | cons secret rest ih =>
      rw [firstClaims]
      apply Program.Each.bind
      · exact ⟨fun _ => rfl, fun _ => trivial⟩
      · intro claims?
        cases claims? with
        | none => exact ih
        | some claims => exact Program.each_pure

theorem verify_looks (token : Token) (expectedAudience : String) :
    (verify jwt settings token expectedAudience).Each fun before reached => reached = before := by
  apply (firstClaims_looks token expectedAudience settings.secrets).bind
  intro claims?
  cases claims? with
  | none => trivial
  | some claims => exact Program.each_ensure.bind fun _ => Program.each_pure

/-- The mark covers the token: it lasts until the token is expired. -/
theorem exp_le_mark {clock now exp : Nat} (read : clock ≤ now / 1000) :
    exp * 1000 ≤ now + max 1 (exp - clock) * 1000 := by
  omega

theorem Platform.precedes_refl (platform : Platform) : platform.Precedes platform :=
  Nat.le_refl platform.now

theorem Platform.precedes_trans {first second third : Platform} :
    first.Precedes second → second.Precedes third → first.Precedes third :=
  Nat.le_trans

/-- `validate` answers with claims only by the statement that has set their mark. -/
theorem validate_takes (token : Token) (expectedAudience : String) (store : Platform) :
    (validate jwt settings token expectedAudience).Takes (ticket settings claims)
      Platform.Precedes (fun result => grants claims (result.map some)) store := by
  refine Program.Takes.bind Platform.precedes_refl Platform.precedes_trans (fun _ => rfl)
    (verify_looks token expectedAudience) ?_
  intro shown found _ reader _
  left
  intro marker since
  cases setEq : marker.redis.putIfAbsent marker.now (settings.key "internal-auth" shown.jti) "1"
      (marker.now + max 1 (shown.exp - reader.clock) * 1000) with
  | none =>
      left
      dsimp only
      rw [setEq]
      rfl
  | some redis =>
      obtain ⟨absent, rfl⟩ := Keyspace.putIfAbsent_eq_some_iff.mp setEq
      dsimp only
      rw [setEq]
      by_cases same : shown = claims
      · subst same
        right
        have isLive : marker.now < marker.now + max 1 (shown.exp - reader.clock) * 1000 := by omega
        refine ⟨⟨_, rfl⟩, ?_, ?_, Keyspace.heldUntil_put (exp_le_mark (Nat.div_le_div_right since))⟩
        · change ¬ (marker.redis.get? marker.now _).isSome = true
          rw [absent]
          exact Bool.false_ne_true
        · change (Keyspace.get? _ _ _).isSome = true
          rw [Keyspace.get?_put, if_pos rfl, if_pos isLive]
          rfl
      · left
        exact decide_eq_false same

theorem answer_takes (request : TokenRequest Token) (store : Platform) :
    (answer jwt settings request).Takes (ticket settings claims) Platform.Precedes
      (grants claims) store := by
  cases request with
  | wait milliseconds =>
      intro found _
      left
      rfl
  | validate token expectedAudience =>
      exact (validate_takes token expectedAudience store).map fun _ => rfl

/-- No statement sets the clock back, or takes a mark away. -/
def Platform.Follows (claims : InternalServiceClaims) (settings : Settings)
    (before reached : Platform) : Prop :=
  before.Precedes reached ∧
    ((ticket settings claims).kept before → (ticket settings claims).kept reached)

theorem Platform.follows_refl (platform : Platform) :
    platform.Follows claims settings platform :=
  ⟨platform.precedes_refl, id⟩

theorem validate_each (token : Token) (expectedAudience : String) :
    (validate jwt settings token expectedAudience).Each (Platform.Follows claims settings) := by
  have looks : (verify jwt settings token expectedAudience).Each
      (Platform.Follows claims settings) := by
    apply (verify_looks token expectedAudience).mono
    intro before reached same
    rw [same]
    exact before.follows_refl
  refine looks.bind fun shown => (Program.each_query Platform.follows_refl).bind fun clock =>
    (Program.each_write Platform.follows_refl ?_).bind fun fresh =>
      Program.each_ensure.bind fun _ => Program.each_pure
  intro found isSet changed changeEq
  split at changeEq
  · rename_i redis setEq
    cases changeEq
    exact ⟨found.precedes_refl, fun kept => kept.putIfAbsent setEq⟩
  · cases changeEq
    exact found.follows_refl

theorem answer_each (request : TokenRequest Token) :
    (answer jwt settings request).Each (Platform.Follows claims settings) := by
  cases request with
  | wait milliseconds =>
      refine (Program.each_write Platform.follows_refl ?_).bind fun _ => Program.each_pure
      rintro found _ _ ⟨⟩
      exact ⟨Nat.le_add_right _ _, fun kept => kept.later (Nat.le_add_right _ _)⟩
  | validate token expectedAudience =>
      exact (validate_each token expectedAudience).bind fun _ => Program.each_pure

/-- **A token is good for one use.** Of any number of calls beside each other, at most one is
answered with the claims of a token, however often the token is shown and whatever else is, as
long as a token that is marked is marked before it expires. -/
theorem token_used_once (jwt : Jwt Token) (settings : Settings) (claims : InternalServiceClaims)
    {state reached : Sessions.State Platform (Method (Option InternalServiceClaims))}
    {actions : List (Sessions.Action (TokenRequest Token) Unit)} (idle : state.sessions = [])
    (early : (Program.beside (answer jwt settings)).step.Meets
      (Sessions.Guard (fun _ => True) (Program.NextMeets (ticket settings claims).Early)) state
      actions)
    (runEq : (Program.beside (answer jwt settings)).step.run state actions = some reached) :
    reached.sessions.countP (Program.Owns (grants claims)) ≤ 1 :=
  Program.taken_once Platform.precedes_refl Platform.precedes_trans answer_takes
    answer_each idle early runEq

/-! ## One call alone -/

theorem firstClaims_alone (token : Token) (expectedAudience : String) (secrets : List String) :
    (firstClaims jwt settings token expectedAudience secrets).alone platform =
      (.ok (secrets.findSome? fun secret =>
        jwt.verifyAsync secret settings.issuer expectedAudience platform.clock token),
        platform) := by
  induction secrets with
  | nil => rfl
  | cons secret rest ih =>
      rw [firstClaims, Program.alone_query_bind, List.findSome?_cons]
      cases jwt.verifyAsync secret settings.issuer expectedAudience platform.clock token with
      | none => exact ih
      | some claims => rfl

/-- What a signed token shows to a call. -/
theorem findSome?_signed (lawful : jwt.Lawful) (signed : String) (issuer audience : String)
    (clock : Nat) (secrets : List String) :
    (secrets.findSome? fun secret =>
      jwt.verifyAsync secret issuer audience clock (jwt.signAsync signed claims)) =
        if signed ∈ secrets ∧ claims.iss = issuer ∧ claims.aud = audience ∧ clock < claims.exp then
          some claims
        else none := by
  induction secrets with
  | nil => simp
  | cons secret rest ih =>
      rw [List.findSome?_cons, lawful, ih]
      by_cases same : secret = signed
      · by_cases shows : claims.iss = issuer ∧ claims.aud = audience ∧ clock < claims.exp
        · simp [same, shows]
        · simp [same, shows]
      · simp [same, Ne.symm same]

/-- The settings let a token with the claims pass, at a second. -/
structure Settings.Admits (settings : Settings) (signed expectedAudience : String) (clock : Nat)
    (claims : InternalServiceClaims) : Prop where
  secret : signed ∈ settings.secrets
  issuer : claims.iss = settings.issuer
  audience : claims.aud = expectedAudience
  notExpired : clock < claims.exp
  service : claims.service ∈ settings.services

theorem verify_signed (lawful : jwt.Lawful) (settings : Settings) (platform : Platform)
    (claims : InternalServiceClaims) (signed expectedAudience : String) :
    (settings.Admits signed expectedAudience platform.clock claims ∧
      (verify jwt settings (jwt.signAsync signed claims) expectedAudience).alone platform =
        (.ok claims, platform)) ∨
    (¬ settings.Admits signed expectedAudience platform.clock claims ∧ ∃ thrown,
      (verify jwt settings (jwt.signAsync signed claims) expectedAudience).alone platform =
        (.error thrown, platform)) := by
  have looked : (firstClaims jwt settings (jwt.signAsync signed claims) expectedAudience
      settings.secrets).alone platform = _ := firstClaims_alone _ _ _
  rw [findSome?_signed lawful] at looked
  rw [verify, Program.alone_bind, Effect.bind_of_ok looked]
  by_cases shows : signed ∈ settings.secrets ∧ claims.iss = settings.issuer ∧
      claims.aud = expectedAudience ∧ platform.clock < claims.exp
  · rw [if_pos shows]
    by_cases service : claims.service ∈ settings.services
    · have passed : (Effect.require (settings.services.contains claims.service)
          (.unauthorized "Invalid internal service token") :
            Effect Platform Exception Unit) platform = (.ok (), platform) := by
        rw [Effect.require, List.contains_iff_mem.mpr service]
        rfl
      exact Or.inl ⟨⟨shows.1, shows.2.1, shows.2.2.1, shows.2.2.2, service⟩,
        (congrFun Program.alone_bind platform).trans (Effect.bind_of_ok passed)⟩
    · have stopped : (Effect.require (settings.services.contains claims.service)
          (.unauthorized "Invalid internal service token") :
            Effect Platform Exception Unit) platform =
          (.error (.unauthorized "Invalid internal service token"), platform) := by
        rw [Effect.require, Bool.eq_false_iff.mpr (mt List.contains_iff_mem.mp service)]
        rfl
      exact Or.inr ⟨fun admits => service admits.service, _,
        (congrFun Program.alone_bind platform).trans
          (Effect.bind_eq_error_iff.mpr (Or.inl stopped))⟩
  · rw [if_neg shows]
    exact Or.inr ⟨fun admits => shows ⟨admits.secret, admits.issuer, admits.audience,
      admits.notExpired⟩, _, rfl⟩

/-- What a mark answers, and what it leaves. -/
theorem markOnce_alone (id : String) (ttlSeconds : Nat) :
    (markOnce settings "internal-auth" id ttlSeconds).alone platform =
      if (platform.redis.get? platform.now (settings.key "internal-auth" id)).isSome then
        (.ok false, platform)
      else
        (.ok true, { platform with
          redis := platform.redis.put (settings.key "internal-auth" id) "1"
            (platform.now + ttlSeconds * 1000) }) := by
  rw [markOnce]
  split
  · rename_i isHeld
    rw [Program.alone_write_eq_ok_iff, Keyspace.putIfAbsent, if_pos isHeld]
  · rename_i isFree
    rw [Program.alone_write_eq_ok_iff, Keyspace.putIfAbsent, if_neg isFree]

/-- The platform after a token has been used. -/
def Platform.use (platform : Platform) (settings : Settings) (claims : InternalServiceClaims) :
    Platform :=
  { platform with
    redis := platform.redis.put (settings.key "internal-auth" claims.jti) "1"
      (platform.now + max 1 (claims.exp - platform.clock) * 1000) }

/-- A call that is shown a signed token takes it exactly if the settings admit it and it has not
been used. -/
theorem validate_signed (lawful : jwt.Lawful) (settings : Settings) (platform : Platform)
    (claims : InternalServiceClaims) (signed expectedAudience : String) :
    (settings.Admits signed expectedAudience platform.clock claims ∧
        ¬ (ticket settings claims).taken platform ∧
      (validate jwt settings (jwt.signAsync signed claims) expectedAudience).alone platform =
        (.ok claims, platform.use settings claims)) ∨
    (¬ (settings.Admits signed expectedAudience platform.clock claims ∧
        ¬ (ticket settings claims).taken platform) ∧ ∃ thrown,
      (validate jwt settings (jwt.signAsync signed claims) expectedAudience).alone platform =
        (.error thrown, platform)) := by
  rw [validate, Program.alone_bind]
  rcases verify_signed lawful settings platform claims signed expectedAudience with
    ⟨admits, verified⟩ | ⟨refused, thrown, stopped⟩
  · rw [Effect.bind_of_ok verified, Program.alone_query_bind, Program.alone_bind]
    by_cases isTaken : (ticket settings claims).taken platform
    · rw [Effect.bind_of_ok ((markOnce_alone _ _).trans (if_pos isTaken))]
      exact Or.inr ⟨fun both => both.2 isTaken, _, rfl⟩
    · rw [Effect.bind_of_ok ((markOnce_alone _ _).trans (if_neg isTaken))]
      exact Or.inl ⟨admits, isTaken, rfl⟩
  · exact Or.inr ⟨fun both => refused both.1, thrown, Effect.bind_eq_error_iff.mpr (Or.inl stopped)⟩

theorem create_eq_ok_iff {minting : Settings} {input : CreateInternalTokenInput} {jti : String}
    {token : Token} {reached : Platform} :
    (create jwt minting input jti).alone platform = (.ok token, reached) ↔
      input.service ∈ minting.services ∧ reached = platform ∧
        token = jwt.signAsync minting.current (input.claims minting.issuer minting.audience
          platform.clock minting.tokenTtlSeconds jti) := by
  rw [create, Program.alone_ask, Effect.asking_eq_ok_iff]
  split
  · rename_i allowed
    simp [List.contains_iff_mem.mp allowed, eq_comm, and_comm]
  · rename_i refused
    simp [mt List.contains_iff_mem.mpr refused]

/-- **What is created is accepted, once.** A token that one service has created is accepted by
another just when the secret it was signed under is the current one there, or the one before,
issuer and audience agree, the service is allowed there, the token has not expired and has not
been used; and once it has been accepted it is never accepted again. -/
theorem created_token_accepted (lawful : jwt.Lawful) {minting settings : Settings}
    {input : CreateInternalTokenInput} {jti expectedAudience : String} {token : Token}
    {reached : Platform}
    (created : (create jwt minting input jti).alone platform = (.ok token, reached))
    (shown : Platform) :
    ((∃ claims used, (validate jwt settings token expectedAudience).alone shown =
        (.ok claims, used)) ↔
      minting.current ∈ settings.secrets ∧ minting.issuer = settings.issuer ∧
        minting.audience = expectedAudience ∧ input.service ∈ settings.services ∧
        shown.clock < platform.clock + minting.tokenTtlSeconds ∧
        shown.redis.get? shown.now (settings.key "internal-auth" jti) = none) ∧
    ∀ claims used, (validate jwt settings token expectedAudience).alone shown =
        (.ok claims, used) →
      ∀ later, used.Follows claims settings later → ∃ thrown,
        (validate jwt settings token expectedAudience).alone later = (.error thrown, later) := by
  obtain ⟨_, _, rfl⟩ := create_eq_ok_iff.mp created
  have shownCases := validate_signed lawful settings shown
    (input.claims minting.issuer minting.audience platform.clock minting.tokenTtlSeconds jti)
    minting.current expectedAudience
  constructor
  · rcases shownCases with ⟨admits, isFree, accepted⟩ | ⟨refused, thrown, stopped⟩
    · refine iff_of_true ⟨_, _, accepted⟩ ⟨admits.secret, admits.issuer, admits.audience,
        admits.service, admits.notExpired, ?_⟩
      exact Option.not_isSome_iff_eq_none.mp isFree
    · refine iff_of_false ?_ ?_
      · rintro ⟨claims, used, accepted⟩
        cases stopped.symm.trans accepted
      · rintro ⟨secret, issuer, audience, service, notExpired, isFree⟩
        refine refused ⟨⟨secret, issuer, audience, notExpired, service⟩, ?_⟩
        exact Option.not_isSome_iff_eq_none.mpr isFree
  · intro claims used accepted later follows
    rcases shownCases with ⟨_, _, granted⟩ | ⟨_, thrown, stopped⟩
    · cases granted.symm.trans accepted
      have isKept := follows.2 (Keyspace.heldUntil_put (exp_le_mark (Nat.le_refl shown.clock)))
      rcases validate_signed lawful settings later
          (input.claims minting.issuer minting.audience platform.clock minting.tokenTtlSeconds jti)
          minting.current expectedAudience with
        ⟨admits, isFree, _⟩ | ⟨_, refused⟩
      · have isLive := (Nat.div_lt_iff_lt_mul (by decide)).mp admits.notExpired
        exact absurd ((ticket settings _).taken_of_kept later isKept isLive) isFree
      · exact refused
    · cases stopped.symm.trans accepted

/-! ## Examples -/

/-- A library whose tokens show their secret and their claims. -/
def exampleJwt : Jwt (String × InternalServiceClaims) where
  signAsync := Prod.mk
  verifyAsync secret issuer audience clock token :=
    if secret = token.1 ∧ token.2.iss = issuer ∧ token.2.aud = audience ∧ clock < token.2.exp then
      some token.2
    else none

/-- The settings of a service, before its secret is exchanged and after. -/
def exampleSettings (current : String) (previous : Option String) : Settings :=
  ⟨"nestjs-platform", "fastapi-workers", current, previous, ["document-worker"], 300, "platform:"⟩

/-- What a worker asks a token for. -/
def exampleInput : CreateInternalTokenInput :=
  ⟨"document-worker", "org", none, none, "correlation", ["read"]⟩

/-- The claims of the token. -/
def exampleClaims : InternalServiceClaims :=
  exampleInput.claims "nestjs-platform" "fastapi-workers" 0 300 "token"

theorem exampleJwt_lawful : exampleJwt.Lawful :=
  fun _ _ _ _ _ _ => rfl

/-- A token made before the exchange is accepted after it. -/
theorem created_token_accepted_example :
    ∃ claims used, (validate exampleJwt (exampleSettings "new" (some "old"))
      ("old", exampleClaims) "fastapi-workers").alone ⟨[], 5000⟩ = (.ok claims, used) := by
  have created : (create exampleJwt (exampleSettings "old" none) exampleInput "token").alone
      ⟨[], 0⟩ = (.ok ("old", exampleClaims), ⟨[], 0⟩) := rfl
  apply (created_token_accepted exampleJwt_lawful created ⟨[], 5000⟩).1.mpr
  decide +kernel

/-- Two calls that are shown one token at a time. -/
def exampleCalls : List (Sessions.Action (TokenRequest (String × InternalServiceClaims)) Unit) :=
  List.replicate 2 (.start (.validate ("old", exampleClaims) "fastapi-workers")) ++
    (List.replicate 3 [.advance 0 (), .advance 1 ()]).flatten

/-- One of them is answered with the claims. -/
theorem token_used_once_example :
    ∃ reached, (Program.beside (answer exampleJwt (exampleSettings "old" none))).step.run
        ⟨⟨[], 0⟩, []⟩ exampleCalls = some reached ∧
      reached.sessions.countP (Program.Owns (grants exampleClaims)) ≤ 1 := by
  have early : (Program.beside (answer exampleJwt (exampleSettings "old" none))).step.Meets
      (Sessions.Guard (fun _ => True)
        (Program.NextMeets (ticket (exampleSettings "old" none) exampleClaims).Early))
      ⟨⟨[], 0⟩, []⟩ exampleCalls := by
    decide +kernel
  have taken : ((Program.beside (answer exampleJwt (exampleSettings "old" none))).step.run
      ⟨⟨[], 0⟩, []⟩ exampleCalls).isSome := by
    decide +kernel
  obtain ⟨reached, runEq⟩ := Option.isSome_iff_exists.mp taken
  exact ⟨reached, runEq, token_used_once exampleJwt _ exampleClaims rfl early runEq⟩

end Manbaa.InternalAuth
