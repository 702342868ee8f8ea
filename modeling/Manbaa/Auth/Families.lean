import Manbaa.Auth.Service
import Manbaa.Lib.Run

/-!
# Families of refresh tokens

The tokens that come from one login form a family.  A token that is presented again
after it was exchanged, or after its logout, is refused; the family is revoked in the
transaction that the refusal undoes.  So the family is refused for good just when none
of its tokens was alive before.
-/

namespace Manbaa.Auth

open Manbaa.Lib Manbaa.Lib.Effect

variable {settings : Settings} {now : Nat} {db after : AuthDb} {rawToken : RawToken}
  {tokenId familyId : Uuid} {user : User} {token other : RefreshToken}

/-! ## What the tables hold -/

/-- The row is that of a token that was issued. -/
def Signed (token : RefreshToken) : Prop :=
  ∃ payload, token.tokenHash = sha256 (.signed payload) ∧
    payload.sub = token.userId ∧ payload.tokenId = token.id ∧ payload.type = "refresh" ∧
    token.expiresAt = payload.exp * 1000

/-- The tokens are those that were issued, each to a user that is there. -/
structure Issued (db : AuthDb) : Prop where
  keyed : Table.Keyed RefreshToken.id db.tokens
  usersKeyed : Table.Keyed User.id db.users
  signed : ∀ token ∈ db.tokens, Signed token
  owned : ∀ token ∈ db.tokens, ∃ user ∈ db.users, user.id = token.userId

/-- The token is neither revoked nor expired, and its user is active. -/
def Alive (now : Nat) (db : AuthDb) (token : RefreshToken) : Prop :=
  token.revoked = false ∧ now < token.expiresAt ∧
    ∃ user ∈ db.users, user.id = token.userId ∧ user.isActive = true

/-- No token of the family is alive. -/
def Dead (now : Nat) (db : AuthDb) (familyId : Uuid) : Prop :=
  ∀ token ∈ db.tokens, token.familyId = familyId → ¬ Alive now db token

/-- The family has a token. -/
def Used (db : AuthDb) (familyId : Uuid) : Prop :=
  ∃ token ∈ db.tokens, token.familyId = familyId

/-! ## What refreshing does -/

theorem mem_of_presented {payload : RefreshPayload}
    (presentedEq : presented now rawToken payload db = some token) :
    token ∈ db.tokens ∧ token.id = payload.tokenId ∧ token.tokenHash = sha256 rawToken ∧
      now < token.expiresAt := by
  obtain ⟨found, usable⟩ := Option.filter_eq_some_iff.mp presentedEq
  simp only [Bool.and_eq_true, beq_iff_eq, decide_eq_true_eq] at usable
  exact ⟨Table.mem_of_get? found, Table.key_of_get? found, usable⟩

theorem activeUser_eq_some_iff {id : Uuid} :
    activeUser id db = some user ↔ db.user? id = some user ∧ user.isActive = true :=
  Option.filter_eq_some_iff

/-- The database after an exchange. -/
def exchanged (settings : Settings) (now : Nat) (tokenId : Uuid) (token : RefreshToken)
    (user : User) (db : AuthDb) : AuthDb :=
  (db.writeToken (refreshRow settings now tokenId user.id token.familyId)).writeToken
    { token.revoke now with replacedByTokenId := some tokenId }

/-- What an exchange returns. -/
def refreshed (settings : Settings) (now : Nat) (tokenId : Uuid) (token : RefreshToken)
    (user : User) : Refreshed :=
  { accessToken :=
      { sub := user.id
        orgId := user.orgId
        role := user.role
        type := "access"
        iat := now / 1000
        exp := now / 1000 + settings.accessTtl }
    refreshToken := .signed (refreshPayload settings now tokenId user.id token.familyId) }

/-- What a refresh that returns has checked, and what it has written. -/
theorem refresh_ok {pair : Refreshed}
    (refreshEq : refresh settings now tokenId rawToken db = (.ok pair, after)) :
    ∃ payload token user, verifyAsync now rawToken = some payload ∧ payload.type = "refresh" ∧
      presented now rawToken payload db = some token ∧ token.revoked = false ∧
      activeUser payload.sub db = some user ∧
      pair = refreshed settings now tokenId token user ∧
      after = exchanged settings now tokenId token user db := by
  obtain ⟨payload, _, verifyEq, restEq⟩ := bind_eq_ok_iff.mp refreshEq
  obtain ⟨verified, rfl⟩ := orThrow_eq_ok_iff.mp verifyEq
  obtain ⟨_, _, typeEq, exchangeEq⟩ := bind_eq_ok_iff.mp restEq
  obtain ⟨typed, rfl⟩ := require_eq_ok_iff.mp typeEq
  obtain ⟨_, _, readEq, restEq⟩ := bind_eq_ok_iff.mp (transaction_eq_ok_iff.mp exchangeEq)
  obtain ⟨rfl, rfl⟩ := reading_eq_ok_iff.mp readEq
  obtain ⟨token, _, foundEq, restEq⟩ := bind_eq_ok_iff.mp restEq
  obtain ⟨found, rfl⟩ := orThrow_eq_ok_iff.mp foundEq
  cases revokedEq : token.revoked with
  | true =>
      rw [if_pos revokedEq] at restEq
      obtain ⟨_, _, _, throwEq⟩ := bind_eq_ok_iff.mp restEq
      cases throwEq
  | false =>
      rw [if_neg (by simp [revokedEq])] at restEq
      obtain ⟨_, _, userReadEq, restEq⟩ := bind_eq_ok_iff.mp restEq
      obtain ⟨rfl, rfl⟩ := reading_eq_ok_iff.mp userReadEq
      obtain ⟨user, _, userEq, restEq⟩ := bind_eq_ok_iff.mp restEq
      obtain ⟨active, rfl⟩ := orThrow_eq_ok_iff.mp userEq
      obtain ⟨pair, _, issueEq, restEq⟩ := bind_eq_ok_iff.mp restEq
      obtain ⟨_, _, writeEq, pairEq⟩ := bind_eq_ok_iff.mp issueEq
      obtain rfl := writing_eq_ok_iff.mp writeEq
      obtain ⟨rfl, rfl⟩ := pure_eq_ok_iff.mp pairEq
      obtain ⟨_, _, saveEq, doneEq⟩ := bind_eq_ok_iff.mp restEq
      obtain rfl := writing_eq_ok_iff.mp saveEq
      obtain ⟨rfl, rfl⟩ := pure_eq_ok_iff.mp doneEq
      exact ⟨payload, token, user, verified, by simpa using typed, found, revokedEq, active, rfl,
        rfl⟩

/-- A refresh that finds everything in order returns. -/
theorem refresh_returns {payload : RefreshPayload}
    (verified : verifyAsync now rawToken = some payload) (typed : payload.type = "refresh")
    (found : presented now rawToken payload db = some token) (fresh : token.revoked = false)
    (active : activeUser payload.sub db = some user) :
    refresh settings now tokenId rawToken db =
      (.ok (refreshed settings now tokenId token user),
        exchanged settings now tokenId token user db) := by
  refine bind_eq_ok_iff.mpr ⟨payload, db, orThrow_eq_ok_iff.mpr ⟨verified, rfl⟩, ?_⟩
  refine bind_eq_ok_iff.mpr ⟨(), db, require_eq_ok_iff.mpr ⟨by simp [typed], rfl⟩, ?_⟩
  refine transaction_eq_ok_iff.mpr (bind_eq_ok_iff.mpr ⟨_, db, rfl, ?_⟩)
  refine bind_eq_ok_iff.mpr ⟨token, db, orThrow_eq_ok_iff.mpr ⟨found, rfl⟩, ?_⟩
  rw [if_neg (by simp [fresh])]
  refine bind_eq_ok_iff.mpr ⟨_, db, rfl, ?_⟩
  exact bind_eq_ok_iff.mpr ⟨user, db, orThrow_eq_ok_iff.mpr ⟨active, rfl⟩, rfl⟩

/-- A refresh that throws changes nothing: what it has revoked is rolled back. -/
theorem refresh_error {thrown : Exception}
    (refreshEq : refresh settings now tokenId rawToken db = (.error thrown, after)) :
    after = db := by
  rcases bind_eq_error_iff.mp refreshEq with verifyEq | ⟨payload, _, verifyEq, restEq⟩
  · exact (orThrow_eq_error_iff.mp verifyEq).2.2.symm
  · obtain ⟨_, rfl⟩ := orThrow_eq_ok_iff.mp verifyEq
    rcases bind_eq_error_iff.mp restEq with typeEq | ⟨_, _, typeEq, exchangeEq⟩
    · exact (require_eq_error_iff.mp typeEq).2.2.symm
    · obtain ⟨_, rfl⟩ := require_eq_ok_iff.mp typeEq
      exact (transaction_eq_error_iff.mp exchangeEq).1.symm

/-! ## What a write keeps -/

/-- A write keeps the tables as they were issued, and a family dead. -/
structure Moves (now : Nat) (familyId : Uuid) (db after : AuthDb) : Prop where
  issued : Issued db → Issued after
  dead : Issued db → Used db familyId → Dead now db familyId →
    Used after familyId ∧ Dead now after familyId

theorem Moves.refl (db : AuthDb) : Moves now familyId db db :=
  ⟨fun issued => issued, fun _ used dead => ⟨used, dead⟩⟩

theorem Moves.trans {middle : AuthDb} (first : Moves now familyId db middle)
    (second : Moves now familyId middle after) : Moves now familyId db after := by
  constructor
  · intro issued
    exact second.issued (first.issued issued)
  · intro issued used dead
    obtain ⟨usedThen, deadThen⟩ := first.dead issued used dead
    exact second.dead (first.issued issued) usedThen deadThen

/-- The other tables do not matter. -/
theorem Moves.of_eq (tokensEq : after.tokens = db.tokens) (usersEq : after.users = db.users) :
    Moves now familyId db after := by
  obtain ⟨_, _, _, _, _⟩ := db
  obtain ⟨_, _, _, _, _⟩ := after
  cases tokensEq
  cases usersEq
  exact ⟨fun issued => ⟨issued.keyed, issued.usersKeyed, issued.signed, issued.owned⟩,
    fun _ used dead => ⟨used, dead⟩⟩

/-- A user is saved who is as active as before, if there before. -/
theorem Moves.writeUser
    (same : ∀ old ∈ db.users, old.id = user.id → old.isActive = user.isActive) :
    Moves now familyId db (db.writeUser user) := by
  constructor
  · intro issued
    refine ⟨issued.keyed, Table.keyed_save issued.usersKeyed, issued.signed, ?_⟩
    intro token tokenMem
    obtain ⟨owner, ownerMem, ownerEq⟩ := issued.owned token tokenMem
    by_cases written : owner.id = user.id
    · exact ⟨user, Table.mem_save_iff.mpr (Or.inl rfl), written.symm.trans ownerEq⟩
    · exact ⟨owner, Table.mem_save_iff.mpr (Or.inr ⟨ownerMem, written⟩), ownerEq⟩
  · intro issued used dead
    refine ⟨used, ?_⟩
    intro token tokenMem inFamily alive
    obtain ⟨fresh, unexpired, owner, ownerMem, ownerEq, active⟩ := alive
    rcases Table.mem_save_iff.mp ownerMem with rfl | ⟨oldMem, _⟩
    · obtain ⟨old, oldMem, oldEq⟩ := issued.owned token tokenMem
      have sameActive := same old oldMem (oldEq.trans ownerEq.symm)
      exact dead token tokenMem inFamily
        ⟨fresh, unexpired, old, oldMem, oldEq, sameActive.trans active⟩
    · exact dead token tokenMem inFamily ⟨fresh, unexpired, owner, oldMem, ownerEq, active⟩

/-- The row is that of a token that was issued, to a user that is there. -/
structure Proper (db : AuthDb) (token : RefreshToken) : Prop where
  signed : Signed token
  owned : ∃ user ∈ db.users, user.id = token.userId

theorem Issued.proper (issued : Issued db) (tokenMem : token ∈ db.tokens) : Proper db token :=
  ⟨issued.signed token tokenMem, issued.owned token tokenMem⟩

/-- A token is saved, over none of another family. -/
theorem Moves.writeToken (proper : Issued db → Proper db token)
    (replaces : Issued db → ∀ old ∈ db.tokens, old.id = token.id → old.familyId = token.familyId)
    (apart : Issued db → Used db familyId → Dead now db familyId → token.familyId ≠ familyId) :
    Moves now familyId db (db.writeToken token) := by
  constructor
  · intro issued
    have each : ∀ other ∈ (db.writeToken token).tokens, Proper db other := by
      intro other otherMem
      rcases Table.mem_save_iff.mp otherMem with rfl | ⟨oldMem, _⟩
      · exact proper issued
      · exact issued.proper oldMem
    exact ⟨Table.keyed_save issued.keyed, issued.usersKeyed,
      fun other otherMem => (each other otherMem).signed,
      fun other otherMem => (each other otherMem).owned⟩
  · intro issued used dead
    have foreign := apart issued used dead
    constructor
    · obtain ⟨other, otherMem, inFamily⟩ := used
      have ne : other.id ≠ token.id := by
        intro same
        exact foreign ((replaces issued other otherMem same).symm.trans inFamily)
      exact ⟨other, Table.mem_save_iff.mpr (Or.inr ⟨otherMem, ne⟩), inFamily⟩
    · intro other otherMem inFamily
      rcases Table.mem_save_iff.mp otherMem with rfl | ⟨oldMem, _⟩
      · exact absurd inFamily foreign
      · exact dead other oldMem inFamily

/-- Tokens are revoked. -/
theorem Moves.revokeWhere (moment : Nat) (selected : RefreshToken → Bool) :
    Moves now familyId db (db.revokeWhere moment selected) := by
  have old : ∀ token ∈ (db.revokeWhere moment selected).tokens, ∃ before ∈ db.tokens,
      token = before ∨ token = before.revoke moment := by
    intro token tokenMem
    obtain ⟨before, beforeMem, tokenEq⟩ := List.mem_map.mp tokenMem
    split at tokenEq
    · exact ⟨before, beforeMem, Or.inr tokenEq.symm⟩
    · exact ⟨before, beforeMem, Or.inl tokenEq.symm⟩
  constructor
  · intro issued
    refine ⟨?_, issued.usersKeyed, ?_, ?_⟩
    · apply Table.keyed_map _ issued.keyed
      intro row
      split
      · rfl
      · rfl
    · intro token tokenMem
      obtain ⟨before, beforeMem, rfl | rfl⟩ := old token tokenMem
      · exact issued.signed _ beforeMem
      · exact issued.signed before beforeMem
    · intro token tokenMem
      obtain ⟨before, beforeMem, rfl | rfl⟩ := old token tokenMem
      · exact issued.owned _ beforeMem
      · exact issued.owned before beforeMem
  · intro issued used dead
    constructor
    · obtain ⟨token, tokenMem, inFamily⟩ := used
      refine ⟨_, List.mem_map.mpr ⟨token, tokenMem, rfl⟩, ?_⟩
      split
      · exact inFamily
      · exact inFamily
    · intro token tokenMem inFamily alive
      obtain ⟨before, beforeMem, rfl | rfl⟩ := old token tokenMem
      · exact dead _ beforeMem inFamily alive
      · cases alive.1

/-! ## What the calls keep -/

/-- A pair is issued to a user that is there, in a new family. -/
theorem issueTokenPair_moves (userMem : ∃ row ∈ db.users, row.id = user.id)
    (newId : ∀ old ∈ db.tokens, old.id ≠ tokenId) {issuedFamily : Uuid}
    (newFamily : ¬ Used db issuedFamily) :
    Moves now familyId db (issueTokenPair settings now tokenId user issuedFamily db).2 := by
  apply Moves.writeToken
  · intro _
    exact ⟨⟨_, rfl, rfl, rfl, rfl, rfl⟩, userMem⟩
  · intro _ old oldMem same
    exact absurd same (newId old oldMem)
  · rintro _ used _ rfl
    exact newFamily used

/-- The account of a registration. -/
theorem createAccount_ok {ids : RegisterIds} {email password : String}
    (createEq : createAccount settings ids email password db = (.ok user, after)) :
    user.id = ids.userId ∧ after.tokens = db.tokens ∧
      after.users = Table.save User.id db.users user := by
  obtain ⟨_, _, nameEq, restEq⟩ := bind_eq_ok_iff.mp (transaction_eq_ok_iff.mp createEq)
  obtain ⟨_, rfl⟩ := asking_eq_ok_iff.mp nameEq
  obtain ⟨_, _, organizationEq, restEq⟩ := bind_eq_ok_iff.mp restEq
  obtain rfl := writing_eq_ok_iff.mp organizationEq
  obtain ⟨_, _, emailEq, restEq⟩ := bind_eq_ok_iff.mp restEq
  obtain ⟨_, rfl⟩ := asking_eq_ok_iff.mp emailEq
  obtain ⟨_, _, userEq, restEq⟩ := bind_eq_ok_iff.mp restEq
  obtain rfl := writing_eq_ok_iff.mp userEq
  obtain ⟨_, _, memberEq, pureEq⟩ := bind_eq_ok_iff.mp restEq
  obtain rfl := writing_eq_ok_iff.mp memberEq
  obtain ⟨rfl, rfl⟩ := pure_eq_ok_iff.mp pureEq
  exact ⟨rfl, rfl, rfl⟩

theorem register_moves {ids : RegisterIds} {dto : Credentials} {client : ClientMeta}
    (newUser : ∀ old ∈ db.users, old.id ≠ ids.userId)
    (newId : ∀ old ∈ db.tokens, old.id ≠ ids.tokenId) (newFamily : ¬ Used db ids.familyId) :
    Moves now familyId db (register settings now ids dto client db).2 := by
  apply readOnly_reading.after_bind (Moves.refl db)
  intro taken _
  apply readOnly_require.after_bind (Moves.refl db)
  intro _ _
  apply after_bind
  · intro thrown middle createEq
    rw [← (transaction_eq_error_iff.mp createEq).1]
    exact Moves.refl db
  · intro user created createEq
    obtain ⟨idEq, tokensEq, usersEq⟩ := createAccount_ok createEq
    have saved : Moves now familyId db (db.writeUser user) := by
      apply Moves.writeUser
      intro old oldMem same
      exact absurd (same.trans idEq) (newUser old oldMem)
    have recorded : Moves now familyId (db.writeUser user) (recordLogin (some user.id) true client
        created).2 := Moves.of_eq tokensEq usersEq
    apply (saved.trans recorded).trans
    apply issueTokenPair_moves
    · refine ⟨user, ?_, rfl⟩
      change user ∈ created.users
      rw [usersEq]
      exact Table.mem_save_iff.mpr (Or.inl rfl)
    · change ∀ old ∈ created.tokens, _
      rw [tokensEq]
      exact newId
    · rw [Used]
      change ¬ ∃ token ∈ created.tokens, _
      rw [tokensEq]
      exact newFamily

theorem login_moves {dto : Credentials} {client : ClientMeta} {newFamily : Uuid}
    (newId : ∀ old ∈ db.tokens, old.id ≠ tokenId) (unused : ¬ Used db newFamily) :
    Moves now familyId db (login settings now newFamily tokenId dto client db).2 := by
  apply readOnly_reading.after_bind (Moves.refl db)
  intro found foundEq
  obtain ⟨foundEq, _⟩ := reading_eq_ok_iff.mp foundEq
  apply after_bind
  · intro thrown middle recordEq
    cases recordEq
  · intro _ middle recordEq
    have writtenEq := writing_eq_ok_iff.mp recordEq
    have tokensEq : middle.tokens = db.tokens := by rw [← writtenEq]
    have usersEq : middle.users = db.users := by rw [← writtenEq]
    have recorded : Moves now familyId db middle := Moves.of_eq tokensEq usersEq
    apply readOnly_orThrow.after_bind recorded
    intro user userEq
    have present := (orThrow_eq_ok_iff.mp userEq).1
    rw [← foundEq] at present
    have userMem := List.mem_of_find?_eq_some (Option.filter_eq_some_iff.mp present).1
    apply recorded.trans
    apply issueTokenPair_moves
    · rw [usersEq]
      exact ⟨user, userMem, rfl⟩
    · rw [tokensEq]
      exact newId
    · rw [Used, tokensEq]
      exact unused

/-- A token that is presented is that of the user it names. -/
theorem sub_eq_of_presented {payload : RefreshPayload}
    (signed : Signed token) (verified : verifyAsync now rawToken = some payload)
    (found : presented now rawToken payload db = some token) : payload.sub = token.userId := by
  obtain ⟨_, _, hashEq, _⟩ := mem_of_presented found
  obtain ⟨said, saidEq, subEq, _⟩ := signed
  have rawEq : rawToken = .signed said := by
    rw [saidEq] at hashEq
    exact (Digest.mk.inj hashEq).symm
  have payloadEq : payload = said := by
    rw [rawEq, verifyAsync] at verified
    split at verified
    · exact (Option.some.inj verified).symm
    · cases verified
  rw [payloadEq, subEq]

/-- A token that is exchanged is alive. -/
theorem alive_of_refresh {payload : RefreshPayload}
    (signed : Signed token) (verified : verifyAsync now rawToken = some payload)
    (found : presented now rawToken payload db = some token) (fresh : token.revoked = false)
    (active : activeUser payload.sub db = some user) : Alive now db token := by
  obtain ⟨userEq, activeEq⟩ := activeUser_eq_some_iff.mp active
  have ownerEq : user.id = token.userId :=
    (Table.key_of_get? userEq).trans (sub_eq_of_presented signed verified found)
  exact ⟨fresh, (mem_of_presented found).2.2.2, user, Table.mem_of_get? userEq, ownerEq, activeEq⟩

theorem refresh_moves (newId : ∀ old ∈ db.tokens, old.id ≠ tokenId) :
    Moves now familyId db (refresh settings now tokenId rawToken db).2 := by
  rcases refreshEq : refresh settings now tokenId rawToken db with ⟨thrown | pair, after⟩
  · rw [refresh_error refreshEq]
    exact Moves.refl db
  · obtain ⟨payload, token, user, verified, _, found, fresh, active, _, rfl⟩ :=
      refresh_ok refreshEq
    have alive := fun signed => alive_of_refresh signed verified found fresh active
    have tokenMem := (mem_of_presented found).1
    have userMem := Table.mem_of_get? (activeUser_eq_some_iff.mp active).1
    have issues : Moves now familyId db
        (db.writeToken (refreshRow settings now tokenId user.id token.familyId)) := by
      apply Moves.writeToken
      · intro _
        exact ⟨⟨_, rfl, rfl, rfl, rfl, rfl⟩, user, userMem, rfl⟩
      · intro _ old oldMem same
        exact absurd same (newId old oldMem)
      · intro issued _ dead same
        exact dead token tokenMem same (alive (issued.signed token tokenMem))
    apply issues.trans
    have kept : token ∈ (db.writeToken
        (refreshRow settings now tokenId user.id token.familyId)).tokens :=
      Table.mem_save_iff.mpr (Or.inr ⟨tokenMem, newId token tokenMem⟩)
    apply Moves.writeToken
    · intro issued
      exact ⟨(issued.proper kept).signed, (issued.proper kept).owned⟩
    · intro issued old oldMem same
      rw [issued.keyed.eq oldMem kept same]
      rfl
    · intro issued _ dead same
      exact dead token kept same (alive (issued.signed token kept))

/-- A password is asked for by a user that is there. -/
theorem requestPasswordReset_moves {secret email : String} (issued : Issued db) :
    Moves now familyId db (requestPasswordReset settings now secret email db).2 := by
  apply readOnly_reading.after_bind (Moves.refl db)
  intro found foundEq
  obtain ⟨foundEq, _⟩ := reading_eq_ok_iff.mp foundEq
  cases found with
  | none => exact Moves.refl db
  | some user =>
      have userMem := List.mem_of_find?_eq_some foundEq
      apply Moves.writeUser
      intro old oldMem same
      rw [issued.usersKeyed.eq oldMem userMem same]

theorem resetPassword_moves {secret password : String} (issued : Issued db) :
    Moves now familyId db (resetPassword settings now secret password db).2 := by
  apply readOnly_reading.after_bind (Moves.refl db)
  intro found foundEq
  obtain ⟨foundEq, _⟩ := reading_eq_ok_iff.mp foundEq
  apply readOnly_orThrow.after_bind (Moves.refl db)
  intro user userEq
  have present := (orThrow_eq_ok_iff.mp userEq).1
  rw [← foundEq] at present
  have userMem := List.mem_of_find?_eq_some (Option.filter_eq_some_iff.mp present).1
  have written : Moves now familyId db
      (db.writeUser (user.withPassword (settings.hashPassword password))) := by
    apply Moves.writeUser
    intro old oldMem same
    rw [issued.usersKeyed.eq oldMem userMem same]
    rfl
  exact written.trans (Moves.revokeWhere now _)

/-! ## Runs of calls -/

/-- A call, or the passage of time. -/
inductive Call where
  | wait (duration : Nat)
  | register (ids : RegisterIds) (dto : Credentials) (client : ClientMeta)
  | login (familyId tokenId : Uuid) (dto : Credentials) (client : ClientMeta)
  | refresh (tokenId : Uuid) (rawToken : RawToken)
  | logout (rawToken : RawToken)
  | logoutAll (userId : Uuid)
  | requestPasswordReset (token email : String)
  | resetPassword (token password : String)
  deriving DecidableEq

/-- The moment and the tables. -/
structure AuthState where
  now : Nat
  db : AuthDb
  deriving DecidableEq

/-- The identifiers that a call draws are new. -/
def Call.fresh (db : AuthDb) : Call → Bool
  | .register ids _ _ =>
      db.users.all (·.id != ids.userId) && db.tokens.all (·.id != ids.tokenId) &&
        db.tokens.all (·.familyId != ids.familyId)
  | .login familyId tokenId _ _ =>
      db.tokens.all (·.id != tokenId) && db.tokens.all (·.familyId != familyId)
  | .refresh tokenId _ => db.tokens.all (·.id != tokenId)
  | _ => true

/-- The tables after a call. -/
def Call.perform (settings : Settings) (now : Nat) (db : AuthDb) : Call → AuthDb
  | .wait _ => db
  | .register ids dto client => (Auth.register settings now ids dto client db).2
  | .login familyId tokenId dto client =>
      (Auth.login settings now familyId tokenId dto client db).2
  | .refresh tokenId rawToken => (Auth.refresh settings now tokenId rawToken db).2
  | .logout rawToken => (Auth.logout now rawToken db).2
  | .logoutAll userId => (Auth.logoutAll now userId db).2
  | .requestPasswordReset token email =>
      (Auth.requestPasswordReset settings now token email db).2
  | .resetPassword token password => (Auth.resetPassword settings now token password db).2

/-- The moment after a call. -/
def Call.later (now : Nat) : Call → Nat
  | .wait duration => now + duration
  | _ => now

/-- One call. -/
def step (settings : Settings) : Step AuthState Call := fun state call =>
  if call.fresh state.db then
    some ⟨call.later state.now, call.perform settings state.now state.db⟩
  else none

theorem step_eq_some_iff {state next : AuthState} {call : Call} :
    step settings state call = some next ↔ call.fresh state.db = true ∧
      next = ⟨call.later state.now, call.perform settings state.now state.db⟩ := by
  by_cases fresh : call.fresh state.db = true
  · rw [step, if_pos fresh, Option.some.injEq, eq_comm]
    exact (and_iff_right fresh).symm
  · simp [step, fresh]

/-- What one call keeps. -/
theorem Call.moves {call : Call} (issued : Issued db) (fresh : call.fresh db = true) :
    Moves now familyId db (call.perform settings now db) := by
  cases call with
  | wait duration => exact Moves.refl db
  | register ids dto client =>
      simp only [Call.fresh, Bool.and_eq_true, List.all_eq_true, bne_iff_ne] at fresh
      obtain ⟨⟨newUser, newId⟩, newFamily⟩ := fresh
      exact register_moves newUser newId fun ⟨token, tokenMem, same⟩ => newFamily token tokenMem same
  | login familyId tokenId dto client =>
      simp only [Call.fresh, Bool.and_eq_true, List.all_eq_true, bne_iff_ne] at fresh
      exact login_moves fresh.1 fun ⟨token, tokenMem, same⟩ => fresh.2 token tokenMem same
  | refresh tokenId rawToken =>
      simp only [Call.fresh, List.all_eq_true, bne_iff_ne] at fresh
      exact refresh_moves fresh
  | logout rawToken => exact Moves.revokeWhere now _
  | logoutAll userId => exact Moves.revokeWhere now _
  | requestPasswordReset token email => exact requestPasswordReset_moves issued
  | resetPassword token password => exact resetPassword_moves issued

/-- The tables stay as they are issued. -/
theorem issued_step {state next : AuthState} {call : Call} (issued : Issued state.db)
    (stepEq : step settings state call = some next) : Issued next.db := by
  obtain ⟨fresh, rfl⟩ := step_eq_some_iff.mp stepEq
  have moves : Moves state.now (uuid "") state.db (call.perform settings state.now state.db) :=
    Call.moves issued fresh
  exact moves.issued issued

/-- The family has a token, and none that is alive. -/
def Ended (familyId : Uuid) (state : AuthState) : Prop :=
  Issued state.db ∧ Used state.db familyId ∧ Dead state.now state.db familyId

/-- Time revives no token. -/
theorem Dead.later {moment : Nat} (dead : Dead now db familyId) (le : now ≤ moment) :
    Dead moment db familyId := by
  intro token tokenMem inFamily alive
  exact dead token tokenMem inFamily ⟨alive.1, Nat.lt_of_le_of_lt le alive.2.1, alive.2.2⟩

/-- A family that has ended stays so. -/
theorem ended_step {state next : AuthState} {call : Call} (ended : Ended familyId state)
    (stepEq : step settings state call = some next) : Ended familyId next := by
  obtain ⟨issued, used, dead⟩ := ended
  obtain ⟨fresh, rfl⟩ := step_eq_some_iff.mp stepEq
  have moves : Moves state.now familyId state.db (call.perform settings state.now state.db) :=
    Call.moves issued fresh
  obtain ⟨usedThen, deadThen⟩ := moves.dead issued used dead
  refine ⟨moves.issued issued, usedThen, deadThen.later ?_⟩
  cases call with
  | wait duration => exact Nat.le_add_right _ _
  | _ => exact Nat.le_refl _

/-! ## Reuse -/

/-- A revoked token of the family is presented before it expires. -/
def Reused (state : AuthState) (rawToken : RawToken) (familyId : Uuid) : Prop :=
  ∃ payload token, verifyAsync state.now rawToken = some payload ∧
    presented state.now rawToken payload state.db = some token ∧ token.revoked = true ∧
    token.familyId = familyId

/-- A refresh exchanges a token of the family. -/
def Accepts (settings : Settings) (state : AuthState) (rawToken : RawToken) (familyId : Uuid) :
    Prop :=
  ∃ payload token tokenId pair after, verifyAsync state.now rawToken = some payload ∧
    presented state.now rawToken payload state.db = some token ∧ token.familyId = familyId ∧
    refresh settings state.now tokenId rawToken state.db = (.ok pair, after)

/-- Some token of the family is accepted exactly while one is alive. -/
theorem accepts_iff {state : AuthState} (issued : Issued state.db) :
    (∃ rawToken, Accepts settings state rawToken familyId) ↔
      ¬ Dead state.now state.db familyId := by
  constructor
  · rintro ⟨rawToken, payload, token, tokenId, pair, after, verified, found, inFamily, refreshEq⟩
    intro dead
    obtain ⟨said, other, user, saidEq, _, otherEq, fresh, active, _⟩ := refresh_ok refreshEq
    cases verified.symm.trans saidEq
    cases found.symm.trans otherEq
    have tokenMem := (mem_of_presented found).1
    exact dead token tokenMem inFamily
      (alive_of_refresh (issued.signed token tokenMem) verified found fresh active)
  · intro living
    simp only [Dead, Alive, not_forall, not_not] at living
    obtain ⟨token, tokenMem, inFamily, fresh, unexpired, user, userMem, ownerEq, active⟩ :=
      living
    obtain ⟨payload, hashEq, subEq, idEq, typed, expiresEq⟩ := issued.signed token tokenMem
    have verified : verifyAsync state.now (.signed payload) = some payload := by
      rw [verifyAsync, if_pos (by omega)]
    have found : presented state.now (.signed payload) payload state.db = some token := by
      apply Option.filter_eq_some_iff.mpr
      constructor
      · rw [idEq]
        exact issued.keyed.get?_of_mem tokenMem
      · simp [hashEq, unexpired]
    have activeEq : activeUser payload.sub state.db = some user := by
      apply activeUser_eq_some_iff.mpr
      rw [subEq, ← ownerEq]
      exact ⟨issued.usersKeyed.get?_of_mem userMem, active⟩
    exact ⟨_, payload, token, token.id, _, _, verified, found, inFamily,
      refresh_returns verified typed found fresh activeEq⟩

/-- A refresh with a revoked token throws. -/
theorem step_reused {state next : AuthState} (reused : Reused state rawToken familyId)
    (stepEq : step settings state (.refresh tokenId rawToken) = some next) : next = state := by
  obtain ⟨payload, token, verified, found, revoked, _⟩ := reused
  obtain ⟨_, rfl⟩ := step_eq_some_iff.mp stepEq
  rcases refreshEq : refresh settings state.now tokenId rawToken state.db with ⟨thrown | pair, after⟩
  · rw [Call.perform, refreshEq, refresh_error refreshEq]
    rfl
  · obtain ⟨said, other, user, saidEq, _, otherEq, fresh, _⟩ := refresh_ok refreshEq
    cases verified.symm.trans saidEq
    cases found.symm.trans otherEq
    rw [revoked] at fresh
    cases fresh

/-- After a reuse in a run of calls, no token of the family is accepted any more, whatever
is called, exactly if none was alive when the reuse was noticed. -/
theorem reuse_final_iff {start middle next : AuthState} {calls : List Call}
    (issued : Issued start.db) (runEq : (step settings).run start calls = some middle)
    (reused : Reused middle rawToken familyId)
    (refreshEq : step settings middle (.refresh tokenId rawToken) = some next) :
    (∀ later final, (step settings).run next later = some final →
        ∀ other, ¬ Accepts settings final other familyId) ↔
      Dead middle.now middle.db familyId := by
  have keeps : ∀ (state : AuthState) call (next : AuthState), Issued state.db →
      step settings state call = some next → Issued next.db := fun _ _ _ => issued_step
  have reached : Issued middle.db := Step.invariant_of_run keeps issued runEq
  have same := step_reused reused refreshEq
  subst same
  constructor
  · intro refused
    by_contra living
    obtain ⟨other, accepts⟩ := (accepts_iff reached).mpr living
    exact refused [] next rfl other accepts
  · intro dead later final laterEq other accepts
    obtain ⟨payload, token, _, found, _, inFamily⟩ := reused
    have ended : Ended familyId next :=
      ⟨reached, ⟨token, (mem_of_presented found).1, inFamily⟩, dead⟩
    have ending : Ended familyId final :=
      Step.invariant_of_run (fun _ _ _ => ended_step) ended laterEq
    exact (accepts_iff ending.1).mp ⟨other, accepts⟩ ending.2.2

/-! ## A token that is used again -/

def exampleSettings : Settings where
  normalizeEmail := fun email => email
  hashPassword := fun password => password
  verifyPassword := fun passwordHash password => passwordHash == password
  accessTtl := 900
  refreshTtl := 604800
  production := false

/-- The payloads of the tokens that a registration and the exchange of its token make. -/
def examplePayload (tokenId : String) : RefreshPayload :=
  refreshPayload exampleSettings 0 (uuid tokenId) (uuid "u") (uuid "f")

/-- A registration, and the exchange of its token. -/
def exampleCalls : List Call :=
  [.register ⟨uuid "o", uuid "u", uuid "f", uuid "t1", "12345678"⟩
      ⟨"ann@example.org", "correct horse"⟩ ⟨none, none⟩,
    .refresh (uuid "t2") (.signed (examplePayload "t1"))]

def exampleStart : AuthState := ⟨0, ⟨[], [], [], [], []⟩⟩

def exampleState : AuthState :=
  ((step exampleSettings).run exampleStart exampleCalls).getD exampleStart

def exampleUser : User where
  id := uuid "u"
  email := "ann@example.org"
  passwordHash := "correct horse"
  role := .admin
  orgId := uuid "o"
  isVerified := false
  isActive := true
  passwordResetTokenHash := none
  passwordResetExpiresAt := none

theorem issued_exampleStart : Issued exampleStart.db where
  keyed := Table.keyed_nil
  usersKeyed := Table.keyed_nil
  signed := by simp [exampleStart]
  owned := by simp [exampleStart]

theorem run_exampleCalls :
    (step exampleSettings).run exampleStart exampleCalls = some exampleState := by
  decide +kernel

/-- The first token is presented once more. -/
theorem reused_example : Reused exampleState (.signed (examplePayload "t1")) (uuid "f") := by
  refine ⟨examplePayload "t1", _, ?_, Option.eq_some_of_isSome ?_, ?_, ?_⟩
  all_goals decide +kernel

theorem step_reused_example : step exampleSettings exampleState
    (.refresh (uuid "t3") (.signed (examplePayload "t1"))) = some exampleState := by
  decide +kernel

theorem reuse_final_example :
    (∀ later final, (step exampleSettings).run exampleState later = some final →
        ∀ other, ¬ Accepts exampleSettings final other (uuid "f")) ↔
      Dead exampleState.now exampleState.db (uuid "f") :=
  reuse_final_iff issued_exampleStart run_exampleCalls reused_example step_reused_example

/-- The reuse is noticed, and the second token is still exchanged after it. -/
theorem reused_family_survives :
    Reused exampleState (.signed (examplePayload "t1")) (uuid "f") ∧
      (refresh exampleSettings 0 (uuid "t3") (.signed (examplePayload "t1")) exampleState.db).1 =
        .error (.unauthorized "Refresh token reuse detected") ∧
      step exampleSettings exampleState
        (.refresh (uuid "t3") (.signed (examplePayload "t1"))) = some exampleState ∧
      Accepts exampleSettings exampleState (.signed (examplePayload "t2")) (uuid "f") := by
  refine ⟨reused_example, by decide +kernel, step_reused_example, ?_⟩
  have verified : verifyAsync 0 (.signed (examplePayload "t2")) = some (examplePayload "t2") := by
    decide +kernel
  have found : presented 0 (.signed (examplePayload "t2")) (examplePayload "t2")
      exampleState.db =
        some (refreshRow exampleSettings 0 (uuid "t2") (uuid "u") (uuid "f")) := by
    decide +kernel
  have active : activeUser (uuid "u") exampleState.db = some exampleUser := by decide +kernel
  exact ⟨_, _, uuid "t3", _, _, verified, found, rfl,
    refresh_returns verified rfl found rfl active⟩

end Manbaa.Auth
