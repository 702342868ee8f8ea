import Manbaa.Core.Http
import Manbaa.Lib.Except
import Manbaa.Lib.PercentEncoding

/-!
# Object paths of a workspace

The keys of stored objects come from clients too.  A key is decoded until decoding changes
nothing, and the result must lie below one of the two prefixes of the workspace: since the ids
of a context are UUIDs, no path lies below the prefixes of two contexts.
-/

namespace Manbaa.Storage

open Manbaa.Lib PercentEncoding

/-! ## Contexts -/

/-- A hexadecimal digit, in either case. -/
def isHexDigit (unit : UInt16) : Bool := (hexValue? unit).isSome

/-- The code unit of a character of ASCII. -/
def ascii (char : Char) : UInt16 := UInt16.ofNat char.toNat

/-- The text of a UUID, in either case: five groups of hexadecimal digits. -/
def isUuid (text : CodeUnits) : Bool :=
  (text.splitOn (ascii '-')).map List.length == [8, 4, 4, 4, 12] &&
    text.all fun unit => unit == ascii '-' || isHexDigit unit

/-- An id that is the text of a UUID. -/
structure UuidText where
  text : CodeUnits
  isUuid : isUuid text = true
  deriving DecidableEq

/-- `WorkspaceObjectContext`. -/
structure WorkspaceObjectContext where
  organizationId : UuidText
  workspaceId : UuidText
  deriving DecidableEq

/-! ## Validation -/

/-- The rounds that are left of the loop of `decodePathComponent`. -/
def decodePathComponentFrom : Nat → CodeUnits → Except Exception CodeUnits
  | 0, _ => .error (.badRequest "Object path is encoded too deeply")
  | depth + 1, decoded =>
      match decodeURIComponent decoded with
      | none => .error (.badRequest "Invalid object path encoding")
      | some next => if next = decoded then .ok decoded else decodePathComponentFrom depth next

/-- `decodePathComponent`. -/
def decodePathComponent (value : CodeUnits) : Except Exception CodeUnits :=
  decodePathComponentFrom 5 value

/-- `hasControlCharacter`. -/
def hasControlCharacter (value : CodeUnits) : Bool :=
  (CodeUnits.characters value).any fun character =>
    character.head?.any fun code => code < 32 || code == 127

/-- The path may not name an object, wherever it lies. -/
def isInvalidPath (decoded : CodeUnits) : Bool :=
  CodeUnits.byteLength decoded > 1024 ||
    decoded.head? == some (ascii '/') ||
    decoded.contains (ascii '\\') ||
    hasControlCharacter decoded ||
    (decoded.splitOn (ascii '/')).any fun p =>
      p.isEmpty || p == CodeUnits.ofString "." || p == CodeUnits.ofString ".."

/-- The prefixes of a context. -/
def tenantPrefixes (ctx : WorkspaceObjectContext) : List CodeUnits :=
  [ctx.organizationId.text ++ ascii '/' :: ctx.workspaceId.text ++ [ascii '/'],
    CodeUnits.ofString "organizations/" ++ ctx.organizationId.text ++
      CodeUnits.ofString "/workspaces/" ++ ctx.workspaceId.text ++ [ascii '/']]

/-- `WorkspaceStorageService`, as far as it validates paths: the names of its buckets. -/
structure WorkspaceStorageService where
  allowedBuckets : List String

/-- `validateWorkspaceObjectPath`. -/
def WorkspaceStorageService.validateWorkspaceObjectPath (service : WorkspaceStorageService)
    (ctx : WorkspaceObjectContext) (bucket : String) (key : CodeUnits) :
    Except Exception CodeUnits := do
  check (service.allowedBuckets.contains bucket) (.badRequest "Unsupported storage bucket")
  check (CodeUnits.byteLength key ≤ 1024) (.badRequest "Invalid object path")
  let decoded ← decodePathComponent key
  check (!isInvalidPath decoded) (.badRequest "Invalid object path")
  check ((tenantPrefixes ctx).any fun tenantPrefix => tenantPrefix.isPrefixOf decoded)
    (.forbidden "Object is outside workspace scope")
  return decoded

/-! ## The loop -/

/-- Some rounds of decoding, unless an escape is malformed. -/
def decodeRounds : Nat → CodeUnits → Option CodeUnits
  | 0, value => some value
  | rounds + 1, value => (decodeURIComponent value).bind (decodeRounds rounds)

variable {service : WorkspaceStorageService} {ctx first second : WorkspaceObjectContext}
  {bucket : String} {key path value : CodeUnits}

/-- Rounds do not leave a fixpoint. -/
theorem decodeRounds_of_fixed (fixed : decodeURIComponent value = some value) (rounds : Nat) :
    decodeRounds rounds value = some value := by
  induction rounds with
  | zero => rfl
  | succ rounds ih => rw [decodeRounds, fixed, Option.bind_some, ih]

/-- The loop ends well exactly if one of its rounds starts at a fixpoint. -/
theorem decodePathComponentFrom_eq_ok_iff {depth : Nat} :
    decodePathComponentFrom depth value = .ok path ↔
      ∃ rounds < depth, decodeRounds rounds value = some path ∧
        decodeURIComponent path = some path := by
  induction depth generalizing value with
  | zero =>
      constructor
      · intro decodedEq
        cases decodedEq
      · rintro ⟨rounds, impossible, _⟩
        cases impossible
  | succ depth ih =>
      rw [decodePathComponentFrom]
      cases nextEq : decodeURIComponent value with
      | none =>
          constructor
          · intro decodedEq
            cases decodedEq
          · rintro ⟨rounds, _, roundsEq, fixed⟩
            cases rounds with
            | zero =>
                cases roundsEq
                cases nextEq.symm.trans fixed
            | succ rounds =>
                rw [decodeRounds, nextEq] at roundsEq
                cases roundsEq
      | some next =>
          by_cases same : next = value
          · cases same
            simp only [↓reduceIte, Except.ok.injEq]
            constructor
            · rintro rfl
              exact ⟨0, Nat.succ_pos depth, rfl, nextEq⟩
            · rintro ⟨rounds, _, roundsEq, _⟩
              exact Option.some.inj ((decodeRounds_of_fixed nextEq rounds).symm.trans roundsEq)
          · simp only [if_neg same, ih]
            constructor
            · rintro ⟨rounds, inside, roundsEq, fixed⟩
              refine ⟨rounds + 1, Nat.succ_lt_succ inside, ?_, fixed⟩
              rw [decodeRounds, nextEq, Option.bind_some, roundsEq]
            · rintro ⟨rounds, inside, roundsEq, fixed⟩
              cases rounds with
              | zero =>
                  cases roundsEq
                  exact absurd (Option.some.inj (nextEq.symm.trans fixed)) same
              | succ rounds =>
                  rw [decodeRounds, nextEq, Option.bind_some] at roundsEq
                  exact ⟨rounds, Nat.lt_of_succ_lt_succ inside, roundsEq, fixed⟩

/-- A component is decoded exactly if at most four rounds reach a fixpoint. -/
theorem decodePathComponent_eq_ok_iff :
    decodePathComponent value = .ok path ↔
      ∃ rounds ≤ 4, decodeRounds rounds value = some path ∧
        decodeURIComponent path = some path := by
  simp only [decodePathComponent, decodePathComponentFrom_eq_ok_iff, Nat.lt_succ_iff]

/-! ## Segments -/

/-- The segments of a path. -/
def segments (path : CodeUnits) : List CodeUnits := path.splitOn (ascii '/')

/-- The segments of the prefixes of a context. -/
def tenantSegments (ctx : WorkspaceObjectContext) : List (List CodeUnits) :=
  [[ctx.organizationId.text, ctx.workspaceId.text],
    [CodeUnits.ofString "organizations", ctx.organizationId.text,
      CodeUnits.ofString "workspaces", ctx.workspaceId.text]]

theorem UuidText.mem_cases (id : UuidText) {unit : UInt16} (mem : unit ∈ id.text) :
    unit = ascii '-' ∨ isHexDigit unit = true := by
  have all := List.all_eq_true.mp (Bool.and_eq_true_iff.mp id.isUuid).2 unit mem
  rwa [Bool.or_eq_true, beq_iff_eq] at all

theorem UuidText.slash_notMem (id : UuidText) : ascii '/' ∉ id.text := by
  intro mem
  rcases id.mem_cases mem with hyphen | digit
  · exact absurd hyphen (by decide)
  · exact absurd digit (by decide)

/-- No id is the first segment of the other prefix. -/
theorem UuidText.ne_organizations (id : UuidText) :
    id.text ≠ CodeUnits.ofString "organizations" := by
  intro same
  have mem : ascii 'o' ∈ id.text := by
    rw [same]
    decide
  rcases id.mem_cases mem with hyphen | digit
  · exact absurd hyphen (by decide)
  · exact absurd digit (by decide)

theorem segments_cons {segment rest : CodeUnits} (plain : ascii '/' ∉ segment) :
    segments (segment ++ ascii '/' :: rest) = segment :: segments rest :=
  List.splitOn_append_cons_self_of_not_mem plain rest

/-- A path that starts with a prefix starts with its segments, and goes on. -/
theorem segments_of_prefix {tenantPrefix : CodeUnits} (mem : tenantPrefix ∈ tenantPrefixes ctx)
    (starts : tenantPrefix <+: path) :
    ∃ named ∈ tenantSegments ctx, ∃ rest, rest ≠ [] ∧ segments path = named ++ rest := by
  obtain ⟨rest, rfl⟩ := starts
  have later : segments rest ≠ [] := List.splitOn_ne_nil _ _
  rcases List.mem_cons.mp mem with rfl | mem
  · refine ⟨_, List.mem_cons_self .., segments rest, later, ?_⟩
    have shape : ctx.organizationId.text ++ ascii '/' :: ctx.workspaceId.text ++ [ascii '/'] ++ rest =
        ctx.organizationId.text ++ ascii '/' :: (ctx.workspaceId.text ++ ascii '/' :: rest) := by
      simp
    rw [shape, segments_cons ctx.organizationId.slash_notMem,
      segments_cons ctx.workspaceId.slash_notMem]
    rfl
  · rw [List.mem_singleton.mp mem]
    refine ⟨_, List.mem_cons_of_mem _ (List.mem_cons_self ..), segments rest, later, ?_⟩
    have organizations : CodeUnits.ofString "organizations/" =
        CodeUnits.ofString "organizations" ++ [ascii '/'] := by
      decide
    have workspaces : CodeUnits.ofString "/workspaces/" =
        ascii '/' :: CodeUnits.ofString "workspaces" ++ [ascii '/'] := by
      decide
    have shape : CodeUnits.ofString "organizations/" ++ ctx.organizationId.text ++
        CodeUnits.ofString "/workspaces/" ++ ctx.workspaceId.text ++ [ascii '/'] ++ rest =
        CodeUnits.ofString "organizations" ++ ascii '/' :: (ctx.organizationId.text ++ ascii '/' ::
          (CodeUnits.ofString "workspaces" ++ ascii '/' ::
            (ctx.workspaceId.text ++ ascii '/' :: rest))) := by
      rw [organizations, workspaces]
      simp
    rw [shape, segments_cons (by decide), segments_cons ctx.organizationId.slash_notMem,
      segments_cons (by decide), segments_cons ctx.workspaceId.slash_notMem]
    rfl

/-- The segments of a path name one context. -/
theorem context_unique {named other : List CodeUnits} {rest more : List CodeUnits}
    (mem : named ∈ tenantSegments first) (otherMem : other ∈ tenantSegments second)
    (same : named ++ rest = other ++ more) : first = second := by
  obtain ⟨firstOrganization, firstWorkspace⟩ := first
  obtain ⟨secondOrganization, secondWorkspace⟩ := second
  simp only [tenantSegments, List.mem_cons, List.not_mem_nil, or_false] at mem otherMem
  rcases mem with rfl | rfl <;> rcases otherMem with rfl | rfl <;>
    simp only [List.cons_append, List.cons.injEq] at same
  · cases firstOrganization
    cases secondOrganization
    cases firstWorkspace
    cases secondWorkspace
    cases same.1
    cases same.2.1
    rfl
  · exact absurd same.1 firstOrganization.ne_organizations
  · exact absurd same.1.symm secondOrganization.ne_organizations
  · cases firstOrganization
    cases secondOrganization
    cases firstWorkspace
    cases secondWorkspace
    cases same.2.1
    cases same.2.2.2.1
    rfl

/-! ## Accepted paths -/

/-- A path that names an object of a context, and nothing else. -/
structure SafePath (ctx : WorkspaceObjectContext) (path : CodeUnits) : Prop where
  named : ∀ segment ∈ segments path,
    segment ≠ [] ∧ segment ≠ CodeUnits.ofString "." ∧ segment ≠ CodeUnits.ofString ".."
  noBackslash : ascii '\\' ∉ path
  noControl : ∀ unit ∈ path, ¬ unit < 32 ∧ unit ≠ 127
  inScope : ∃ tenant ∈ tenantSegments ctx, ∃ rest, rest ≠ [] ∧ segments path = tenant ++ rest

theorem noControl_of_hasControlCharacter (clean : hasControlCharacter path = false) :
    ∀ unit ∈ path, ¬ unit < 32 ∧ unit ≠ 127 := by
  intro unit mem
  rw [← CodeUnits.flatten_characters path] at mem
  obtain ⟨character, characterMem, mem⟩ := List.mem_flatten.mp mem
  have own := List.any_eq_false.mp clean character characterMem
  rcases CodeUnits.character_cases characterMem with ⟨single, rfl⟩ | ⟨high, low, rfl, isHigh, isLow⟩
  · cases List.mem_singleton.mp mem
    simpa using own
  · rcases List.mem_cons.mp mem with rfl | mem
    · simpa using own
    · cases List.mem_singleton.mp mem
      have bound : 0xDC00 ≤ unit := of_decide_eq_true (Bool.and_eq_true_iff.mp isLow).1
      grind

theorem validateWorkspaceObjectPath_eq_ok_iff :
    service.validateWorkspaceObjectPath ctx bucket key = .ok path ↔
      bucket ∈ service.allowedBuckets ∧ CodeUnits.byteLength key ≤ 1024 ∧
        decodePathComponent key = .ok path ∧ isInvalidPath path = false ∧
        ∃ tenantPrefix ∈ tenantPrefixes ctx, tenantPrefix <+: path := by
  simp only [WorkspaceStorageService.validateWorkspaceObjectPath, except_bind_eq_ok_iff,
    check_eq_ok_iff, exists_done]
  constructor
  · rintro ⟨allowed, short, decoded, decodedEq, valid, starts, returned⟩
    cases returned
    obtain ⟨tenantPrefix, mem, isPrefix⟩ := List.any_eq_true.mp starts
    exact ⟨List.contains_iff_mem.mp allowed, of_decide_eq_true short, decodedEq,
      by simpa using valid, tenantPrefix, mem, List.isPrefixOf_iff_prefix.mp isPrefix⟩
  · rintro ⟨allowed, short, decodedEq, valid, tenantPrefix, mem, isPrefix⟩
    exact ⟨List.contains_iff_mem.mpr allowed, decide_eq_true short, path, decodedEq,
      by simpa using valid,
      List.any_eq_true.mpr ⟨tenantPrefix, mem, List.isPrefixOf_iff_prefix.mpr isPrefix⟩, rfl⟩

/-- An accepted path is a decoded one, safe and below a prefix of its context. -/
theorem safePath_of_validate
    (validated : service.validateWorkspaceObjectPath ctx bucket key = .ok path) :
    SafePath ctx path := by
  obtain ⟨_, _, _, valid, tenantPrefix, mem, starts⟩ :=
    validateWorkspaceObjectPath_eq_ok_iff.mp validated
  simp only [isInvalidPath, Bool.or_eq_false_iff] at valid
  obtain ⟨⟨⟨_, noBackslash⟩, noControl⟩, named⟩ := valid
  constructor
  · intro segment segmentMem
    have own := List.any_eq_false.mp named segment segmentMem
    simpa [and_assoc] using own
  · simpa using noBackslash
  · exact noControl_of_hasControlCharacter noControl
  · exact segments_of_prefix mem starts

/-- An accepted path is a fixpoint of decoding. -/
theorem fixed_of_validate
    (validated : service.validateWorkspaceObjectPath ctx bucket key = .ok path) :
    decodeURIComponent path = some path := by
  obtain ⟨_, _, decodedEq, _⟩ := validateWorkspaceObjectPath_eq_ok_iff.mp validated
  obtain ⟨_, _, _, fixed⟩ := decodePathComponent_eq_ok_iff.mp decodedEq
  exact fixed

/-- An accepted path has no escape left. -/
theorem percent_notMem_of_validate
    (validated : service.validateWorkspaceObjectPath ctx bucket key = .ok path) :
    percent ∉ path :=
  decode_eq_self_iff.mp (fixed_of_validate validated)

/-- An accepted path is accepted as it is. -/
theorem validate_of_validate
    (validated : service.validateWorkspaceObjectPath ctx bucket key = .ok path) :
    service.validateWorkspaceObjectPath ctx bucket path = .ok path := by
  have fixed := fixed_of_validate validated
  obtain ⟨allowed, _, _, valid, starts⟩ := validateWorkspaceObjectPath_eq_ok_iff.mp validated
  have short : CodeUnits.byteLength path ≤ 1024 := by
    simp only [isInvalidPath, Bool.or_eq_false_iff] at valid
    simpa using valid.1.1.1.1
  exact validateWorkspaceObjectPath_eq_ok_iff.mpr
    ⟨allowed, short, decodePathComponent_eq_ok_iff.mpr ⟨0, Nat.zero_le 4, rfl, fixed⟩, valid, starts⟩

/-- Two contexts for which a path is accepted are the same. -/
theorem context_of_validate {firstBucket secondBucket : String} {firstKey secondKey : CodeUnits}
    (inFirst : service.validateWorkspaceObjectPath first firstBucket firstKey = .ok path)
    (inSecond : service.validateWorkspaceObjectPath second secondBucket secondKey = .ok path) :
    first = second := by
  obtain ⟨named, mem, rest, _, segmentsEq⟩ := (safePath_of_validate inFirst).inScope
  obtain ⟨other, otherMem, more, _, otherEq⟩ := (safePath_of_validate inSecond).inScope
  exact context_unique mem otherMem (segmentsEq.symm.trans otherEq)

/-- Object paths are isolated between contexts: what is accepted is decoded, safe, below a
prefix of its context and accepted as it is; a key is decoded exactly if at most four rounds
reach a fixpoint; and no key is accepted for two contexts. -/
theorem objectPaths_isolated (service : WorkspaceStorageService) :
    (∀ ctx bucket key path, service.validateWorkspaceObjectPath ctx bucket key = .ok path →
      decodeURIComponent path = some path ∧ SafePath ctx path ∧
        service.validateWorkspaceObjectPath ctx bucket path = .ok path) ∧
    (∀ key path, decodePathComponent key = .ok path ↔
      ∃ rounds ≤ 4, decodeRounds rounds key = some path ∧ decodeURIComponent path = some path) ∧
    ∀ first second firstBucket secondBucket key firstPath secondPath,
      service.validateWorkspaceObjectPath first firstBucket key = .ok firstPath →
      service.validateWorkspaceObjectPath second secondBucket key = .ok secondPath →
      first = second := by
  refine ⟨?_, fun key path => decodePathComponent_eq_ok_iff, ?_⟩
  · intro ctx bucket key path validated
    exact ⟨fixed_of_validate validated, safePath_of_validate validated,
      validate_of_validate validated⟩
  · intro first second firstBucket secondBucket key firstPath secondPath inFirst inSecond
    obtain ⟨_, _, firstEq, _⟩ := validateWorkspaceObjectPath_eq_ok_iff.mp inFirst
    obtain ⟨_, _, secondEq, _⟩ := validateWorkspaceObjectPath_eq_ok_iff.mp inSecond
    cases firstEq.symm.trans secondEq
    exact context_of_validate inFirst inSecond

/-- The context of the example. -/
def exampleContext : WorkspaceObjectContext where
  organizationId := ⟨CodeUnits.ofString "0b8f5a3c-6d1e-4f2a-9c7b-8e4d2a1f0c63", by decide +kernel⟩
  workspaceId := ⟨CodeUnits.ofString "7C1D9E20-35AB-4c68-8f10-52b6e3d9a744", by decide +kernel⟩

/-- A key of which two rounds of decoding leave a path of the context. -/
def exampleKey : CodeUnits :=
  exampleContext.organizationId.text ++ CodeUnits.ofString "%2F" ++
    exampleContext.workspaceId.text ++ CodeUnits.ofString "/caf%25C3%25A9"

theorem objectPaths_isolated_example :
    ∃ path, WorkspaceStorageService.validateWorkspaceObjectPath ⟨["workspace-assets"]⟩
        exampleContext "workspace-assets" exampleKey = .ok path ∧
      SafePath exampleContext path := by
  have accepted : WorkspaceStorageService.validateWorkspaceObjectPath ⟨["workspace-assets"]⟩
      exampleContext "workspace-assets" exampleKey =
      .ok (exampleContext.organizationId.text ++ ascii '/' :: exampleContext.workspaceId.text ++
        CodeUnits.ofString "/café") := by
    decide +kernel
  exact ⟨_, accepted, ((objectPaths_isolated _).1 _ _ _ _ accepted).2.1⟩

end Manbaa.Storage
