import Manbaa.Storage.ObjectPath

/-!
# Paths of sources

The key of an uploaded source is put together from ids and a file name, each of which is
validated as a segment.  A plain name is one that needs no second look: every path of plain
names is an accepted one.
-/

namespace Manbaa.Storage

open Manbaa.Lib PercentEncoding

/-- `validateSegment`. -/
def validateSegment (value : CodeUnits) : Except Exception Unit := do
  let decoded ← decodePathComponent value
  check
    (!(decoded.isEmpty || decoded == CodeUnits.ofString "." ||
      decoded == CodeUnits.ofString ".." || decoded.contains (ascii '/') ||
      decoded.contains (ascii '\\') || hasControlCharacter decoded))
    (.badRequest "Invalid path segment")

/-- `buildSourceObjectPath`. -/
def buildSourceObjectPath (ctx : WorkspaceObjectContext)
    (sourceId sourceVersionId filename : CodeUnits) : Except Exception CodeUnits := do
  [CodeUnits.ofString "organizations", ctx.organizationId.text, CodeUnits.ofString "workspaces",
    ctx.workspaceId.text, CodeUnits.ofString "sources", sourceId, CodeUnits.ofString "versions",
    sourceVersionId, filename].forM validateSegment
  return CodeUnits.ofString "organizations/" ++ ctx.organizationId.text ++
    CodeUnits.ofString "/workspaces/" ++ ctx.workspaceId.text ++ CodeUnits.ofString "/sources/" ++
    sourceId ++ CodeUnits.ofString "/versions/" ++ sourceVersionId ++ CodeUnits.ofString "/" ++
    filename

/-! ## Plain names -/

/-- A letter, a digit, a dot, an underscore or a hyphen. -/
def isNameUnit (unit : UInt16) : Bool :=
  (ascii 'a' ≤ unit && unit ≤ ascii 'z') || (ascii 'A' ≤ unit && unit ≤ ascii 'Z') ||
    (ascii '0' ≤ unit && unit ≤ ascii '9') || unit == ascii '.' || unit == ascii '_' ||
    unit == ascii '-'

/-- A name that no validation of a segment changes or refuses. -/
structure PlainName (name : CodeUnits) : Prop where
  units : ∀ unit ∈ name, isNameUnit unit = true
  nonempty : name ≠ []
  notDot : name ≠ CodeUnits.ofString "."
  notDotDot : name ≠ CodeUnits.ofString ".."

variable {service : WorkspaceStorageService} {ctx : WorkspaceObjectContext} {bucket : String}
  {name path : CodeUnits} {unit : UInt16}

/-- What a unit of a name is not. -/
theorem nameUnit_bounds (isUnit : isNameUnit unit = true) :
    32 ≤ unit ∧ unit < 127 ∧ unit ≠ ascii '/' ∧ unit ≠ ascii '\\' ∧ unit ≠ percent := by
  have letters : ascii 'a' = 97 ∧ ascii 'z' = 122 ∧ ascii 'A' = 65 ∧ ascii 'Z' = 90 ∧
      ascii '0' = 48 ∧ ascii '9' = 57 ∧ ascii '.' = 46 ∧ ascii '_' = 95 ∧ ascii '-' = 45 ∧
      ascii '/' = 47 ∧ ascii '\\' = 92 ∧ percent = 37 := by
    decide
  obtain ⟨a, z, A, Z, zero, nine, dot, underscore, hyphen, slash, backslash, percentEq⟩ := letters
  simp only [isNameUnit, a, z, A, Z, zero, nine, dot, underscore, hyphen, Bool.or_eq_true,
    Bool.and_eq_true, decide_eq_true_eq, beq_iff_eq] at isUnit
  rw [slash, backslash, percentEq]
  grind

theorem isNameUnit_of_isHexDigit (isDigit : isHexDigit unit = true) : isNameUnit unit = true := by
  have letters : ascii 'a' = 97 ∧ ascii 'z' = 122 ∧ ascii 'A' = 65 ∧ ascii 'Z' = 90 ∧
      ascii '0' = 48 ∧ ascii '9' = 57 := by
    decide
  obtain ⟨a, z, A, Z, zero, nine⟩ := letters
  simp only [isHexDigit, hexValue?] at isDigit
  simp only [isNameUnit, a, z, A, Z, zero, nine, Bool.or_eq_true, Bool.and_eq_true,
    decide_eq_true_eq]
  split at isDigit
  · grind
  · split at isDigit
    · grind
    · split at isDigit
      · grind
      · cases isDigit

/-- Printable ASCII has no control characters. -/
theorem hasControlCharacter_of_printable (printable : ∀ unit ∈ path, 32 ≤ unit ∧ unit < 127) :
    hasControlCharacter path = false := by
  have isAscii : ∀ unit ∈ path, unit < 0x80 := fun unit mem =>
    UInt16.lt_trans (printable unit mem).2 (by decide)
  rw [hasControlCharacter, CodeUnits.characters_of_ascii isAscii, List.any_map]
  refine List.any_eq_false.mpr fun unit mem => ?_
  obtain ⟨visible, below⟩ := printable unit mem
  simp only [Function.comp_apply, List.head?_cons, Option.any_some, Bool.or_eq_true,
    decide_eq_true_eq, beq_iff_eq]
  grind

namespace PlainName

variable (plain : PlainName name)

include plain

theorem printable : ∀ unit ∈ name, 32 ≤ unit ∧ unit < 127 := fun unit mem =>
  ⟨(nameUnit_bounds (plain.units unit mem)).1, (nameUnit_bounds (plain.units unit mem)).2.1⟩

theorem slash_notMem : ascii '/' ∉ name := fun mem =>
  (nameUnit_bounds (plain.units _ mem)).2.2.1 rfl

theorem backslash_notMem : ascii '\\' ∉ name := fun mem =>
  (nameUnit_bounds (plain.units _ mem)).2.2.2.1 rfl

theorem percent_notMem : percent ∉ name := fun mem =>
  (nameUnit_bounds (plain.units _ mem)).2.2.2.2 rfl

/-- A plain name is validated. -/
theorem validateSegment_eq_ok : validateSegment name = .ok () := by
  have decodedEq : decodePathComponent name = .ok name :=
    decodePathComponent_eq_ok_iff.mpr ⟨0, Nat.zero_le 4, rfl, decode_of_plain plain.percent_notMem⟩
  have noSlash := plain.slash_notMem
  have noBackslash := plain.backslash_notMem
  have noControl := hasControlCharacter_of_printable plain.printable
  refine except_bind_eq_ok_iff.mpr ⟨name, decodedEq, check_eq_ok_iff.mpr ?_⟩
  simp [plain.nonempty, plain.notDot, plain.notDotDot, noSlash, noBackslash, noControl]

end PlainName

/-- The text of a UUID is a plain name. -/
theorem UuidText.plainName (id : UuidText) : PlainName id.text := by
  constructor
  · intro unit mem
    rcases id.mem_cases mem with rfl | isDigit
    · decide
    · exact isNameUnit_of_isHexDigit isDigit
  · intro isEmpty
    have shape := id.isUuid
    rw [isEmpty] at shape
    exact absurd shape (by decide)
  · intro isDot
    have shape := id.isUuid
    rw [isDot] at shape
    exact absurd shape (by decide)
  · intro isDotDot
    have shape := id.isUuid
    rw [isDotDot] at shape
    exact absurd shape (by decide)

/-- Names that are joined are as long as they are, and a separator goes between any two. -/
theorem length_intercalate {separator : UInt16} {names : List CodeUnits} (some : names ≠ []) :
    ([separator].intercalate names).length + 1 = (names.map fun name => name.length + 1).sum := by
  induction names with
  | nil => exact absurd rfl some
  | cons first rest ih =>
      cases rest with
      | nil => simp [List.intercalate]
      | cons second rest =>
          have later := ih (List.cons_ne_nil second rest)
          rw [List.intercalate_cons_cons, List.length_append, List.length_append,
            List.length_singleton, List.map_cons, List.sum_cons]
          omega

/-- The text of a UUID has 36 code units. -/
theorem UuidText.length_text (id : UuidText) : id.text.length = 36 := by
  have shape := (Bool.and_eq_true_iff.mp id.isUuid).1
  rw [beq_iff_eq] at shape
  have lengths : ([ascii '-'].intercalate (id.text.splitOn (ascii '-'))).length + 1 = _ :=
    length_intercalate (List.splitOn_ne_nil (ascii '-') id.text)
  have sizes : (id.text.splitOn (ascii '-')).map (fun name => name.length + 1) =
      [8, 4, 4, 4, 12].map (· + 1) := by
    rw [← shape, List.map_map]
    rfl
  rw [List.intercalate_splitOn, sizes] at lengths
  exact Nat.succ.inj lengths

/-! ## Paths -/

/-- The path of some names. -/
def pathOf (names : List CodeUnits) : CodeUnits := [ascii '/'].intercalate names

theorem mem_pathOf {names : List CodeUnits} (mem : unit ∈ pathOf names) :
    unit = ascii '/' ∨ ∃ name ∈ names, unit ∈ name := by
  induction names with
  | nil => cases mem
  | cons first rest ih =>
      cases rest with
      | nil =>
          have inFirst : unit ∈ first := by simpa [pathOf, List.intercalate] using mem
          exact Or.inr ⟨first, List.mem_cons_self .., inFirst⟩
      | cons second rest =>
          rw [pathOf, List.intercalate_cons_cons, List.append_assoc] at mem
          rcases List.mem_append.mp mem with inFirst | mem
          · exact Or.inr ⟨first, List.mem_cons_self .., inFirst⟩
          · rcases List.mem_append.mp mem with isSlash | inRest
            · exact Or.inl (List.mem_singleton.mp isSlash)
            · exact (ih inRest).imp_right fun ⟨name, nameMem, inName⟩ =>
                ⟨name, List.mem_cons_of_mem _ nameMem, inName⟩

section Plain

variable {names : List CodeUnits} (plain : ∀ name ∈ names, PlainName name)

include plain

theorem printable_pathOf : ∀ unit ∈ pathOf names, 32 ≤ unit ∧ unit < 127 := by
  intro unit mem
  rcases mem_pathOf mem with rfl | ⟨name, nameMem, inName⟩
  · decide
  · exact (plain name nameMem).printable unit inName

theorem percent_notMem_pathOf : percent ∉ pathOf names := by
  intro mem
  rcases mem_pathOf mem with same | ⟨name, nameMem, inName⟩
  · exact absurd same (by decide)
  · exact (plain name nameMem).percent_notMem inName

theorem backslash_notMem_pathOf : ascii '\\' ∉ pathOf names := by
  intro mem
  rcases mem_pathOf mem with same | ⟨name, nameMem, inName⟩
  · exact absurd same (by decide)
  · exact (plain name nameMem).backslash_notMem inName

theorem segments_pathOf (some : names ≠ []) : segments (pathOf names) = names :=
  List.splitOn_intercalate _ (fun name mem => (plain name mem).slash_notMem) some

/-- A short path of plain names is no invalid one. -/
theorem isInvalidPath_pathOf (some : names ≠ []) (short : (pathOf names).length ≤ 1024) :
    isInvalidPath (pathOf names) = false := by
  have isAscii : ∀ unit ∈ pathOf names, unit < 0x80 := fun unit mem =>
    UInt16.lt_trans (printable_pathOf plain unit mem).2 (by decide)
  have segmentsEq := segments_pathOf plain some
  have relative : (pathOf names).head? ≠ Option.some (ascii '/') := by
    intro isSlash
    obtain ⟨rest, restEq⟩ := List.head?_eq_some_iff.mp isSlash
    have leading : segments ([] ++ ascii '/' :: rest) = [] :: segments rest :=
      segments_cons List.not_mem_nil
    rw [restEq] at segmentsEq
    have shape : names = [] :: segments rest := segmentsEq.symm.trans leading
    have isName : [] ∈ names := by
      rw [shape]
      exact List.mem_cons_self ..
    exact (plain [] isName).nonempty rfl
  simp only [isInvalidPath, Bool.or_eq_false_iff]
  refine ⟨⟨⟨⟨?_, ?_⟩, ?_⟩, ?_⟩, ?_⟩
  · rw [CodeUnits.byteLength_of_ascii isAscii]
    exact decide_eq_false (Nat.not_lt.mpr short)
  · exact beq_eq_false_iff_ne.mpr relative
  · simpa using backslash_notMem_pathOf plain
  · exact hasControlCharacter_of_printable (printable_pathOf plain)
  · change (segments (pathOf names)).any _ = false
    rw [segmentsEq]
    refine List.any_eq_false.mpr fun name nameMem => ?_
    have isPlain := plain name nameMem
    simp [isPlain.nonempty, isPlain.notDot, isPlain.notDotDot]

/-- A short path of plain names below a prefix of a context is accepted as it is. -/
theorem validate_pathOf (some : names ≠ []) (short : (pathOf names).length ≤ 1024)
    (allowed : bucket ∈ service.allowedBuckets)
    (inScope : ∃ tenantPrefix ∈ tenantPrefixes ctx, tenantPrefix <+: pathOf names) :
    service.validateWorkspaceObjectPath ctx bucket (pathOf names) = .ok (pathOf names) := by
  have isAscii : ∀ unit ∈ pathOf names, unit < 0x80 := fun unit mem =>
    UInt16.lt_trans (printable_pathOf plain unit mem).2 (by decide)
  have bytes : CodeUnits.byteLength (pathOf names) ≤ 1024 := by
    rwa [CodeUnits.byteLength_of_ascii isAscii]
  have decodedEq : decodePathComponent (pathOf names) = .ok (pathOf names) :=
    decodePathComponent_eq_ok_iff.mpr
      ⟨0, Nat.zero_le 4, rfl, decode_of_plain (percent_notMem_pathOf plain)⟩
  exact validateWorkspaceObjectPath_eq_ok_iff.mpr
    ⟨allowed, bytes, decodedEq, isInvalidPath_pathOf plain some short, inScope⟩

end Plain

/-! ## Sources -/

/-- The names on the path of a source. -/
def sourceNames (ctx : WorkspaceObjectContext) (sourceId sourceVersionId : UuidText)
    (filename : CodeUnits) : List CodeUnits :=
  [CodeUnits.ofString "organizations", ctx.organizationId.text, CodeUnits.ofString "workspaces",
    ctx.workspaceId.text, CodeUnits.ofString "sources", sourceId.text,
    CodeUnits.ofString "versions", sourceVersionId.text, filename]

variable {sourceId sourceVersionId : UuidText}

/-- The names between the ids are plain. -/
theorem plainName_ofString {text : String}
    (mem : text ∈ ["organizations", "workspaces", "sources", "versions"]) :
    PlainName (CodeUnits.ofString text) := by
  have units : ∀ text ∈ ["organizations", "workspaces", "sources", "versions"],
      (CodeUnits.ofString text).all isNameUnit = true ∧
        CodeUnits.ofString text ≠ [] ∧ CodeUnits.ofString text ≠ CodeUnits.ofString "." ∧
        CodeUnits.ofString text ≠ CodeUnits.ofString ".." := by
    decide
  obtain ⟨plain, nonempty, notDot, notDotDot⟩ := units text mem
  exact ⟨List.all_eq_true.mp plain, nonempty, notDot, notDotDot⟩

theorem plainName_of_mem_sourceNames (plain : PlainName name) :
    ∀ other ∈ sourceNames ctx sourceId sourceVersionId name, PlainName other := by
  simp only [sourceNames, List.forall_mem_cons]
  exact ⟨plainName_ofString (by decide), ctx.organizationId.plainName,
    plainName_ofString (by decide), ctx.workspaceId.plainName, plainName_ofString (by decide),
    sourceId.plainName, plainName_ofString (by decide), sourceVersionId.plainName, plain,
    fun other mem => absurd mem List.not_mem_nil⟩

/-- The names on the path of a source, as they are written. -/
theorem pathOf_sourceNames :
    pathOf (sourceNames ctx sourceId sourceVersionId name) =
      CodeUnits.ofString "organizations/" ++ ctx.organizationId.text ++
        CodeUnits.ofString "/workspaces/" ++ ctx.workspaceId.text ++
        CodeUnits.ofString "/sources/" ++ sourceId.text ++ CodeUnits.ofString "/versions/" ++
        sourceVersionId.text ++ CodeUnits.ofString "/" ++ name := by
  have organizations : CodeUnits.ofString "organizations/" =
      CodeUnits.ofString "organizations" ++ [ascii '/'] := by
    decide
  have workspaces : CodeUnits.ofString "/workspaces/" =
      ascii '/' :: CodeUnits.ofString "workspaces" ++ [ascii '/'] := by
    decide
  have sources : CodeUnits.ofString "/sources/" =
      ascii '/' :: CodeUnits.ofString "sources" ++ [ascii '/'] := by
    decide
  have versions : CodeUnits.ofString "/versions/" =
      ascii '/' :: CodeUnits.ofString "versions" ++ [ascii '/'] := by
    decide
  have slash : CodeUnits.ofString "/" = [ascii '/'] := by
    decide
  rw [organizations, workspaces, sources, versions, slash]
  simp [pathOf, sourceNames, List.intercalate, List.intersperse]

/-- The path of a source is the path of its names. -/
theorem buildSourceObjectPath_of_plain (plain : PlainName name) :
    buildSourceObjectPath ctx sourceId.text sourceVersionId.text name =
      .ok (pathOf (sourceNames ctx sourceId sourceVersionId name)) := by
  have validated : ∀ names : List CodeUnits, (∀ other ∈ names, PlainName other) →
      names.forM validateSegment = .ok () := by
    intro names allPlain
    induction names with
    | nil => rfl
    | cons first rest ih =>
        change (validateSegment first >>= fun _ => rest.forM validateSegment) = .ok ()
        rw [(allPlain first (List.mem_cons_self ..)).validateSegment_eq_ok]
        exact ih fun other mem => allPlain other (List.mem_cons_of_mem _ mem)
  exact except_bind_eq_ok_iff.mpr ⟨(), validated _ (plainName_of_mem_sourceNames plain),
    congrArg Except.ok pathOf_sourceNames.symm⟩

theorem length_sourceNames_le (short : name.length ≤ 255) :
    (pathOf (sourceNames ctx sourceId sourceVersionId name)).length ≤ 1024 := by
  have fixed : (CodeUnits.ofString "organizations").length = 13 ∧
      (CodeUnits.ofString "workspaces").length = 10 ∧
      (CodeUnits.ofString "sources").length = 7 ∧
      (CodeUnits.ofString "versions").length = 8 := by
    decide
  have lengths : (pathOf (sourceNames ctx sourceId sourceVersionId name)).length + 1 = _ :=
    length_intercalate (List.cons_ne_nil _ _)
  simp only [sourceNames, List.map_cons, List.map_nil, List.sum_cons, List.sum_nil, fixed,
    UuidText.length_text] at lengths
  simp only [sourceNames]
  omega

/-- The key of a source under a plain name that is short enough is accepted as it is. -/
theorem validate_sourceNames (plain : PlainName name) (short : name.length ≤ 255)
    (allowed : bucket ∈ service.allowedBuckets) :
    service.validateWorkspaceObjectPath ctx bucket
        (pathOf (sourceNames ctx sourceId sourceVersionId name)) =
      .ok (pathOf (sourceNames ctx sourceId sourceVersionId name)) := by
  refine validate_pathOf (plainName_of_mem_sourceNames plain) (List.cons_ne_nil _ _)
    (length_sourceNames_le short) allowed ?_
  refine ⟨_, List.mem_cons_of_mem _ (List.mem_cons_self ..), CodeUnits.ofString "sources/" ++
    sourceId.text ++ CodeUnits.ofString "/versions/" ++ sourceVersionId.text ++
    CodeUnits.ofString "/" ++ name, ?_⟩
  have sources : CodeUnits.ofString "/sources/" = ascii '/' :: CodeUnits.ofString "sources/" := by
    decide
  rw [pathOf_sourceNames, sources]
  simp

end Manbaa.Storage
