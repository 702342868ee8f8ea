import Manbaa.Lib.Json
import Manbaa.Lib.Pattern

/-!
# The validator of application schemas

A schema is a JSON value that a client sends.  The validator goes through its pages
and through the trees of components under them, and collects what is wrong; it
remembers the routes and identifiers that it has seen and counts the components.  A
JSON value is a tree, so that the scan of properties meets no object twice.
-/

namespace Manbaa.Applications

open Manbaa.Lib

/-! ## Limits and patterns -/

/-- `MAX_NESTING_DEPTH`. -/
def maxNestingDepth : Nat := 20

/-- `MAX_NODES`. -/
def maxNodes : Nat := 5000

/-- `MAX_PAGES`. -/
def maxPages : Nat := 200

/-- `SUPPORTED_SCHEMA_VERSIONS`. -/
def supportedSchemaVersions : List String := ["1.0.0"]

/-- `PROHIBITED_KEYS`. -/
def prohibitedKeys : List String := ["prototype", "constructor"]

/-- A word, white space and one more character. -/
def followedBy (text : String) (last : Char) : Pattern :=
  .all [.anyCase text, .many Pattern.isSpace, .one (· == last)]

/-- Two words with white space between them, at the edges of words. -/
def phrase (first second : String) : Pattern :=
  .all [.edge, .anyCase first, .atLeastOne Pattern.isSpace, .anyCase second, .edge]

/-- `EXECUTABLE_PATTERNS`. -/
def executablePatterns : List Pattern :=
  [.anyCase "javascript:",
    .seq (.anyCase "<script") (.one fun char => Pattern.isSpace char || char == '>'),
    followedBy "onerror" '=', followedBy "onclick" '=', followedBy "onload" '=',
    followedBy "onmouseover" '=', followedBy "eval" '(',
    .all [.anyCase "new", .atLeastOne Pattern.isSpace, followedBy "Function" '(']]

/-- `SQL_PATTERNS`. -/
def sqlPatterns : List Pattern :=
  [phrase "DROP" "TABLE", phrase "DELETE" "FROM", phrase "INSERT" "INTO", phrase "ALTER" "TABLE",
    .all [.edge, .anyCase "EXEC", .edge], .all [.edge, .anyCase "EXECUTE", .edge],
    phrase "UNION" "SELECT"]

/-- `SECRET_PATTERNS`. -/
def secretPatterns : List Pattern :=
  [.all [.anyCase "-----BEGIN", .atLeastOne Pattern.isSpace,
      .optional (.seq (.anyCase "RSA") (.atLeastOne Pattern.isSpace)), .anyCase "PRIVATE",
      .atLeastOne Pattern.isSpace, .anyCase "KEY-----"],
    .all [.exactly "sk-", .times 20 Char.isAlphanum, .many Char.isAlphanum],
    .seq (.exactly "AKIA") (.times 16 fun char => char.isDigit || char.isUpper)]

/-- Some pattern matches somewhere in the text. -/
def test (patterns : List Pattern) (text : String) : Bool :=
  patterns.any fun pattern => pattern.finds text

/-! ## Results -/

/-- How bad an error is. -/
inductive Severity where
  | error
  | warning
  deriving DecidableEq

/-- `ValidationError`. -/
structure ValidationError where
  code : String
  path : String
  message : String
  severity : Severity
  deriving DecidableEq

/-- `ValidationResult`. -/
structure ValidationResult where
  valid : Bool
  errors : List ValidationError

/-- `err`. -/
def err (path message code : String) : ValidationError := ⟨code, path, message, .error⟩

/-- What has been seen of pages and components. -/
structure Tally where
  routes : List String
  pageIds : List String
  nodeIds : List String
  nodeCount : Nat

/-- The errors so far, and what has been seen. -/
structure Progress where
  errors : List ValidationError
  seen : Tally

/-- Report errors. -/
def Progress.report (progress : Progress) (errors : List ValidationError) : Progress :=
  { progress with errors := progress.errors ++ errors }

/-- An error if something is wrong. -/
def errorIf (wrong : Bool) (error : ValidationError) : List ValidationError :=
  if wrong then [error] else []

/-! ## Values -/

/-- `typeof value === 'object'`, and not null. -/
def isObject : Json → Bool
  | .obj _ | .arr _ => true
  | _ => false

/-- The value counts as true. -/
def truthy : Json → Bool
  | .null | .bool false => false
  | .num value => value != 0
  | .str text => text != ""
  | _ => true

/-- The property of a value; the items of an array are none of those that are asked for. -/
def property (value : Json) (key : String) : Option Json :=
  match value with
  | .obj fields => fields.lookup key
  | _ => none

/-- `Object.keys`. -/
def keys : Json → List String
  | .obj fields => fields.map Prod.fst
  | .arr items => (List.range items.length).map toString
  | _ => []

/-- The text that a property holds. -/
def textOf (value : Json) (key : String) : Option String :=
  match property value key with
  | some (.str text) => some text
  | _ => none

/-- The errors of the prohibited keys. -/
def keyErrors (value : Json) (error : String → ValidationError) : List ValidationError :=
  ((keys value).filter prohibitedKeys.contains).map error

/-! ## The scan of properties -/

/-- The errors of a text that stands under a key. -/
def textErrors (text valuePath : String) : List ValidationError :=
  errorIf (test executablePatterns text)
      (err valuePath "Value may contain executable code" "EXECUTABLE_CONTENT") ++
    errorIf (test sqlPatterns text)
      (err valuePath "Value may contain SQL statements" "SQL_CONTENT") ++
    errorIf (test secretPatterns text)
      (err valuePath "Value may contain secrets or credentials" "SECRET_CONTENT")

/-- The errors of a text that stands in an array under a key. -/
def itemTextErrors (text itemPath : String) : List ValidationError :=
  errorIf (test executablePatterns text)
      (err itemPath "Value may contain executable code" "EXECUTABLE_CONTENT") ++
    errorIf (test sqlPatterns text)
      (err itemPath "Value may contain SQL statements" "SQL_CONTENT")

mutual

/-- The entries of `scanForDangerousValues` for an object. -/
def scanFields (path : String) : Json.Fields → List ValidationError
  | [] => []
  | (key, value) :: rest =>
      errorIf (prohibitedKeys.contains key)
          (err (path ++ "." ++ key) ("Prohibited key \"" ++ key ++ "\"") "PROHIBITED_KEY") ++
        scanValue (path ++ "." ++ key) value ++ scanFields path rest

/-- The entries of `scanForDangerousValues` for an array, from an index on. -/
def scanEntries (path : String) (index : Nat) : List Json → List ValidationError
  | [] => []
  | value :: rest =>
      scanValue (path ++ "." ++ toString index) value ++ scanEntries path (index + 1) rest

/-- The value of an entry. -/
def scanValue (valuePath : String) : Json → List ValidationError
  | .str text => textErrors text valuePath
  | .arr items => scanItems valuePath 0 items
  | .obj fields => scanFields valuePath fields
  | _ => []

/-- The items of an array that is the value of an entry, from an index on. -/
def scanItems (valuePath : String) (index : Nat) : List Json → List ValidationError
  | [] => []
  | .obj fields :: rest =>
      scanFields (valuePath ++ "[" ++ toString index ++ "]") fields ++
        scanItems valuePath (index + 1) rest
  | .arr items :: rest =>
      scanEntries (valuePath ++ "[" ++ toString index ++ "]") 0 items ++
        scanItems valuePath (index + 1) rest
  | .str text :: rest =>
      itemTextErrors text (valuePath ++ "[" ++ toString index ++ "]") ++
        scanItems valuePath (index + 1) rest
  | _ :: rest => scanItems valuePath (index + 1) rest

end

/-- `scanForDangerousValues`. -/
def scanForDangerousValues (path : String) : Json → List ValidationError
  | .obj fields => scanFields path fields
  | .arr items => scanEntries path 0 items
  | _ => []

/-! ## Components -/

/-- The identifier of a component. -/
def checkNodeId (node : Json) (path : String) (progress : Progress) : Progress :=
  match textOf node "id" with
  | some id =>
      if id = "" then
        progress.report [err (path ++ ".id") "Component id is required" "NODE_ID_REQUIRED"]
      else if id ∈ progress.seen.nodeIds then
        progress.report
          [err (path ++ ".id") ("Duplicate node id \"" ++ id ++ "\"") "NODE_ID_DUPLICATE"]
      else { progress with
        seen := { progress.seen with nodeIds := progress.seen.nodeIds ++ [id] } }
  | none => progress.report [err (path ++ ".id") "Component id is required" "NODE_ID_REQUIRED"]

/-- The errors of the properties of a component. -/
def propsErrors (node : Json) (path : String) : List ValidationError :=
  match property node "props" with
  | none => []
  | some props =>
      if isObject props then scanForDangerousValues (path ++ ".props") props
      else [err (path ++ ".props") "Props must be an object" "PROPS_TYPE"]

/-- The errors of the styles of a component. -/
def stylesErrors (node : Json) (path : String) : List ValidationError :=
  errorIf ((property node "styles").any fun styles => !isObject styles)
    (err (path ++ ".styles") "Styles must be an object" "STYLES_TYPE")

/-- What is checked of a component before its children. -/
def checkNode (node : Json) (path : String) (progress : Progress) : Progress :=
  let keyed := progress.report <| keyErrors node fun key =>
    err (path ++ "." ++ key) ("Prohibited key \"" ++ key ++ "\"") "PROHIBITED_KEY"
  let named := checkNodeId node path keyed
  let typed := named.report <| errorIf ((textOf node "type").all (· == ""))
    (err (path ++ ".type") "Component type is required" "NODE_TYPE_REQUIRED")
  let counted := { typed with
    seen := { typed.seen with nodeCount := typed.seen.nodeCount + 1 } }
  (counted.report (propsErrors node path)).report (stylesErrors node path)

/-- The error of a component that is too deep. -/
def depthError (path : String) : ValidationError :=
  err path ("Maximum nesting depth of " ++ toString maxNestingDepth ++ " exceeded") "NESTING_DEPTH"

/-- The error of a component that is no object. -/
def nodeError (path : String) : ValidationError :=
  err path "Component node must be an object" "NODE_TYPE"

mutual

/-- `validateComponentNode`. -/
def validateComponentNode (path : String) (depth : Nat) : Json → Progress → Progress
  | .obj fields, progress =>
      if maxNestingDepth < depth then progress.report [depthError path]
      else validateChildren path depth fields (checkNode (.obj fields) path progress)
  | .arr items, progress =>
      if maxNestingDepth < depth then progress.report [depthError path]
      else checkNode (.arr items) path progress
  | _, progress =>
      if maxNestingDepth < depth then progress.report [depthError path]
      else progress.report [nodeError path]

/-- The children of a component, the first property of that name. -/
def validateChildren (path : String) (depth : Nat) : Json.Fields → Progress → Progress
  | [], progress => progress
  | (key, .arr items) :: rest, progress =>
      if key = "children" then validateItems path depth 0 items progress
      else validateChildren path depth rest progress
  | (key, _) :: rest, progress =>
      if key = "children" then
        progress.report [err (path ++ ".children") "Children must be an array" "CHILDREN_TYPE"]
      else validateChildren path depth rest progress

/-- The children of a component from an index on. -/
def validateItems (path : String) (depth : Nat) (index : Nat) : List Json → Progress → Progress
  | [], progress => progress
  | child :: rest, progress =>
      validateItems path depth (index + 1) rest <|
        validateComponentNode (path ++ ".children[" ++ toString index ++ "]") (depth + 1) child
          progress

end

/-! ## Pages -/

/-- The identifier of a page. -/
def checkPageId (page : Json) (pagePath : String) (progress : Progress) : Progress :=
  match textOf page "id" with
  | some id =>
      if id = "" then
        progress.report [err (pagePath ++ ".id") "Page id is required" "PAGE_ID_REQUIRED"]
      else if id ∈ progress.seen.pageIds then
        progress.report
          [err (pagePath ++ ".id") ("Duplicate page id \"" ++ id ++ "\"") "PAGE_ID_DUPLICATE"]
      else { progress with
        seen := { progress.seen with pageIds := progress.seen.pageIds ++ [id] } }
  | none => progress.report [err (pagePath ++ ".id") "Page id is required" "PAGE_ID_REQUIRED"]

/-- The route of a page. -/
def checkRoute (page : Json) (pagePath : String) (progress : Progress) : Progress :=
  match textOf page "route" with
  | none =>
      progress.report [err (pagePath ++ ".route") "Page route is required" "PAGE_ROUTE_REQUIRED"]
  | some route =>
      let formed := progress.report <| errorIf (!route.startsWith "/")
        (err (pagePath ++ ".route") ("Route \"" ++ route ++ "\" must start with \"/\"")
          "PAGE_ROUTE_FORMAT")
      if route ∈ formed.seen.routes then
        formed.report [err (pagePath ++ ".route") ("Duplicate route \"" ++ route ++ "\"")
          "PAGE_ROUTE_DUPLICATE"]
      else { formed with seen := { formed.seen with routes := formed.seen.routes ++ [route] } }

/-- The root component of a page. -/
def checkRoot (page : Json) (pagePath : String) (progress : Progress) : Progress :=
  match (property page "root").filter truthy with
  | some root => validateComponentNode (pagePath ++ ".root") 0 root progress
  | none =>
      progress.report [err (pagePath ++ ".root") "Root component is required" "ROOT_REQUIRED"]

/-- One page of a schema. -/
def validatePage (pagePath : String) (page : Json) (progress : Progress) : Progress :=
  if !isObject page then progress.report [err pagePath "Page must be an object" "PAGE_TYPE"]
  else
    let keyed := progress.report <| keyErrors page fun key =>
      err (pagePath ++ "." ++ key) ("Prohibited key \"" ++ key ++ "\"") "PROHIBITED_KEY"
    let identified := checkPageId page pagePath keyed
    let named := identified.report <| errorIf (textOf page "name").isNone
      (err (pagePath ++ ".name") "Page name is required" "PAGE_NAME_REQUIRED")
    checkRoot page pagePath (checkRoute page pagePath named)

/-- The pages of a schema from an index on. -/
def validatePages (index : Nat) : List Json → Progress → Progress
  | [], progress => progress
  | page :: rest, progress =>
      validatePages (index + 1) rest (validatePage ("pages[" ++ toString index ++ "]") page progress)

/-! ## Schemas -/

/-- The errors of the version of a schema. -/
def versionErrors (schema : Json) : List ValidationError :=
  match (textOf schema "schemaVersion").filter (· != "") with
  | none =>
      [err "schemaVersion" "schemaVersion is required and must be a non-empty string"
        "SCHEMA_VERSION_REQUIRED"]
  | some version =>
      errorIf (!supportedSchemaVersions.contains version)
        (err "schemaVersion" ("Unsupported schema version \"" ++ version ++ "\". Supported: " ++
          ", ".intercalate supportedSchemaVersions) "SCHEMA_VERSION_UNSUPPORTED")

/-- The errors of the metadata of a schema. -/
def metadataErrors (schema : Json) : List ValidationError :=
  match (property schema "metadata").filter isObject with
  | none => [err "metadata" "metadata is required" "METADATA_MISSING"]
  | some metadata =>
      errorIf (textOf metadata "applicationId").isNone
          (err "metadata.applicationId" "metadata.applicationId is required" "METADATA_MISSING") ++
        errorIf (textOf metadata "name").isNone
          (err "metadata.name" "metadata.name is required" "METADATA_MISSING")

/-- The errors of the pages of a schema. -/
def pagesErrors (schema : Json) : List ValidationError :=
  match property schema "pages" with
  | none => []
  | some (.arr pages) =>
      let validated := validatePages 0 pages ⟨[], ⟨[], [], [], 0⟩⟩
      errorIf (decide (maxPages < pages.length))
          (err "pages" ("Too many pages: " ++ toString pages.length ++ ", max: " ++
            toString maxPages) "PAGES_MAX_EXCEEDED") ++
        validated.errors ++
        errorIf (decide (maxNodes < validated.seen.nodeCount))
          (err "pages" ("Too many component nodes: " ++ toString validated.seen.nodeCount ++
            ", max: " ++ toString maxNodes) "NODES_MAX_EXCEEDED")
  | some _ => [err "pages" "pages must be an array" "PAGES_TYPE"]

/-- `validateApplicationSchema`. -/
def validateApplicationSchema (schema : Json) : ValidationResult :=
  if !isObject schema then
    ⟨false, [err "$" "Schema must be a non-null object" "SCHEMA_TYPE"]⟩
  else
    let errors :=
      keyErrors schema (fun key => err "$" ("Prohibited key \"" ++ key ++ "\" at root")
          "PROHIBITED_KEY") ++
        versionErrors schema ++ metadataErrors schema ++ pagesErrors schema
    ⟨errors.isEmpty, errors⟩

end Manbaa.Applications
