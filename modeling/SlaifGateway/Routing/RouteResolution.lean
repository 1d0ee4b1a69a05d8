import SlaifGateway.Library.Document
import SlaifGateway.Library.Sorting
import Mathlib.Data.List.Lex
import Mathlib.Data.Prod.Lex

/-! The route of a requested model. The routes of the endpoint are read up to a page limit,
matched, narrowed to the providers in use and ranked. -/
namespace SlaifGateway.Routing
open Library Sorting

-- The parts of a glob pattern, as `fnmatch.translate` reads it.
inductive GlobPart
  | star
  | anyOne
  | one (c : CodePoint)
  | never
  | set (negated : Bool) (members : List (CodePoint × CodePoint))

-- The points `*`, `?`, `[`, `]`, `!` and `-` of a pattern.
def asterisk : CodePoint := 42
def question : CodePoint := 63
def opening : CodePoint := 91
def closing : CodePoint := 93
def bang : CodePoint := 33
def hyphen : CodePoint := 45

-- What stands between an opening bracket and the one that closes it, and what follows.
def classSpan (pattern : Text) : Option (Text × Text) :=
  let negation := (pattern.takeWhile (· = bang)).take 1
  let literal := ((pattern.drop negation.length).takeWhile (· = closing)).take 1
  let inner := pattern.drop (negation.length + literal.length)
  match inner.dropWhile (· ≠ closing) with
  | [] => none
  | _ :: after => some (negation ++ literal ++ inner.takeWhile (· ≠ closing),after)

-- A hyphen among the first `skip` points splits nothing.
def chunksFrom : ℕ → ℕ → Text → List Text
  | 0,_,stuff => [stuff]
  | fuel + 1,skip,stuff =>
    match (stuff.drop skip).dropWhile (· ≠ hyphen) with
    | [] => [stuff]
    | _ :: rest => stuff.take (stuff.length - rest.length - 1) :: chunksFrom fuel 2 rest

-- A hyphen at the end belongs to the chunk before it.
def closeChunks : List Text → List Text
  | [] => []
  | [chunk,[]] => [chunk ++ [hyphen]]
  | chunk :: rest => chunk :: closeChunks rest

-- A range whose ends are the wrong way round is dropped.
def mergeChunks : List Text → List Text
  | [] => []
  | chunk :: rest =>
    match mergeChunks rest with
    | [] => [chunk]
    | next :: more =>
      match chunk.getLast?,next.head? with
      | some last,some first =>
        if first < last then (chunk.dropLast ++ next.drop 1) :: more else chunk :: next :: more
      | _,_ => chunk :: next :: more

inductive ClassToken
  | point (c : CodePoint)
  | range

def classMembers : List ClassToken → List (CodePoint × CodePoint)
  | .point a :: .range :: .point b :: rest => (a,b) :: classMembers rest
  | .point a :: rest => (a,a) :: classMembers rest
  | .range :: rest => (hyphen,hyphen) :: classMembers rest
  | [] => []

def classPart (stuff : Text) : GlobPart :=
  let chunks := if hyphen ∈ stuff
    then mergeChunks (closeChunks (chunksFrom stuff.length (if stuff.head? = some bang then 2 else 1) stuff))
    else [stuff]
  match [ClassToken.range].intercalate (chunks.map (·.map ClassToken.point)) with
  | [] => .never
  | .point c :: [] => if c = bang then .anyOne else .set false [(c,c)]
  | .point c :: rest => if c = bang then .set true (classMembers rest) else .set false (classMembers (.point c :: rest))
  | tokens => .set false (classMembers tokens)

-- The fuel is the length of the pattern.
def globParts : ℕ → Text → List GlobPart
  | _,[] => []
  | 0,_ => []
  | fuel + 1,c :: rest =>
    if c = asterisk then .star :: globParts fuel rest
    else if c = question then .anyOne :: globParts fuel rest
    else if c = opening then
      match classSpan rest with
      | none => .one c :: globParts fuel rest
      | some (stuff,after) => classPart stuff :: globParts fuel after
    else .one c :: globParts fuel rest

def GlobPart.admits : GlobPart → CodePoint → Bool
  | .star,_ => false
  | .anyOne,_ => true
  | .one c,d => d = c
  | .never,_ => false
  | .set negated members,d => negated != members.any fun (low,high) => low ≤ d && d ≤ high

def matchesParts : List GlobPart → Text → Bool
  | [],name => name.isEmpty
  | .star :: rest,name => name.tails.any (matchesParts rest)
  | _ :: _,[] => false
  | part :: rest,d :: name => part.admits d && matchesParts rest name

def fnmatchcase (name pattern : Text) : Bool := matchesParts (globParts pattern.length pattern) name

-- The id as the text `str(route.id)`.
structure ModelRoute where
  id : Text
  requestedModel : Text
  matchType : String
  endpoint : String
  provider : Text
  upstreamModel : Text
  priority : ℤ
  enabled : Bool
  supportsStreaming : Bool
  capabilities : Fields
  createdAt : ℤ

structure ProviderConfig where
  provider : Text
  kind : Text
  baseUrl : Text
  apiKeyEnvVar : Text
  enabled : Bool
  timeoutSeconds : ℤ
  maxRetries : ℤ

structure AuthenticatedGatewayKey where
  allowAllModels : Bool
  allowedModels : List Text
  allowedProviders : Option (List Text)
  keyPurpose : String
  capabilityPolicyMode : String

inductive RouteResolutionError
  | modelNotFound (message : Option String)
  | modelRouteDisabled
  | providerDisabled
  | modelNotAllowedForKey
  | providerNotAllowedForKey
  | ambiguousRoute
  | unsupportedRouteMatchType (matchType : String) (id : Text)

def RouteResolutionError.safeMessage : RouteResolutionError → Text
  | .modelNotFound message => text (message.getD "The requested model is not supported")
  | .modelRouteDisabled => text "The requested model route is disabled"
  | .providerDisabled => text "Provider is disabled for the requested model"
  | .modelNotAllowedForKey => text "The requested model is not allowed for this key"
  | .providerNotAllowedForKey => text "The resolved provider is not allowed for this key"
  | .ambiguousRoute => text "Multiple routes matched with identical precedence"
  | .unsupportedRouteMatchType matchType id =>
    text "Unsupported route match_type '" ++ text matchType ++ text "' for route '" ++ id ++ text "'"

structure RouteResolutionResult where
  requestedModel : Text
  resolvedModel : Text
  provider : Text
  routeId : Text
  routeMatchType : String
  routePattern : Text
  priority : ℤ
  providerKind : Text
  providerBaseUrl : Text
  providerApiKeyEnvVar : Text
  providerTimeoutSeconds : ℤ
  providerMaxRetries : ℤ
  visibleModelId : Text
  supportsStreaming : Bool
  capabilities : Fields

-- The two tables with the constraints of the database.
structure RoutingTables where
  modelRoutes : List ModelRoute
  providerConfigs : List ProviderConfig
  routeIds : (modelRoutes.map ModelRoute.id).Nodup
  matchTypes : ∀ r ∈ modelRoutes, r.matchType = "exact" ∨ r.matchType = "prefix" ∨ r.matchType = "glob"
  providerNames : (providerConfigs.map ProviderConfig.provider).Nodup

-- Rows of one priority and one creation time come in any order: that of the table.
def listModelRoutes (routes : List ModelRoute) (endpoint : String) (limit : ℕ) : List ModelRoute :=
  (sortedBy (fun r => toLex (r.priority,r.createdAt)) (routes.filter (·.endpoint = endpoint))).take limit

-- `collation` gives the sort keys of the database's collation.
def listProviderConfigs (collation : Text → Text) (configs : List ProviderConfig) (limit : ℕ) : List ProviderConfig :=
  (sortedBy (fun c => collation c.provider) configs).take limit

def specificityRank (matchType : String) : ℕ :=
  if matchType = "exact" then 0 else if matchType = "prefix" then 1 else if matchType = "glob" then 2 else 99

def matchesModelRoute (requestedModel : Text) (route : ModelRoute) : Except RouteResolutionError Bool :=
  if route.matchType = "exact" then .ok (requestedModel = route.requestedModel)
  else if route.matchType = "prefix" then .ok (route.requestedModel.isPrefixOf requestedModel)
  else if route.matchType = "glob" then .ok (fnmatchcase requestedModel route.requestedModel)
  else .error (.unsupportedRouteMatchType route.matchType route.id)

-- The first three components of the sort key.
def precedence (r : ModelRoute) : ℤ ×ₗ ℕ ×ₗ ℤ :=
  toLex (r.priority,toLex (specificityRank r.matchType,-(r.requestedModel.length : ℤ)))

structure RankedMatch where
  route : ModelRoute
  providerConfig : ProviderConfig

-- The whole key, the precedence first.
def RankedMatch.sortKey (m : RankedMatch) : (ℤ ×ₗ ℕ ×ₗ ℤ) ×ₗ Text := toLex (precedence m.route,m.route.id)

def isTrustedCalibrationKey (key : AuthenticatedGatewayKey) : Bool :=
  key.keyPurpose = "trusted_calibration" && key.capabilityPolicyMode = "trusted_calibration_discovery"

structure Collected where
  matchingRoutes : List ModelRoute
  matchedDisabledRoutes : Bool

def collectMatches (requestedModel : Text) : List ModelRoute → Collected → Except RouteResolutionError Collected
  | [],found => .ok found
  | route :: rest,found => do
    let hit ← matchesModelRoute requestedModel route
    if !hit then collectMatches requestedModel rest found
    else if !route.enabled then collectMatches requestedModel rest {found with matchedDisabledRoutes := true}
    else collectMatches requestedModel rest {found with matchingRoutes := found.matchingRoutes ++ [route]}

-- Of two configurations of one provider a dict keeps the later.
def providerByName (configs : List ProviderConfig) (provider : Text) : Option ProviderConfig :=
  configs.reverse.find? (·.provider = provider)

def rankedMatch (configs : List ProviderConfig) (route : ModelRoute) : Option RankedMatch :=
  ((providerByName configs route.provider).filter ProviderConfig.enabled).map (⟨route,·⟩)

def narrowsProviders (key : AuthenticatedGatewayKey) : Bool :=
  key.allowedProviders.isSome && !isTrustedCalibrationKey key

def providerAllowed (key : AuthenticatedGatewayKey) (provider : Text) : Bool :=
  !narrowsProviders key || (key.allowedProviders.getD []).contains provider

def resolution (requestedModel : Text) (best : RankedMatch) : RouteResolutionResult where
  requestedModel := requestedModel
  resolvedModel := if best.route.upstreamModel.isEmpty then requestedModel else best.route.upstreamModel
  provider := best.route.provider
  routeId := best.route.id
  routeMatchType := best.route.matchType
  routePattern := best.route.requestedModel
  priority := best.route.priority
  providerKind := best.providerConfig.kind
  providerBaseUrl := best.providerConfig.baseUrl
  providerApiKeyEnvVar := best.providerConfig.apiKeyEnvVar
  providerTimeoutSeconds := best.providerConfig.timeoutSeconds
  providerMaxRetries := best.providerConfig.maxRetries
  visibleModelId := best.route.requestedModel
  supportsStreaming := best.route.supportsStreaming
  capabilities := best.route.capabilities

def pickBest (requestedModel : Text) (candidates : List RankedMatch) : Except RouteResolutionError RouteResolutionResult :=
  match sortedBy RankedMatch.sortKey candidates with
  | [] => .error (.modelNotFound none)
  | [best] => .ok (resolution requestedModel best)
  | best :: second :: _ =>
    if best.sortKey = second.sortKey then .error .ambiguousRoute else .ok (resolution requestedModel best)

def allowedMatches (configs : List ProviderConfig) (key : AuthenticatedGatewayKey) (routes : List ModelRoute) :
    List RankedMatch :=
  (routes.filterMap (rankedMatch configs)).filter fun m => providerAllowed key m.route.provider

def chooseRoute (configs : List ProviderConfig) (key : AuthenticatedGatewayKey) (requestedModel : Text)
    (found : Collected) : Except RouteResolutionError RouteResolutionResult :=
  let allowed := allowedMatches configs key found.matchingRoutes
  if found.matchingRoutes.isEmpty then
    .error (if found.matchedDisabledRoutes then .modelRouteDisabled else .modelNotFound none)
  else if narrowsProviders key && allowed.isEmpty then .error .providerNotAllowedForKey
  else if allowed.isEmpty then
    .error (if found.matchingRoutes.any fun r => (rankedMatch configs r).isNone then .providerDisabled
      else .modelNotFound none)
  else pickBest requestedModel allowed

def modelAllowed (key : AuthenticatedGatewayKey) (requestedModel : Text) : Bool :=
  isTrustedCalibrationKey key || key.allowAllModels || key.allowedModels.contains requestedModel

def resolveModel (collation : Text → Text) (tables : RoutingTables) (requestedModel : Text)
    (key : AuthenticatedGatewayKey) (endpoint : String) : Except RouteResolutionError RouteResolutionResult :=
  if requestedModel.isEmpty then .error (.modelNotFound (some "Model name is required"))
  else if !modelAllowed key requestedModel then .error .modelNotAllowedForKey
  else do
    let configs := listProviderConfigs collation tables.providerConfigs 100
    let found ← collectMatches requestedModel (listModelRoutes tables.modelRoutes endpoint 1000) ⟨[],false⟩
    chooseRoute configs key requestedModel found

end SlaifGateway.Routing
