import SlaifGateway.Library.Json
import SlaifGateway.Store.Schema
import Mathlib.Data.List.Sort
import Mathlib.Data.List.Dedup
import Mathlib.Data.Rat.Defs

/-! The external-tool policy contract: classification of untrusted tool declarations,
parsing of key and route policies, and the admission decision. Documents are decoded
JSON, so no object occurs twice inside another. -/
namespace SlaifGateway.Tools
open Library Store

inductive Capability where
  | webSearch
  | fileSearch
  | codeInterpreter
  | hostedShell
  | imageGeneration
  | computerUse
  | toolSearch
  | skill
  | remoteMcp
  | connector
  | urlFetch
  deriving DecidableEq, Repr

namespace Capability

def text : Capability → String
  | .webSearch => "provider_web_search"
  | .fileSearch => "provider_file_search"
  | .codeInterpreter => "provider_code_interpreter"
  | .hostedShell => "provider_hosted_shell"
  | .imageGeneration => "provider_image_generation"
  | .computerUse => "provider_computer_use"
  | .toolSearch => "provider_tool_search"
  | .skill => "provider_skill"
  | .remoteMcp => "provider_remote_mcp"
  | .connector => "provider_connector"
  | .urlFetch => "provider_url_fetch"

-- `KNOWN_EXTERNAL_CAPABILITIES`
def all : List Capability :=
  [.webSearch,.fileSearch,.codeInterpreter,.hostedShell,.imageGeneration,.computerUse,.toolSearch,.skill,.remoteMcp,
    .connector,.urlFetch]

def parse (s : String) : Option Capability := all.find? fun c => c.text = s

def takesDestination : Capability → Bool
  | .remoteMcp | .connector => true
  | _ => false

def before (a b : Capability) : Prop := a.text ≤ b.text

instance (a b : Capability) : Decidable (before a b) := inferInstanceAs (Decidable (a.text ≤ b.text))

-- `tuple(sorted(set(...)))`
def sorted (cs : List Capability) : List Capability := cs.dedup.insertionSort before
end Capability

inductive DestinationKind where
  | connector
  | remoteMcp
  deriving DecidableEq, Repr

inductive QuotaMode where
  | strictBounded
  | externalToolFenced
  deriving DecidableEq, Repr

def QuotaMode.parse (s : String) : Option QuotaMode :=
  if s = "strict_bounded" then some .strictBounded
  else if s = "external_tool_fenced" then some .externalToolFenced
  else none

inductive AuthorityClass where
  | clientOperated
  | providerExternal
  | unknownExternal
  deriving DecidableEq, Repr

section Destinations

def isOpaqueStart (c : Char) : Bool := ('a' ≤ c && c ≤ 'z') || ('0' ≤ c && c ≤ '9')

def isOpaqueChar (c : Char) : Bool := isOpaqueStart c || c = '_' || c = '-'

def isOpaque (opaqueId : List Char) : Bool :=
  match opaqueId with
  | [] => false
  | c :: rest => isOpaqueStart c && rest.length ≤ 47 && rest.all isOpaqueChar

-- `_DESTINATION_ID_PATTERN.fullmatch`
def matchDestination (s : String) : Option (DestinationKind × List Char) :=
  match s.toList.span (· ≠ ':') with
  | (kind,_ :: opaqueId) =>
    if isOpaque opaqueId then
      if kind = "connector".toList then some (.connector,opaqueId)
      else if kind = "remote_mcp".toList then some (.remoteMcp,opaqueId)
      else none
    else none
  | _ => none

def secretWords : List String :=
  ["apikey","api_key","authorization","bearer","credential","oauth","password","secret","token"]

def isNormalizedDestinationId (s : String) : Bool :=
  s.length ≤ 64 &&
    (matchDestination s).any fun (_,opaqueId) =>
      !("sk-".toList.isPrefixOf opaqueId) && !("sk_".toList.isPrefixOf opaqueId) &&
        (opaqueId.splitOnP fun c => c = '-' || c = '_').all fun term => String.ofList term ∉ secretWords

def destinationKind (s : String) : Option DestinationKind := (matchDestination s).map Prod.fst

def destinationMatchesCapability (destination : String) (c : Capability) : Bool :=
  isNormalizedDestinationId destination && c.takesDestination &&
    destinationKind destination = some (if c = .connector then .connector else .remoteMcp)
end Destinations

structure ToolAuthorityClassification where
  authorityClass : AuthorityClass
  capabilityId : Option Capability
  destinationId : Option String
  providerToolDeclaration : Bool
  unreviewedExternalAuthority : Bool
  reasonCode : String
  deriving DecidableEq, Repr

section Declarations

def clientToolAliases : List String := ["function","custom","namespace","local_shell","apply_patch"]

def providerToolAliasToCapability : List (String × Capability) :=
  [("web_search",.webSearch),("web_search_preview",.webSearch),("file_search",.fileSearch),
    ("code_interpreter",.codeInterpreter),("shell",.hostedShell),("image_generation",.imageGeneration),
    ("computer",.computerUse),("computer_use",.computerUse),("computer_use_preview",.computerUse),
    ("tool_search",.toolSearch),("skill",.skill),("skills",.skill)]

def neutralToolChoices : List String := ["none","auto","required"]

def providerAuthorityMarkers : List String :=
  ["server_url","connector_id","authorization","require_approval","defer_loading","server_label","server_description",
    "allowed_tools","api_key","bearer_token","cookie","cookies","oauth","headers"]

def maxNamespaceDepth : Nat := 4

def maxNamespaceChildDeclarations : Nat := 16

def unknownClassification (reason : String) : ToolAuthorityClassification :=
  ⟨.unknownExternal,none,none,true,false,reason⟩

def declarationControlMarkers (v : Json) : List String := v.keys.filter (· ∈ providerAuthorityMarkers)

def clientDeclarationControlMarkers (toolType : String) (v : Json) : List String :=
  declarationControlMarkers v ++
    if toolType = "function" ∨ toolType = "custom" then declarationControlMarkers (v.field toolType) else []

-- A non-empty string that `strip` leaves as it is.
def isCleanText (v : Json) : Bool := v.text?.any fun s => s ≠ "" && s = strip s

def isRecognizableClientToolShape (toolType : String) (v : Json) : Bool :=
  if toolType = "local_shell" ∨ toolType = "apply_patch" then true
  else if toolType = "function" ∨ toolType = "custom" then
    isCleanText (v.field "name") || isCleanText ((v.field toolType).field "name")
  else if toolType = "namespace" then
    isCleanText (v.field "name") && match v.field "tools" with
      | .arr _ => true
      | _ => false
  else false

def typeOf (v : Json) : Option String := (v.field "type").text?

def isNamespace (v : Json) : Bool := v.isMapping && typeOf v = some "namespace"

-- A child of a namespace, its own children left to the stack.
def childIsAcceptable (v : Json) : Bool :=
  v.isMapping && (typeOf v).any fun t =>
    t ∈ clientToolAliases && (t = "namespace" ||
      ((clientDeclarationControlMarkers t v).isEmpty && isRecognizableClientToolShape t v))

def namespaceLoop : List (Json × Nat) → Nat → Bool
  | [],_ => true
  | (ns,depth) :: stack,childCount =>
    if maxNamespaceDepth < depth then false
    else if !(clientDeclarationControlMarkers "namespace" ns).isEmpty then false
    else if !isRecognizableClientToolShape "namespace" ns then false
    else
      match found : ns.field "tools" with
      | .arr children =>
        if maxNamespaceChildDeclarations < childCount + children.length then false
        else if !children.all childIsAcceptable then false
        else namespaceLoop (((children.filter isNamespace).map fun c => (c,depth + 1)).reverse ++ stack)
          (childCount + children.length)
      | _ => false
  termination_by stack _ => (stack.map fun e => sizeOf e.1).sum
  decreasing_by
    have within := Json.fieldItemsSize found
    have fewer : ((children.filter isNamespace).map fun x => sizeOf x).sum ≤ (children.map sizeOf).sum :=
      (List.filter_sublist.map sizeOf).sum_le_sum (fun _ _ => Nat.zero_le _)
    simp only [List.map_append,List.map_reverse,List.map_map,Function.comp_def,List.sum_append,List.sum_reverse,
      List.map_cons,List.sum_cons]
    omega

def namespaceChildrenAreClientOperated (v : Json) : Bool := namespaceLoop [(v,1)] 0

def classifyWireMcp (v : Json) : ToolAuthorityClassification :=
  let markers := declarationControlMarkers v
  if "connector_id" ∈ markers ↔ "server_url" ∈ markers then unknownClassification "mcp_destination_ambiguous_or_missing"
  else
    ⟨.providerExternal,some (if "connector_id" ∈ markers then .connector else .remoteMcp),none,true,true,
      "client_mcp_destination_not_reviewed"⟩

def classifyToolDeclaration (v : Json) : ToolAuthorityClassification :=
  if !v.isMapping then unknownClassification "malformed_tool_declaration"
  else match typeOf v with
  | none => unknownClassification "malformed_tool_type"
  | some toolType =>
    if toolType = "" ∨ toolType ≠ strip toolType then unknownClassification "malformed_tool_type"
    else if toolType ∈ clientToolAliases then
      if !(clientDeclarationControlMarkers toolType v).isEmpty then unknownClassification "mixed_local_external_authority"
      else if !isRecognizableClientToolShape toolType v then unknownClassification "malformed_client_tool_shape"
      else if toolType = "namespace" && !namespaceChildrenAreClientOperated v then
        unknownClassification "namespace_child_external_or_invalid"
      else ⟨.clientOperated,none,none,false,false,"client_operated_tool"⟩
    else if toolType = "mcp" then classifyWireMcp v
    else match providerToolAliasToCapability.lookup toolType with
    | some capability =>
      if !(declarationControlMarkers v).isEmpty then unknownClassification "malformed_provider_tool_authority"
      else ⟨.providerExternal,some capability,none,true,false,"provider_external_tool"⟩
    | none => unknownClassification "unknown_tool_type"

def classifyToolChoice (v : Json) : ToolAuthorityClassification :=
  match v with
  | .null => ⟨.clientOperated,none,none,false,false,"neutral_tool_choice"⟩
  | .str s =>
    if s ∈ neutralToolChoices then ⟨.clientOperated,none,none,false,false,"neutral_tool_choice"⟩
    else { unknownClassification "unknown_tool_choice" with providerToolDeclaration := false }
  | .obj _ => { classifyToolDeclaration v with providerToolDeclaration := false }
  | _ => { unknownClassification "unknown_tool_choice" with providerToolDeclaration := false }
end Declarations

structure ExternalToolOperatorCeilings where
  maxDistinctCapabilities : Nat
  maxApprovedDestinations : Nat
  maxProviderToolDeclarationsPerRequest : Nat
  maxProviderToolCallsPerRequest : Nat
  bounded : (0 < maxDistinctCapabilities ∧ maxDistinctCapabilities ≤ 16) ∧
    (0 < maxApprovedDestinations ∧ maxApprovedDestinations ≤ 8) ∧
    (0 < maxProviderToolDeclarationsPerRequest ∧ maxProviderToolDeclarationsPerRequest ≤ 16) ∧
    (0 < maxProviderToolCallsPerRequest ∧ maxProviderToolCallsPerRequest ≤ 16)

structure ExternalToolKeyPolicy where
  mode : QuotaMode
  allowedCapabilities : List Capability
  allowedDestinationIds : List String
  maxProviderToolCallsPerRequest : Nat
  singleRequestOverrunAcknowledged : Bool
  deriving DecidableEq, Repr

structure ExternalToolRoutePolicy where
  supportedCapabilities : List Capability
  approvedDestinationIds : List String
  maxProviderToolCallsPerRequest : Nat
  callLimitEnforced : Bool
  finalUsageRequired : Bool
  finalCostRequired : Bool
  deriving DecidableEq, Repr

structure PolicyParseResult (α : Type) where
  valid : Bool
  present : Bool
  policy : Option α
  reasonCode : String
  deriving DecidableEq, Repr

section Policies
variable (ceilings : ExternalToolOperatorCeilings)

def sameKeys (v : Json) (fields : List String) : Bool := v.keys.all (· ∈ fields) && fields.all (· ∈ v.keys)

def isExactVersion (v : Json) : Bool := v.natural? = some 1

def parseCapabilityList (v : Json) (maximum : Nat) : Option (List Capability) :=
  match v with
  | .arr items =>
    if maximum < items.length then none
    else do
      let parsed ← items.mapM fun item => item.text? >>= Capability.parse
      if parsed.Nodup then some (parsed.insertionSort Capability.before) else none
  | _ => none

def parseDestinationList (v : Json) (maximum : Nat) : Option (List String) :=
  match v with
  | .arr items =>
    if maximum < items.length then none
    else do
      let parsed ← items.mapM fun item => item.text?.filter isNormalizedDestinationId
      if parsed.Nodup then some (parsed.insertionSort (· ≤ ·)) else none
  | _ => none

def destinationsMatchCapabilities (capabilities : List Capability) (destinations : List String) : Bool :=
  ((.connector ∈ capabilities : Bool) = destinations.any fun d => destinationKind d = some .connector) &&
    ((.remoteMcp ∈ capabilities : Bool) = destinations.any fun d => destinationKind d = some .remoteMcp)

def refuse (condition : Bool) (reason : String) : Except String Unit := if condition then .error reason else .ok ()

def required {α : Type} (value : Option α) (reason : String) : Except String α := value.elim (.error reason) .ok

def keyPolicyFields : List String :=
  ["version","mode","allowed_capabilities","allowed_destination_ids","max_provider_tool_calls_per_request",
    "single_request_overrun_acknowledged"]

def readKeyPolicy (v : Json) : Except String ExternalToolKeyPolicy := do
  refuse (!v.isMapping) "key_policy_invalid_shape"
  refuse (!sameKeys v keyPolicyFields) "key_policy_invalid_fields"
  refuse (!isExactVersion (v.field "version")) "key_policy_invalid_version"
  let mode ← required ((v.field "mode").text? >>= QuotaMode.parse) "key_policy_invalid_mode"
  let capabilities ← required (parseCapabilityList (v.field "allowed_capabilities") ceilings.maxDistinctCapabilities)
    "key_policy_invalid_capabilities"
  let destinations ← required (parseDestinationList (v.field "allowed_destination_ids") ceilings.maxApprovedDestinations)
    "key_policy_invalid_destinations"
  let callCap ← required (v.field "max_provider_tool_calls_per_request").natural? "key_policy_invalid_call_cap"
  let acknowledged ← required (v.field "single_request_overrun_acknowledged").bool? "key_policy_invalid_acknowledgement"
  match mode with
  | .strictBounded =>
    refuse (!capabilities.isEmpty || !destinations.isEmpty || callCap ≠ 0 || acknowledged) "key_policy_invalid_strict_shape"
  | .externalToolFenced =>
    refuse (capabilities.isEmpty || callCap = 0 || ceilings.maxProviderToolCallsPerRequest < callCap || !acknowledged ||
      !destinationsMatchCapabilities capabilities destinations) "key_policy_external_requirements_not_met"
  return ⟨mode,capabilities,destinations,callCap,acknowledged⟩

def parseResult {α : Type} (v : Json) (strict : α) (missing valid : String) (read : Except String α) : PolicyParseResult α :=
  match v with
  | .null => ⟨true,false,some strict,missing⟩
  | _ => match read with
    | .ok policy => ⟨true,true,some policy,valid⟩
    | .error reason => ⟨false,true,none,reason⟩

def parseKeyExternalToolPolicy (v : Json) : PolicyParseResult ExternalToolKeyPolicy :=
  parseResult v ⟨.strictBounded,[],[],0,false⟩ "key_policy_missing_strict_default" "key_policy_valid"
    (readKeyPolicy ceilings v)

def routePolicyFields : List String :=
  ["version","supported_capabilities","approved_destination_ids","max_provider_tool_calls_per_request",
    "call_limit_enforced","final_usage_required","final_cost_required"]

def readRoutePolicy (v : Json) : Except String ExternalToolRoutePolicy := do
  refuse (!v.isMapping) "route_policy_invalid_shape"
  refuse (!sameKeys v routePolicyFields) "route_policy_invalid_fields"
  refuse (!isExactVersion (v.field "version")) "route_policy_invalid_version"
  let capabilities ← required (parseCapabilityList (v.field "supported_capabilities") ceilings.maxDistinctCapabilities)
    "route_policy_invalid_capabilities"
  let destinations ← required (parseDestinationList (v.field "approved_destination_ids") ceilings.maxApprovedDestinations)
    "route_policy_invalid_destinations"
  let callCap ← required (v.field "max_provider_tool_calls_per_request").natural? "route_policy_invalid_call_cap"
  let enforced ← required (v.field "call_limit_enforced").bool? "route_policy_invalid_evidence_flags"
  let usage ← required (v.field "final_usage_required").bool? "route_policy_invalid_evidence_flags"
  let cost ← required (v.field "final_cost_required").bool? "route_policy_invalid_evidence_flags"
  if capabilities.isEmpty then
    refuse (!destinations.isEmpty || callCap ≠ 0 || enforced || usage || cost) "route_policy_invalid_strict_shape"
  else
    refuse (callCap = 0 || ceilings.maxProviderToolCallsPerRequest < callCap || !(enforced && usage && cost) ||
      !destinationsMatchCapabilities capabilities destinations) "route_policy_external_requirements_not_met"
  return ⟨capabilities,destinations,callCap,enforced,usage,cost⟩

def parseRouteExternalToolPolicy (v : Json) : PolicyParseResult ExternalToolRoutePolicy :=
  parseResult v ⟨[],[],0,false,false,false⟩ "route_policy_missing_strict_default" "route_policy_valid"
    (readRoutePolicy ceilings v)
end Policies

-- The arguments of `classify_external_tool_request`; a reviewed entry of another type is `none`.
structure RequestFacts where
  tools : Json
  toolChoice : Json
  webSearchOptionsPresent : Json
  searchSpecificModel : Json
  providerUrlFetchRequested : Json
  reviewedExternalTools : List (Option ToolAuthorityClassification)
  requestedProviderToolCallsPerRequest : Json
  unsupportedExternalState : Json
  approvalFloorSatisfied : Json

structure ClassifiedExternalToolRequest where
  capabilities : List Capability
  destinationIds : List String
  providerToolDeclarationCount : Nat
  requestedProviderToolCallsPerRequest : Nat
  unknownExternalAuthority : Bool
  unreviewedExternalAuthority : Bool
  unsupportedExternalState : Bool
  approvalFloorSatisfied : Bool
  deriving DecidableEq, Repr

namespace ClassifiedExternalToolRequest
variable (r : ClassifiedExternalToolRequest)

def hasExternalAuthority : Bool :=
  !r.capabilities.isEmpty || r.unknownExternalAuthority || r.unreviewedExternalAuthority || r.unsupportedExternalState

def requiresProviderToolCalls : Bool := r.capabilities.any (· ≠ .urlFetch)
end ClassifiedExternalToolRequest

namespace RequestFacts
variable (f : RequestFacts)

def declared : List ToolAuthorityClassification :=
  match f.tools with
  | .null => []
  | .arr tools => tools.map classifyToolDeclaration
  | _ => [unknownClassification "malformed_tools_collection"]

def choice : List ToolAuthorityClassification :=
  let choice := classifyToolChoice f.toolChoice
  if choice.capabilityId.isSome || choice.authorityClass = .unknownExternal then [choice] else []

def flags : List (Option Bool) :=
  [f.webSearchOptionsPresent.bool?,f.searchSpecificModel.bool?,f.providerUrlFetchRequested.bool?,
    f.unsupportedExternalState.bool?,f.approvalFloorSatisfied.bool?]

def flagsMalformed : Bool := f.flags.any Option.isNone

def flagged : List ToolAuthorityClassification :=
  if f.flagsMalformed then []
  else
    (if f.webSearchOptionsPresent.bool? = some true ∨ f.searchSpecificModel.bool? = some true then
      [⟨.providerExternal,some .webSearch,none,true,false,"provider_external_web_search"⟩] else []) ++
    if f.providerUrlFetchRequested.bool? = some true then
      [⟨.providerExternal,some .urlFetch,none,false,false,"provider_external_url_fetch"⟩] else []

def isReviewed (item : ToolAuthorityClassification) : Bool :=
  item.authorityClass = .providerExternal && item.capabilityId.isSome && !item.unreviewedExternalAuthority

def reviewed : List ToolAuthorityClassification := (f.reviewedExternalTools.filterMap id).filter isReviewed

def reviewedMalformed : Bool := f.reviewedExternalTools.any fun item => !item.any isReviewed

def classifications : List ToolAuthorityClassification := f.declared ++ f.choice ++ f.flagged ++ f.reviewed
end RequestFacts

-- `none` is the `ValueError` of a destination that is not canonical.
def classifyExternalToolRequest (f : RequestFacts) : Option ClassifiedExternalToolRequest :=
  let items := f.classifications
  let destinations := (items.filterMap ToolAuthorityClassification.destinationId).dedup.insertionSort (· ≤ ·)
  if destinations.all isNormalizedDestinationId then
    some {
      capabilities := Capability.sorted (items.filterMap ToolAuthorityClassification.capabilityId)
      destinationIds := destinations
      providerToolDeclarationCount := (items.filter ToolAuthorityClassification.providerToolDeclaration).length
      requestedProviderToolCallsPerRequest := f.requestedProviderToolCallsPerRequest.natural?.getD 0
      unknownExternalAuthority := f.flagsMalformed || f.reviewedMalformed ||
        items.any (fun item => item.authorityClass = .unknownExternal) ||
        f.requestedProviderToolCallsPerRequest.natural?.isNone
      unreviewedExternalAuthority := items.any ToolAuthorityClassification.unreviewedExternalAuthority
      unsupportedExternalState := f.unsupportedExternalState.bool?.getD true
      approvalFloorSatisfied := f.approvalFloorSatisfied.bool?.getD false }
  else none

inductive Decimal where
  | finite (value : ℚ)
  | infinite (negative : Bool)
  | nan
  deriving DecidableEq

def Decimal.isPositiveFinite : Decimal → Bool
  | .finite value => 0 < value
  | _ => false

structure ExternalToolKeyLimitFacts where
  keyPurpose : KeyPurpose
  requestLimitTotal : Option Int
  tokenLimitTotal : Option Int
  costLimitEur : Option Decimal

def ExternalToolKeyLimitFacts.positiveFinite (l : ExternalToolKeyLimitFacts) : Bool :=
  l.requestLimitTotal.any (0 < ·) && l.tokenLimitTotal.any (0 < ·) && l.costLimitEur.any Decimal.isPositiveFinite

structure ExternalToolAdmissionDecision where
  allowed : Bool
  quotaMode : QuotaMode
  effectiveToolCallCap : Nat
  reasonCode : String
  exclusiveKeyFenceRequired : Bool
  singleRequestOverrunAccepted : Bool
  holdOnMissingOrAmbiguousFinalCost : Bool
  followingRequestsBlockAfterExhaustion : Bool
  deriving DecidableEq, Repr

def decision (allowed : Bool) (quotaMode : QuotaMode) (effectiveCap : Nat) (reason : String) : ExternalToolAdmissionDecision :=
  let fenced := allowed && quotaMode = .externalToolFenced
  ⟨allowed,quotaMode,effectiveCap,reason,fenced,fenced,fenced,fenced⟩

section Admission
variable (request : ClassifiedExternalToolRequest) (keyPolicy : PolicyParseResult ExternalToolKeyPolicy)
  (routePolicy : PolicyParseResult ExternalToolRoutePolicy) (ceilings : ExternalToolOperatorCeilings)
  (keyLimits : ExternalToolKeyLimitFacts)

def effectiveCap (key : ExternalToolKeyPolicy) (route : ExternalToolRoutePolicy) : Nat :=
  min (min key.maxProviderToolCallsPerRequest route.maxProviderToolCallsPerRequest) ceilings.maxProviderToolCallsPerRequest

-- The checks of a request with external authority; the result is the effective cap.
def fencedChecks : Except String Nat := do
  refuse request.unknownExternalAuthority "unknown_external_authority"
  refuse request.unsupportedExternalState "unsupported_external_state"
  refuse request.unreviewedExternalAuthority "unreviewed_external_authority"
  refuse (!request.approvalFloorSatisfied) "approval_floor_not_satisfied"
  refuse (ceilings.maxDistinctCapabilities < request.capabilities.length) "operator_capability_ceiling_exceeded"
  refuse (ceilings.maxApprovedDestinations < request.destinationIds.length) "operator_destination_ceiling_exceeded"
  refuse (ceilings.maxProviderToolDeclarationsPerRequest < request.providerToolDeclarationCount)
    "operator_declaration_ceiling_exceeded"
  refuse (ceilings.maxProviderToolCallsPerRequest < request.requestedProviderToolCallsPerRequest)
    "operator_call_ceiling_exceeded"
  refuse (request.requiresProviderToolCalls && request.requestedProviderToolCallsPerRequest = 0)
    "provider_tool_call_cap_required"
  let key ← required (keyPolicy.policy.filter fun _ => keyPolicy.valid) "key_policy_invalid"
  refuse (!keyPolicy.present) "key_policy_missing"
  refuse (key.mode ≠ .externalToolFenced) "strict_bounded_external_authority_denied"
  let route ← required (routePolicy.policy.filter fun _ => routePolicy.valid) "route_policy_invalid"
  refuse (!routePolicy.present || route.supportedCapabilities.isEmpty) "route_external_support_missing"
  refuse (!request.capabilities.all (· ∈ key.allowedCapabilities)) "key_capability_mismatch"
  refuse (!request.capabilities.all (· ∈ route.supportedCapabilities)) "route_capability_mismatch"
  refuse (!request.destinationIds.all (· ∈ key.allowedDestinationIds)) "key_destination_mismatch"
  refuse (!request.destinationIds.all (· ∈ route.approvedDestinationIds)) "route_destination_mismatch"
  refuse (request.capabilities.any fun c =>
    c.takesDestination && !request.destinationIds.any fun d => destinationMatchesCapability d c) "request_destination_missing"
  let cap := effectiveCap ceilings key route
  refuse (cap < request.requestedProviderToolCallsPerRequest) "effective_call_cap_exceeded"
  refuse (!(route.callLimitEnforced && route.finalUsageRequired && route.finalCostRequired)) "route_evidence_contract_missing"
  refuse (!key.singleRequestOverrunAcknowledged) "single_request_overrun_not_acknowledged"
  refuse (keyLimits.keyPurpose ≠ .standard) "standard_key_required"
  refuse (!keyLimits.positiveFinite) "positive_finite_key_limits_required"
  return cap

def decideExternalToolAdmission : ExternalToolAdmissionDecision :=
  if !request.hasExternalAuthority then decision true .strictBounded 0 "no_external_authority"
  else match fencedChecks request keyPolicy routePolicy ceilings keyLimits with
    | .error reason => decision false .strictBounded 0 reason
    | .ok cap => decision true .externalToolFenced cap "external_tool_fenced_allowed"
end Admission
end SlaifGateway.Tools
