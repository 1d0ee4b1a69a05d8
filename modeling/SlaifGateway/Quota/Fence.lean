import SlaifGateway.Quota.QuotaService

/-! The exclusive per-key external-tool fence: acquisition and resolution inside a
caller's transaction. The stored key policy reaches this module parsed; inspection
and audit rows are absent. -/
namespace SlaifGateway.Quota
open Store Library Library.Tx Library.Table

structure FenceRouteFacts where
  endpoint : String
  requestedModel : String
  provider : String
  routeId : Uuid
  deriving DecidableEq, Repr

structure ExternalToolAdmissionDecision where
  allowed : Bool
  quotaMode : QuotaMode
  effectiveToolCallCap : ℤ
  reasonCode : String
  exclusiveKeyFenceRequired : Bool
  singleRequestOverrunAccepted : Bool
  holdOnMissingOrAmbiguousFinalCost : Bool
  followingRequestsBlockAfterExhaustion : Bool
  deriving DecidableEq, Repr

structure AcquireInput where
  gatewayKeyId : Uuid
  requestId : String
  route : FenceRouteFacts
  capabilities : List String
  destinationIds : List String
  decision : ExternalToolAdmissionDecision
  now : Time
  ttl : Time
  newId : Uuid
  deriving DecidableEq, Repr

structure FenceResult where
  gatewayKeyId : Uuid
  requestId : String
  reservationId : Uuid
  fenceState : FenceState
  reserved : Amounts
  acquiredAt : Option Time
  expiresAt : Option Time
  capabilities : List String
  destinationIds : List String
  idempotent : Bool
  deriving DecidableEq, Repr

structure FenceResolveResult where
  gatewayKeyId : Uuid
  fenceState : FenceState
  resolved : Bool
  deriving DecidableEq, Repr

def invalidFenceInput (message code : String) : ServiceError := ErrorKind.invalidExternalToolFenceInput.coded message code

def fenceInvariant (message code : String) : ServiceError := ErrorKind.externalToolFenceInvariant.coded message code

def fenceConflict (code : String) : ServiceError :=
  ErrorKind.externalToolFenceConflict.coded ErrorKind.externalToolFenceConflict.message code

/-- The shared shape of the four text checks: not blank, at most 255 code points, no control characters. -/
def validateSafeText (emptyMessage unsafeMessage code value : String) : Action String := do
  raiseIf (blank value) (invalidFenceInput emptyMessage code)
  raiseIf (255 < value.toList.length ∨ value.toList.any fun c => c.toNat < 0x20) (invalidFenceInput unsafeMessage code)
  pure value

def validateRequestId : String → Action String :=
  validateSafeText "A bounded non-empty request ID is required"
    "Request ID exceeds the safe length or contains control characters" "external_tool_fence_request_id_invalid"

def validateRequestedModel : String → Action String :=
  validateSafeText "A requested model is required for fence acquisition"
    "Requested model exceeds the safe length or contains control characters" "external_tool_fence_model_invalid"

def validateProvider : String → Action String :=
  validateSafeText "A provider is required for fence acquisition"
    "Provider exceeds the safe length or contains control characters" "external_tool_fence_provider_invalid"

def validateEndpoint : String → Action String :=
  validateSafeText "A safe endpoint is required"
    "Endpoint exceeds the safe length or contains control characters" "external_tool_fence_endpoint_invalid"

def validateTtl (ttl : Time) : Action Time := do
  raiseIf (ttl ≤ 0) (invalidFenceInput "Fence TTL must be a positive duration" "external_tool_fence_ttl_invalid")
  pure ttl

def knownExternalCapabilities : List String :=
  ["provider_web_search","provider_file_search","provider_code_interpreter","provider_hosted_shell",
   "provider_image_generation","provider_computer_use","provider_tool_search","provider_skill",
   "provider_remote_mcp","provider_connector","provider_url_fetch"]

def maxDistinctCapabilities : Nat := 16

def maxApprovedDestinations : Nat := 8

def validateCapabilities (capabilities : List String) : Action (List String) := do
  raiseIf (capabilities = []) <| invalidFenceInput "A fenced acquisition requires at least one canonical capability"
    "external_tool_fence_capabilities_empty"
  raiseIf (∃ c ∈ capabilities, c ∉ knownExternalCapabilities) <| invalidFenceInput
    "Capabilities must be known canonical external tool capability IDs" "external_tool_fence_capability_unknown"
  raiseIf (¬capabilities.Nodup) <| invalidFenceInput "Capabilities must be unique"
    "external_tool_fence_capability_duplicate"
  raiseIf (maxDistinctCapabilities < capabilities.length) <| invalidFenceInput
    "Capabilities exceed the operator ceiling" "external_tool_fence_capabilities_over_ceiling"
  pure (capabilities.insertionSort (· ≤ ·))

def opaqueIdentifier : List Char → Bool
  | [] => false
  | head :: tail => (head.isLower || head.isDigit) && tail.length ≤ 47 &&
      tail.all fun c => c.isLower || c.isDigit || c == '_' || c == '-'

/-- `_DESTINATION_ID_PATTERN`: the capability a well-formed destination id requires. -/
def destinationCapability (value : String) : Option String :=
  if "connector:".toList.isPrefixOf value.toList ∧ opaqueIdentifier (value.toList.drop 10) then
    some "provider_connector"
  else if "remote_mcp:".toList.isPrefixOf value.toList ∧ opaqueIdentifier (value.toList.drop 11) then
    some "provider_remote_mcp"
  else none

def validateDestinationIds (destinationIds capabilities : List String) : Action (List String) := do
  raiseIf (∃ d ∈ destinationIds, destinationCapability d = none) <| invalidFenceInput
    "Destination IDs must be normalized opaque identifiers" "external_tool_fence_destination_malformed"
  raiseIf (¬destinationIds.Nodup) <| invalidFenceInput "Destination IDs must be unique"
    "external_tool_fence_destination_duplicate"
  raiseIf (maxApprovedDestinations < destinationIds.length) <| invalidFenceInput
    "Destination IDs exceed the operator ceiling" "external_tool_fence_destinations_over_ceiling"
  raiseIf (∃ d ∈ destinationIds, ∃ required ∈ destinationCapability d, required ∉ capabilities) <| invalidFenceInput
    "A destination requires its matching capability to be present"
    "external_tool_fence_destination_capability_mismatch"
  pure (destinationIds.insertionSort (· ≤ ·))

def validateDecision (d : ExternalToolAdmissionDecision) : Action Unit := do
  raiseIf (d.allowed = false) <| invalidFenceInput "External tool admission decision is not allowed"
    "external_tool_fence_decision_denied"
  raiseIf (d.quotaMode ≠ .externalToolFenced) <| invalidFenceInput "External tool admission decision is not fenced"
    "external_tool_fence_decision_not_fenced"
  raiseIf (d.effectiveToolCallCap ≤ 0) <| invalidFenceInput
    "A fenced decision requires a positive effective tool call cap" "external_tool_fence_decision_call_cap"
  raiseIf (d.reasonCode ≠ "external_tool_fenced_allowed") <| invalidFenceInput
    "A fenced decision must carry the canonical allowed reason" "external_tool_fence_decision_reason"
  raiseIf (¬(d.exclusiveKeyFenceRequired ∧ d.singleRequestOverrunAccepted ∧ d.holdOnMissingOrAmbiguousFinalCost ∧
      d.followingRequestsBlockAfterExhaustion)) <| invalidFenceInput
    "A fenced decision requires all exclusive obligations to be true" "external_tool_fence_decision_obligations"

/-- `_require_positive_finite_limits`, returning the limits it found. -/
def requirePositiveFiniteLimits (k : GatewayKey) : Action Amounts := do
  let cost ← orRaise (k.limit.costEur.filter fun c => 0 < c) <| invalidFenceInput
    "Fenced keys require a positive finite cost limit" "external_tool_fence_cost_limit"
  let tokens ← orRaise (k.limit.tokens.filter fun t => 0 < t) <| invalidFenceInput
    "Fenced keys require a positive token limit" "external_tool_fence_token_limit"
  let requests ← orRaise (k.limit.requests.filter fun n => 0 < n) <| invalidFenceInput
    "Fenced keys require a positive request limit" "external_tool_fence_request_limit"
  pure ⟨cost,tokens,requests⟩

def validateKeyForFence (k : GatewayKey) (now : Time) : Action Amounts := do
  raiseIf (k.status ≠ .active) <| invalidFenceInput "Only an active gateway key can acquire a fence"
    "external_tool_fence_key_not_active"
  raiseIf (k.keyPurpose ≠ .standard) <| invalidFenceInput "Only a standard gateway key can acquire a fence"
    "external_tool_fence_key_not_standard"
  raiseIf (now < k.validFrom ∨ k.validUntil ≤ now) <| invalidFenceInput "Gateway key is outside its validity window"
    "external_tool_fence_invalid_window"
  requirePositiveFiniteLimits k

def validateStoredFencedPolicy (k : GatewayKey) (capabilities destinationIds : List String)
    (d : ExternalToolAdmissionDecision) : Action Unit := do
  let policy ← orRaise k.externalToolPolicy <| invalidFenceInput
    "Stored external tool policy is missing or malformed" "external_tool_fence_policy_invalid"
  raiseIf (policy.mode ≠ .externalToolFenced) <| invalidFenceInput "Gateway key stored policy is not fenced"
    "external_tool_fence_policy_not_fenced"
  raiseIf (∃ c ∈ capabilities, c ∉ policy.allowedCapabilities) <| invalidFenceInput
    "Requested capabilities are not permitted by the stored policy" "external_tool_fence_capability_not_permitted"
  raiseIf (∃ c ∈ destinationIds, c ∉ policy.allowedDestinationIds) <| invalidFenceInput
    "Requested destinations are not permitted by the stored policy" "external_tool_fence_destination_not_permitted"
  raiseIf (policy.maxProviderToolCallsPerRequest < d.effectiveToolCallCap) <| invalidFenceInput
    "Decision call cap exceeds the stored policy ceiling" "external_tool_fence_decision_call_cap_over_ceiling"

def rejectExistingKeyExposure (k : GatewayKey) : Action Unit := do
  let pending ← listPendingReservationsForKey k.id
  raiseIf (pending ≠ []) <| ErrorKind.externalToolFenceOccupied.coded
    "This key has a pending quota reservation that blocks a new fence" "external_tool_fence_pending_reservation"
  raiseIf (k.reserved ≠ 0) <| ErrorKind.externalToolFenceOccupied.coded
    "This key has unreconciled reserved counters that block a new fence" "external_tool_fence_counters_nonzero"

/-- The reservation an acquisition creates over the whole remaining balance. -/
def AcquireInput.reservation (i : AcquireInput) (capabilities destinationIds : List String) (remaining : Amounts) :
    QuotaReservation where
  id := i.newId
  gatewayKeyId := i.gatewayKeyId
  requestId := i.requestId
  endpoint := i.route.endpoint
  requestedModel := some i.route.requestedModel
  provider := none
  resolvedModel := none
  streaming := none
  quotaMode := .externalToolFenced
  externalToolCapabilities := capabilities
  externalToolDestinationIds := destinationIds
  externalToolProvider := some i.route.provider
  externalToolRouteId := some i.route.routeId
  reserved := ⟨remaining.costEur,remaining.tokens,1⟩
  status := .pending
  expiresAt := i.now + i.ttl
  finalizedAt := none
  releasedAt := none

/-- `_reservation_matches`: exact retry identity. -/
def AcquireInput.Matches (i : AcquireInput) (capabilities destinationIds : List String) (r : QuotaReservation) : Prop :=
  r.gatewayKeyId = i.gatewayKeyId ∧ r.requestId = i.requestId ∧ r.endpoint = i.route.endpoint ∧
  r.requestedModel = some i.route.requestedModel ∧ r.externalToolProvider = some i.route.provider ∧
  r.externalToolRouteId = some i.route.routeId ∧ r.externalToolCapabilities = capabilities ∧
  r.externalToolDestinationIds = destinationIds ∧ r.quotaMode = .externalToolFenced

instance (i : AcquireInput) (c d : List String) (r : QuotaReservation) : Decidable (i.Matches c d r) := by
  unfold AcquireInput.Matches; infer_instance

def projectionResult (k : GatewayKey) (r : QuotaReservation) (idempotent : Bool) : FenceResult :=
  ⟨k.id,k.fence.requestId.getD r.requestId,r.id,k.fence.state,r.reserved,k.fence.acquiredAt,k.fence.expiresAt,
    r.externalToolCapabilities,r.externalToolDestinationIds,idempotent⟩

/-- The branch for a key whose fence is already bound: an exact retry, or a refusal. -/
def acquireBound (i : AcquireInput) (k : GatewayKey) (capabilities destinationIds : List String) :
    Action FenceResult := do
  raiseIf (¬(k.fence.state = .active ∧ k.fence.requestId = some i.requestId ∧ k.fence.reservationId ≠ none))
    ErrorKind.externalToolFenceActive.error
  let reservationId ← orRaise k.fence.reservationId ErrorKind.externalToolFenceActive.error
  let reservation ← orRaise (← getReservationById reservationId) <|
    fenceInvariant "Fence references a missing reservation" "external_tool_fence_reservation_missing"
  raiseIf (reservation.gatewayKeyId ≠ k.id) <| fenceInvariant
    "Fence reservation does not belong to the fenced key" "external_tool_fence_reservation_key_mismatch"
  raiseIf (reservation.status ≠ .pending) <| fenceInvariant
    "Active fence retry requires a pending reservation" "external_tool_fence_reservation_not_pending"
  raiseIf (reservation.quotaMode ≠ .externalToolFenced) <| fenceInvariant
    "Active fence retry requires a fenced reservation" "external_tool_fence_reservation_not_fenced"
  raiseIf (¬i.Matches capabilities destinationIds reservation) ErrorKind.externalToolFenceConflict.error
  pure (projectionResult k reservation true)

/-- The branch for a free key: the whole remaining balance is reserved under a new fence. -/
def acquireFree (i : AcquireInput) (k : GatewayKey) (limit : Amounts) (capabilities destinationIds : List String) :
    Action FenceResult := do
  rejectExistingKeyExposure k
  let existing ← getReservationByRequestId i.requestId
  raiseIf (existing ≠ none) <| ErrorKind.externalToolFenceConflict.coded
    "This request ID is already bound to a quota reservation" "external_tool_fence_request_id_reused"
  let remaining := limit - k.used - k.reserved
  raiseIf (remaining.requests < 1 ∨ remaining.tokens ≤ 0 ∨ remaining.costEur ≤ 0)
    ErrorKind.externalToolFenceExhausted.error
  let reservation ← createReservation (i.reservation capabilities destinationIds remaining)
  let counted ← addReservedCounters k reservation.reserved
  let fenced ← setExternalToolFence counted
    ⟨.active,some reservation.id,some i.requestId,some i.now,some (i.now + i.ttl)⟩
  pure (projectionResult fenced reservation false)

def acquire (i : AcquireInput) : Action FenceResult := do
  let _ ← validateTtl i.ttl
  let _ ← validateRequestId i.requestId
  let _ ← validateEndpoint i.route.endpoint
  let _ ← validateRequestedModel i.route.requestedModel
  let _ ← validateProvider i.route.provider
  let capabilities ← validateCapabilities i.capabilities
  let destinationIds ← validateDestinationIds i.destinationIds capabilities
  validateDecision i.decision
  let gatewayKey ← orRaise (← getGatewayKeyForUpdate i.gatewayKeyId) <| fenceInvariant
    "Gateway key could not be locked for fence acquisition" "external_tool_fence_key_missing"
  let limit ← validateKeyForFence gatewayKey i.now
  validateStoredFencedPolicy gatewayKey capabilities destinationIds i.decision
  if gatewayKey.fence.state ≠ .none then acquireBound i gatewayKey capabilities destinationIds
  else acquireFree i gatewayKey limit capabilities destinationIds

def validateBoundRouteFacts (r : QuotaReservation) : Action Unit := do
  let routeFactsInvalid := fenceInvariant "Fence reservation bound provider or model facts are invalid"
    "external_tool_fence_reservation_route_facts_invalid"
  let _ ← relabel (fun _ => routeFactsInvalid) do
    let _ ← validateProvider (r.externalToolProvider.getD "")
    validateRequestedModel (r.requestedModel.getD "")
  raiseIf (r.externalToolRouteId = none) <| fenceInvariant
    "Fence reservation is missing its bound route identifier" "external_tool_fence_reservation_route_facts_invalid"

def verifyReservedCountersZero (k : GatewayKey) : Action Unit :=
  raiseIf (k.reserved ≠ 0) <| fenceInvariant
    "Key reserved counters are not exactly zero; the fence must stay" "external_tool_fence_counters_inconsistent"

/-- The terminal ledger row the reservation's own status requires. -/
def ledgerTerminal (r : QuotaReservation) (l : UsageLedger) : Bool :=
  if r.status = .finalized then l.accountingStatus = .finalized ∧ l.success ≠ none
  else l.accountingStatus = .failed ∧ l.success = some false

def ledgerMismatchMessage (r : QuotaReservation) : String :=
  if r.status = .finalized then "Finalized reservation requires a finalized boolean-outcome usage ledger"
  else "Released reservation requires a failed usage ledger"

/-- The evidence checks of `resolve`, after the key and the reservation are locked, and the clearing write. -/
def resolveLocked (gatewayKeyId : Uuid) (requestId : String) (k : GatewayKey) (r : QuotaReservation) :
    Action FenceResolveResult := do
  raiseIf (r.gatewayKeyId ≠ k.id) <| fenceInvariant "Fence reservation does not belong to the locked key"
    "external_tool_fence_reservation_key_mismatch"
  raiseIf (r.requestId ≠ requestId) <| fenceInvariant "Fence reservation request ID does not match the fence"
    "external_tool_fence_reservation_request_mismatch"
  raiseIf (r.quotaMode ≠ .externalToolFenced) <| fenceInvariant
    "Fence reservation is not in the external tool fenced mode" "external_tool_fence_reservation_not_fenced"
  validateBoundRouteFacts r
  raiseIf (r.status ≠ .finalized ∧ r.status ≠ .released) <| fenceInvariant
    "Cannot resolve a fence whose reservation is not terminal" "external_tool_fence_reservation_not_terminal"
  let ledgers ← getUsageRecordsByReservationId r.id
  raiseIf (ledgers.length ≠ 1) <| fenceInvariant "Fence resolution requires exactly one linked usage ledger"
    "external_tool_fence_ledger_count"
  let ledger ← orRaise ledgers.head? <| fenceInvariant "Fence resolution requires exactly one linked usage ledger"
    "external_tool_fence_ledger_count"
  raiseIf (ledger.gatewayKeyId ≠ k.id) <| fenceInvariant "Linked usage ledger does not belong to the locked key"
    "external_tool_fence_ledger_key_mismatch"
  raiseIf (ledger.endpoint ≠ r.endpoint ∨ some ledger.provider ≠ r.externalToolProvider ∨
      ledger.requestedModel ≠ r.requestedModel ∨ ledger.requestId ≠ r.requestId) <| fenceInvariant
    "Usage ledger endpoint, provider, or model facts disagree with the reservation"
    "external_tool_fence_ledger_facts_mismatch"
  raiseIf (¬ledgerTerminal r ledger) <| fenceInvariant (ledgerMismatchMessage r) "external_tool_fence_ledger_mismatch"
  verifyReservedCountersZero k
  let _ ← setExternalToolFence k .clear
  pure ⟨gatewayKeyId,.none,true⟩

def resolve (gatewayKeyId : Uuid) (requestId : String) (permitHeld : Bool) : Action FenceResolveResult := do
  let seen ← orRaise (← getGatewayKeyById gatewayKeyId) <| fenceInvariant
    "Gateway key could not be locked for fence resolution" "external_tool_fence_key_missing"
  let state := seen.fence.state
  if state = .none then pure ⟨gatewayKeyId,.none,false⟩
  else if state = .held ∧ permitHeld = false then pure ⟨gatewayKeyId,.held,false⟩
  else
    raiseIf (seen.fence.requestId ≠ some requestId) (fenceConflict "external_tool_fence_resolution_request_mismatch")
    let reservationId ← orRaise seen.fence.reservationId <|
      fenceConflict "external_tool_fence_resolution_request_mismatch"
    let reservation ← orRaise (← getReservationByIdForUpdate reservationId) <| fenceInvariant
      "Fence references a missing reservation" "external_tool_fence_reservation_missing"
    let locked ← orRaise (← getGatewayKeyForUpdate gatewayKeyId) <| fenceInvariant
      "Gateway key could not be locked for fence resolution" "external_tool_fence_key_missing"
    if permitHeld ∧ (state ≠ .held ∨ locked.fence.state ≠ .held) then
      if locked.fence.state = .none then pure ⟨gatewayKeyId,.none,false⟩
      else throw (fenceConflict "external_tool_fence_held_state_changed")
    else if state = .active ∧ locked.fence.state = .held ∧ permitHeld = false then pure ⟨gatewayKeyId,.held,false⟩
    else if locked.fence.state = .none ∨ locked.fence.reservationId ≠ some reservationId ∨
        locked.fence.requestId ≠ some requestId then
      if locked.fence.state = .none then pure ⟨gatewayKeyId,.none,false⟩
      else if locked.fence.state = .held ∧ (permitHeld = false ∨ state ≠ .held) then pure ⟨gatewayKeyId,.held,false⟩
      else throw (fenceConflict "external_tool_fence_resolution_state_changed")
    else resolveLocked gatewayKeyId requestId locked reservation

/-- An exact retry found its own active fence and changed nothing. -/
structure Retried (i : AcquireInput) (db : Db) (k : GatewayKey) (r : QuotaReservation) : Prop where
  key : k ∈ db.gatewayKeys
  named : k.id = i.gatewayKeyId
  active : k.fence.state = .active
  request : k.fence.requestId = some i.requestId
  reservation : k.fence.reservationId = some r.id
  here : r ∈ db.quotaReservations
  pending : r.status = .pending
  own : r.gatewayKeyId = k.id

/-- A free, unexposed key was fenced over its whole remaining balance. -/
structure Fenced (i : AcquireInput) (db db' : Db) (k k' : GatewayKey) (r : QuotaReservation) : Prop where
  opened : Opened db db' k k' r
  named : k.id = i.gatewayKeyId
  fence : k'.fence = ⟨.active,some r.id,some r.requestId,some i.now,some (i.now + i.ttl)⟩
  mode : r.quotaMode = .externalToolFenced
  request : r.requestId = i.requestId
  idle : ∀ x ∈ db.quotaReservations, x.gatewayKeyId = k.id → x.status ≠ .pending
  zero : k.reserved = 0

theorem acquireBoundRetried {i k c d s a s'} (here : k ∈ s.db.gatewayKeys) (named : k.id = i.gatewayKeyId)
    (ok : (acquireBound i k c d).Returns s a s') :
    s'.db = s.db ∧ a.idempotent = true ∧ ∃ r, Retried i s.db k r := by
  simp [acquireBound,getReservationById] at ok
  obtain ⟨⟨active,request,-⟩,id,bound,r,found,own,pending,-,⟨-,rfl⟩,rfl⟩ := ok
  obtain ⟨present,rfl⟩ := reservationFound.mp found
  exact ⟨rfl,rfl,r,here,named,active,request,bound,present,pending,own⟩

theorem acquireFreeFenced {i k limit c d s a s'} (here : k ∈ s.db.gatewayKeys) (named : k.id = i.gatewayKeyId)
    (free : k.fence.state = .none) (finite : k.limit = ⟨some limit.costEur,some limit.tokens,some limit.requests⟩)
    (ok : (acquireFree i k limit c d).Returns s a s') :
    ∃ k' r, Fenced i s.db s'.db k k' r := by
  simp [acquireFree,rejectExistingKeyExposure,listPendingReservationsForKey,getReservationByRequestId,
    addReservedCounters,setExternalToolFence] at ok
  obtain ⟨unexposed,zero,-,⟨requests,-,-⟩,t,inserted,t',counted,⟨t'',fenced,rfl⟩,-⟩ := ok
  have added := updateOk here counted rfl
  have keys := added.trans (updateOk added.memNew fenced rfl)
  have room : Limits.Allows k.limit (k.used + k.reserved +
      (i.reservation c d (limit - k.used - k.reserved)).reserved) := by
    simp [finite,Limits.Allows,AcquireInput.reservation]
    omega
  have idle : ∀ x ∈ s.db.quotaReservations, x.gatewayKeyId = k.id → x.status ≠ .pending := by
    intro x mem own pending
    exact filterNil unexposed mem (by simp [isPendingOf,own,pending])
  exact ⟨_,_,⟨⟨keys,insertOk inserted,rfl,rfl,named.symm,rfl,room,free,Or.inr ⟨rfl,idle⟩⟩,named,rfl,rfl,rfl,idle,zero⟩⟩

/-- The input checks read no row and write none. -/
theorem safeTextQuiet {m m' c value s a s'} (ok : (validateSafeText m m' c value).Returns s a s') : s = s' := by
  simp only [validateSafeText,returnsBind,returnsRaiseIf,returnsPure] at ok
  obtain ⟨_,_,⟨-,rfl⟩,_,_,⟨-,rfl⟩,-,rfl⟩ := ok
  rfl

theorem capabilitiesQuiet {c s a s'} (ok : (validateCapabilities c).Returns s a s') : s = s' := by
  simp only [validateCapabilities,returnsBind,returnsRaiseIf,returnsPure] at ok
  obtain ⟨_,_,⟨-,rfl⟩,_,_,⟨-,rfl⟩,_,_,⟨-,rfl⟩,_,_,⟨-,rfl⟩,-,rfl⟩ := ok
  rfl

theorem destinationIdsQuiet {d c s a s'} (ok : (validateDestinationIds d c).Returns s a s') : s = s' := by
  simp only [validateDestinationIds,returnsBind,returnsRaiseIf,returnsPure] at ok
  obtain ⟨_,_,⟨-,rfl⟩,_,_,⟨-,rfl⟩,_,_,⟨-,rfl⟩,_,_,⟨-,rfl⟩,-,rfl⟩ := ok
  rfl

theorem decisionQuiet {d s a s'} (ok : (validateDecision d).Returns s a s') : s = s' := by
  simp only [validateDecision,returnsBind,returnsRaiseIf] at ok
  obtain ⟨_,_,⟨-,rfl⟩,_,_,⟨-,rfl⟩,_,_,⟨-,rfl⟩,_,_,⟨-,rfl⟩,-,rfl⟩ := ok
  rfl

theorem storedPolicyQuiet {k c d e s a s'} (ok : (validateStoredFencedPolicy k c d e).Returns s a s') : s = s' := by
  simp only [validateStoredFencedPolicy,returnsBind,returnsRaiseIf,returnsOrRaise] at ok
  obtain ⟨_,_,⟨-,rfl⟩,_,_,⟨-,rfl⟩,_,_,⟨-,rfl⟩,_,_,⟨-,rfl⟩,-,rfl⟩ := ok
  rfl

theorem keyForFenceLimits {k now s limit s'} (ok : (validateKeyForFence k now).Returns s limit s') :
    s = s' ∧ k.limit = ⟨some limit.costEur,some limit.tokens,some limit.requests⟩ := by
  simp only [validateKeyForFence,requirePositiveFiniteLimits,returnsBind,returnsRaiseIf,returnsOrRaise,returnsPure,
    Option.filter_eq_some_iff] at ok
  obtain ⟨_,_,⟨-,rfl⟩,_,_,⟨-,rfl⟩,_,_,⟨-,rfl⟩,c,_,⟨⟨cost,-⟩,rfl⟩,t,_,⟨⟨tokens,-⟩,rfl⟩,n,_,⟨⟨requests,-⟩,rfl⟩,rfl,rfl⟩ := ok
  refine ⟨rfl,?_⟩
  rw [← cost,← tokens,← requests]

/-- A successful acquisition either found its own active fence or set a new one. -/
theorem acquireCases {i s a s'} (ok : (acquire i).Returns s a s') :
    (s'.db = s.db ∧ a.idempotent = true ∧ ∃ k r, Retried i s.db k r) ∨ ∃ k k' r, Fenced i s.db s'.db k k' r := by
  simp only [acquire,validateTtl,validateRequestId,validateEndpoint,validateRequestedModel,validateProvider,
    getGatewayKeyForUpdate,getGatewayKeyByIdForQuotaUpdate,returnsBind,returnsRaiseIf,returnsPure,returnsOrRaise,
    returnsSelectOneForUpdate,returnsIte] at ok
  obtain ⟨_,_,⟨_,_,⟨-,rfl⟩,-,rfl⟩,_,_,request,_,_,endpoint,_,_,model,_,_,provider,c,_,capabilities,d,_,destinations,
    _,_,decision,_,_,⟨rfl,rfl⟩,k,_,⟨found,rfl⟩,limit,_,window,_,_,policy,rest⟩ := ok
  obtain rfl := safeTextQuiet request
  obtain rfl := safeTextQuiet endpoint
  obtain rfl := safeTextQuiet model
  obtain rfl := safeTextQuiet provider
  obtain rfl := capabilitiesQuiet capabilities
  obtain rfl := destinationIdsQuiet destinations
  obtain rfl := decisionQuiet decision
  obtain ⟨rfl,finite⟩ := keyForFenceLimits window
  obtain rfl := storedPolicyQuiet policy
  obtain ⟨here,named⟩ := keyFound.mp found
  rcases rest with ⟨-,retried⟩ | ⟨free,fenced⟩
  · obtain ⟨same,idempotent,r,retried⟩ := acquireBoundRetried (s := s.lock _) here named retried
    exact Or.inl ⟨same,idempotent,k,r,retried⟩
  · obtain ⟨k',r,fenced⟩ := acquireFreeFenced (s := s.lock _) here named (not_not.mp free) finite fenced
    exact Or.inr ⟨k,k',r,fenced⟩

/-- A bound fence was cleared on terminal evidence. -/
structure Cleared (db db' : Db) (k : GatewayKey) (r : QuotaReservation) (l : UsageLedger) : Prop where
  keys : db.gatewayKeys.Updated k (k.withFence .clear) db'.gatewayKeys
  reservations : db'.quotaReservations = db.quotaReservations
  ledger : db'.usageLedger = db.usageLedger
  bound : k.fence.state ≠ .none
  reservation : k.fence.reservationId = some r.id
  request : k.fence.requestId = some r.requestId
  here : r ∈ db.quotaReservations
  own : r.gatewayKeyId = k.id
  mode : r.quotaMode = .externalToolFenced
  terminal : r.status = .finalized ∨ r.status = .released
  only : db.usageLedger.filter (fun x => x.quotaReservationId = some r.id) = [l]
  sameKey : l.gatewayKeyId = k.id
  sameRequest : l.requestId = r.requestId
  evidence : ledgerTerminal r l = true
  zero : k.reserved = 0

theorem resolveLockedCleared {keyId requestId k r s a s'} (here : k ∈ s.db.gatewayKeys)
    (present : r ∈ s.db.quotaReservations) (bound : k.fence.state ≠ .none)
    (reservation : k.fence.reservationId = some r.id) (request : k.fence.requestId = some requestId)
    (ok : (resolveLocked keyId requestId k r).Returns s a s') :
    ∃ l, r.requestId = requestId ∧ Cleared s.db s'.db k r l := by
  simp [resolveLocked,validateBoundRouteFacts,validateProvider,validateRequestedModel,validateSafeText,
    getUsageRecordsByReservationId,verifyReservedCountersZero,setExternalToolFence] at ok
  obtain ⟨own,same,mode,-,-,terminal,one,l,first,sameKey,⟨-,-,-,sameRequest⟩,evidence,zero,⟨t,updated,rfl⟩,-⟩ := ok
  subst same
  refine ⟨l,rfl,updateOk here updated rfl,rfl,rfl,bound,reservation,request,present,own,mode,?_,?_,sameKey,
    sameRequest,evidence,zero⟩
  · by_cases finalized : r.status = .finalized
    · exact Or.inl finalized
    · exact Or.inr (terminal finalized)
  · obtain ⟨x,single⟩ := List.length_eq_one_iff.mp one
    rw [single] at first ⊢
    simpa using first

theorem resolveCases {keyId requestId permitHeld s a s'} (ok : (resolve keyId requestId permitHeld).Returns s a s') :
    (s'.db = s.db ∧ a.resolved = false ∧ ∃ k ∈ s.db.gatewayKeys, k.id = keyId ∧
      (k.fence.state = .none ∨ k.fence.state = .held ∧ permitHeld = false)) ∨ ∃ k r l, k.id = keyId ∧ r.requestId = requestId ∧
      (k.fence.state = .held ↔ permitHeld = true) ∧ Cleared s.db s'.db k r l := by
  simp only [resolve,getGatewayKeyById,getReservationByIdForUpdate,getGatewayKeyForUpdate,
    getGatewayKeyByIdForQuotaUpdate,returnsBind,returnsIte,returnsSelect,returnsSelectOneForUpdate,
    returnsOrRaise,returnsRaiseIf,returnsPure,returnsThrow] at ok
  obtain ⟨_,_,⟨rfl,rfl⟩,seen,_,⟨found,rfl⟩,⟨free,rfl,rfl⟩ | ⟨bound,⟨kept,rfl,rfl⟩ | ⟨permitted,rest⟩⟩⟩ := ok
  · exact Or.inl ⟨rfl,rfl,seen,(keyFound.mp found).1,(keyFound.mp found).2,Or.inl free⟩
  · exact Or.inl ⟨rfl,rfl,seen,(keyFound.mp found).1,(keyFound.mp found).2,Or.inr kept⟩
  obtain ⟨-,_,⟨-,rfl⟩,id,_,⟨-,rfl⟩,_,_,⟨rfl,rfl⟩,r,_,⟨foundReservation,rfl⟩,_,_,⟨rfl,rfl⟩,k,_,⟨again,rfl⟩,rest⟩ := rest
  -- inside one transaction the locked row is the row that was seen, so the re-read branches are closed
  cases Option.some.inj (found.symm.trans again)
  have state : seen.fence.state = .held ↔ permitHeld = true := by grind [FenceState]
  rcases rest with ⟨changed,-⟩ | ⟨-,⟨raced,-⟩ | ⟨-,⟨-,⟨none,-⟩ | ⟨-,⟨held,-⟩ | ⟨-,⟨⟩⟩⟩⟩ | ⟨same,locked⟩⟩⟩
  · grind
  · grind
  · exact absurd none bound
  · grind
  · simp only [not_or,not_not] at same
    obtain ⟨here,rfl⟩ := keyFound.mp found
    obtain ⟨present,rfl⟩ := reservationFound.mp foundReservation
    obtain ⟨l,matched,cleared⟩ :=
      resolveLockedCleared (s := (s.lock _).lock _) here present same.1 same.2.1 same.2.2 locked
    exact Or.inr ⟨seen,r,l,rfl,matched,state,cleared⟩
end SlaifGateway.Quota
