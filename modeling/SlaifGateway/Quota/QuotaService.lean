import SlaifGateway.Quota.Movements

/-! Reservation and release of estimated quota. Inputs are already typed, so the
checks on Python types have no counterpart; timestamps are aware. Nothing commits
here: the transaction is the caller's. -/
namespace SlaifGateway.Quota
open Store Library Library.Tx Library.Table

structure AuthenticatedGatewayKey where
  gatewayKeyId : Uuid
  deriving DecidableEq, Repr

structure RouteResolutionResult where
  requestedModel : String
  resolvedModel : String
  provider : String
  providerKind : Option String
  deriving DecidableEq, Repr

structure PolicyResult where
  estimatedInputTokens : ℤ
  effectiveOutputTokens : ℤ
  stream : Option Bool
  deriving DecidableEq, Repr

structure ChatCostEstimate where
  estimatedInputTokens : ℤ
  estimatedOutputTokens : ℤ
  estimatedTotalCostEur : ℚ
  deriving DecidableEq, Repr

structure QuotaReservationResult where
  reservationId : Uuid
  gatewayKeyId : Uuid
  requestId : String
  reservedCostEur : ℚ
  reservedTokens : ℤ
  status : ReservationStatus
  expiresAt : Time
  deriving DecidableEq, Repr

def chatCompletionsEndpoint : String := "/v1/chat/completions"

/-- `_DEFAULT_RESERVATION_TTL`, fifteen minutes. -/
def defaultReservationTtl : Time := 15 * 60 * 1000000

def isFixedRequestModuleBilling (providerKind : Option String) (endpoint : String) : Bool :=
  let normalizedEndpoint := if strip endpoint = "chat.completions" then chatCompletionsEndpoint else strip endpoint
  providerKind = some "module" ∧ normalizedEndpoint = chatCompletionsEndpoint

/-- `_normalize_endpoint` of the quota service; the accounting service lacks the `embeddings` row. -/
def normalizeEndpoint (value : String) : String :=
  let endpoint := strip value
  if endpoint = "chat.completions" then chatCompletionsEndpoint
  else if endpoint = "audio.speech" then "/v1/audio/speech"
  else if endpoint = "audio.transcriptions" then "/v1/audio/transcriptions"
  else if endpoint = "audio.translations" then "/v1/audio/translations"
  else if endpoint = "embeddings" then "/v1/embeddings"
  else if endpoint = "realtime.client_secrets" then "/v1/realtime/client_secrets"
  else if endpoint = "responses" then "/v1/responses"
  else endpoint

def reservationResult (row : QuotaReservation) : QuotaReservationResult :=
  ⟨row.id,row.gatewayKeyId,row.requestId,row.reserved.costEur,row.reserved.tokens,row.status,row.expiresAt⟩

def validateCost (value : ℚ) : Action ℚ := do
  raiseIf (value < 0) <| ErrorKind.invalidQuotaEstimate.naming "Estimated cost must be non-negative" "estimated_cost_eur"
  pure value

def validateTokens (value : ℤ) : Action ℤ := do
  raiseIf (value < 0) <| ErrorKind.invalidQuotaEstimate.naming "Estimated tokens must be non-negative" "estimated_tokens"
  pure value

def validateKeyCanReserve (k : GatewayKey) (now : Time) : Action Unit := do
  raiseIf (k.status ≠ .active) <| ErrorKind.keyNotReservable.saying "Gateway key cannot reserve quota"
  raiseIf (now < k.validFrom ∨ k.validUntil ≤ now) <|
    ErrorKind.keyNotReservable.saying "Gateway key cannot reserve quota outside its validity window"

def validateExternalToolFence (k : GatewayKey) : Action Unit :=
  raiseIf (k.fence.state = .active ∨ k.fence.state = .held) ErrorKind.quotaExternalToolFenceActive.error

def validateLimits (k : GatewayKey) (amounts : Amounts) : Action Unit := do
  raiseIf (∃ limit ∈ k.limit.costEur, limit < k.used.costEur + k.reserved.costEur + amounts.costEur) <|
    ErrorKind.quotaLimitExceeded.naming "Cost quota limit exceeded" "cost_limit_eur"
  raiseIf (∃ limit ∈ k.limit.tokens, limit < k.used.tokens + k.reserved.tokens + amounts.tokens) <|
    ErrorKind.quotaLimitExceeded.naming "Token quota limit exceeded" "token_limit_total"
  raiseIf (∃ limit ∈ k.limit.requests, limit < k.used.requests + k.reserved.requests + amounts.requests) <|
    ErrorKind.quotaLimitExceeded.naming "Request quota limit exceeded" "request_limit_total"

structure ReserveInput where
  authenticatedKey : AuthenticatedGatewayKey
  route : RouteResolutionResult
  policy : PolicyResult
  costEstimate : ChatCostEstimate
  requestId : String
  endpoint : String
  now : Time
  /-- The row id the database default draws. -/
  newId : Uuid
  deriving DecidableEq, Repr

def ReserveInput.reservedTokens (i : ReserveInput) : ℤ :=
  if isFixedRequestModuleBilling i.route.providerKind i.endpoint then 0
  else i.policy.estimatedInputTokens + i.policy.effectiveOutputTokens

def ReserveInput.amounts (i : ReserveInput) : Amounts := ⟨i.costEstimate.estimatedTotalCostEur,i.reservedTokens,1⟩

def ReserveInput.reservation (i : ReserveInput) : QuotaReservation where
  id := i.newId
  gatewayKeyId := i.authenticatedKey.gatewayKeyId
  requestId := i.requestId
  endpoint := normalizeEndpoint i.endpoint
  requestedModel := some i.route.requestedModel
  provider := some i.route.provider
  resolvedModel := some i.route.resolvedModel
  streaming := some (i.policy.stream.getD false)
  quotaMode := .strictBounded
  externalToolCapabilities := []
  externalToolDestinationIds := []
  externalToolProvider := none
  externalToolRouteId := none
  reserved := i.amounts
  status := .pending
  expiresAt := i.now + defaultReservationTtl
  finalizedAt := none
  releasedAt := none

def reserveForChatCompletion (i : ReserveInput) : Action QuotaReservationResult := do
  let _ ← validateCost i.costEstimate.estimatedTotalCostEur
  let _ ← validateTokens i.policy.estimatedInputTokens
  let _ ← validateTokens i.policy.effectiveOutputTokens
  let _ ← validateTokens i.reservedTokens
  let _ ← validateTokens i.costEstimate.estimatedInputTokens
  let _ ← validateTokens i.costEstimate.estimatedOutputTokens
  let gatewayKey ← orRaise (← getGatewayKeyByIdForQuotaUpdate i.authenticatedKey.gatewayKeyId) <|
    ErrorKind.keyNotReservable.saying "Gateway key cannot reserve quota"
  validateKeyCanReserve gatewayKey i.now
  validateExternalToolFence gatewayKey
  validateLimits gatewayKey i.amounts
  let reservation ← createReservation i.reservation
  let _ ← addReservedCounters gatewayKey i.amounts
  pure (reservationResult reservation)

def releaseReservation (reservationId : Uuid) (now : Time) : Action QuotaReservationResult := do
  let reservation ← orRaise (← getReservationByIdForUpdate reservationId) ErrorKind.quotaReservationNotFound.error
  if reservation.status ≠ .pending then pure (reservationResult reservation)
  else
    let gatewayKey ← orRaise (← getGatewayKeyByIdForQuotaUpdate reservation.gatewayKeyId) <|
      ErrorKind.quotaConcurrency.saying "Gateway key disappeared while releasing quota"
    let _ ← subtractReservedCounters gatewayKey reservation.reserved
    let updated ← markPendingReservationReleased reservation now
    pure (reservationResult updated)

theorem reserveOpened {i s a s'} (ok : (reserveForChatCompletion i).Returns s a s') :
    ∃ k k', Opened s.db s'.db k k' i.reservation ∧ k.fence.state = .none ∧ k'.fence = k.fence := by
  simp [reserveForChatCompletion,validateCost,validateTokens,validateKeyCanReserve,validateExternalToolFence,
    validateLimits,getGatewayKeyByIdForQuotaUpdate,addReservedCounters] at ok
  obtain ⟨-,-,-,-,-,-,k,found,-,-,free,cost,tokens,requests,t,inserted,⟨t',updated,rfl⟩,-⟩ := ok
  obtain ⟨here,own⟩ := keyFound.mp found
  have none : k.fence.state = .none := by
    cases state : k.fence.state with
    | none => rfl
    | active => exact absurd state free.1
    | held => exact absurd state free.2
  exact ⟨k,k.addReserved i.amounts,⟨updateOk here updated rfl,insertOk inserted,rfl,rfl,own.symm,rfl,
    ⟨cost,tokens,requests⟩,none,Or.inl rfl⟩,none,rfl⟩

theorem releaseCases {id now s a s'} (ok : (releaseReservation id now).Returns s a s') :
    s'.db = s.db ∨ ∃ k k' r r', Settled s.db s'.db k k' r r' 0 ∧ r.id = id ∧ r'.status = .released ∧
      k'.fence = k.fence ∧ s'.db.usageLedger = s.db.usageLedger := by
  simp [releaseReservation,getReservationByIdForUpdate,getGatewayKeyByIdForQuotaUpdate,subtractReservedCounters,
    markPendingReservationReleased] at ok
  obtain ⟨r,foundReservation,⟨pending,k,foundKey,enough,t,keys,⟨t',reservations,rfl⟩,-⟩ | ⟨-,-,rfl⟩⟩ := ok
  · have same := (reservationFound.mp foundReservation).2
    exact Or.inr ⟨k,_,r,_,settledBySubtract foundKey foundReservation pending enough closesReleased reservations keys,
      same,rfl,rfl,rfl⟩
  · exact Or.inl rfl
end SlaifGateway.Quota
