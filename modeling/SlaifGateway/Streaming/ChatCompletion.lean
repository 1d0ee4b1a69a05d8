import SlaifGateway.Quota.Standing
import SlaifGateway.Streaming.Session
import SlaifGateway.Streaming.LiveBurn

/-! The generator of `_streaming_chat_completion_response`. The provider's chunks and the way
its stream ends are given; every await and yield goes to the environment. Metrics, logging,
upstream request ids and usage profiles are absent. -/
namespace SlaifGateway.Streaming
open Store Quota Library Library.Generator

structure ProviderStreamChunk where
  rawSseEvent : String
  /-- `null` where the chunk has no JSON body. -/
  jsonBody : Json
  usage : Option Json
  isDone : Bool

/-- What a streamed request is admitted with. `meter` stands for `extract_usage` and
`compute_actual_cost` on a chunk's response, which reject negative counts and prices. -/
structure StreamRequest where
  facts : RequestFacts
  budget : LiveBurnBudget
  meter : ProviderStreamChunk → Except MeteringError Bill
  metered : ∀ c b,meter c = .ok b → Billable b
  estimated : 0 ≤ facts.pricingEstimate.estimatedTotalCostEur
  currency : blank facts.pricingEstimate.nativeCurrency = false

namespace StreamRequest
variable (q : StreamRequest)

def stamped (now : Time) (newId : Uuid) : RequestFacts := { q.facts with finishedAt := now,newId }

def bill (c : ProviderStreamChunk) : Except ServiceError Bill := q.facts.bill (q.meter c)

/-- `record_streaming_interrupted_estimate` at the monitor's present state. -/
def interrupted (outputTokens : ℕ) (now : Time) (newId : Uuid) : InterruptedInput where
  facts := q.stamped now newId
  estimatedInputTokens := q.budget.admissionInputTokens
  estimatedOutputTokens := outputTokens
  estimatedTotalTokens := q.budget.estimatedRequestTokens outputTokens
  estimatedCostEur := q.budget.estimatedCostEur outputTokens
  responseMetadata := .plain true

/-- `record_streaming_live_burn_interrupted_estimate`. -/
def aborted (e : LiveBurnEstimate) (now : Time) (newId : Uuid) : InterruptedInput where
  facts := q.stamped now newId
  estimatedInputTokens := q.budget.admissionInputTokens
  estimatedOutputTokens := e.estimatedOutputTokens
  estimatedTotalTokens := e.estimatedRequestTokens
  estimatedCostEur := e.estimatedCostEur
  responseMetadata := .plain true
end StreamRequest

/-- The transactions of an ordinary streamed request, each opened and committed on its own. -/
inductive Settlement where
  | record (c : ProviderStreamChunk)
  | finalize (c : ProviderStreamChunk) (usageLedgerId : Uuid)
  | markFailed (usageLedgerId : Uuid)
  | liveBurnAbort (e : LiveBurnEstimate)
  | interrupted (outputTokens : ℕ)
  | failure (diagnostic : Bool)

def Settlement.action (q : StreamRequest) (now : Time) (newId : Uuid) : Settlement → Action Uuid
  | .record c =>
    (·.usageLedgerId) <$> recordProviderCompletedBeforeFinalization ⟨q.stamped now newId,q.meter c⟩
  | .finalize c usageLedgerId =>
    (·.usageLedgerId) <$> finalizeSuccessfulResponse ⟨q.stamped now newId,q.meter c,some usageLedgerId⟩
  | .markFailed usageLedgerId =>
    (·.usageLedgerId) <$> markProviderCompletedFinalizationFailed usageLedgerId q.facts.reservationId
  | .liveBurnAbort e => (·.usageLedgerId) <$> recordStreamingInterruptedEstimate (q.aborted e now newId)
  | .interrupted outputTokens =>
    (·.usageLedgerId) <$> recordStreamingInterruptedEstimate (q.interrupted outputTokens now newId)
  | .failure diagnostic =>
    (·.usageLedgerId) <$> recordProviderFailureAndRelease ⟨q.stamped now newId,diagnostic⟩

def StreamRequest.ledgering (q : StreamRequest) : Ledgering Settlement :=
  ⟨fun t now newId => t.action q now newId,q.facts.reservationId⟩

structure ChatLocals where
  usageChunk : Option ProviderStreamChunk
  doneEvent : Option String
  completed : Bool
  estimatedOutputTokens : ℕ

def ChatLocals.start : ChatLocals := ⟨none,none,false,0⟩

abbrev ChatEvents := Events ProviderStreamChunk Settlement ChatLocals

namespace ChatLocals

def remembering (v : ChatLocals) (c : ProviderStreamChunk) : ChatLocals :=
  if c.usage.isSome then { v with usageChunk := some c } else v

def finishing (v : ChatLocals) (c : ProviderStreamChunk) : ChatLocals :=
  { v with completed := true,doneEvent := some c.rawSseEvent }

def observing (v : ChatLocals) (q : StreamRequest) (c : ProviderStreamChunk) : ChatLocals :=
  { v with estimatedOutputTokens := v.estimatedOutputTokens +
      estimateOutputDeltaTokens (generatedChatStreamingDeltaText c.jsonBody) q.budget.estimateMultiplier }
end ChatLocals

def liveBurnError (q : StreamRequest) : StreamEvent :=
  .error ("The streaming response was stopped because the estimated Chat Completions usage " ++
    "crossed this key's streaming live-burn margin.") (some "insufficient_quota")
    (some "streaming_live_burn_limit_exceeded") (some q.facts.requestId)

def usageMissingError (q : StreamRequest) : StreamEvent :=
  .error ("Provider stream completed without final usage metadata; " ++
    "accounting could not finalize successfully.") (some "provider_error") (some "stream_usage_missing")
    (some q.facts.requestId)

def serviceErrorType (e : ServiceError) : String :=
  match e.kind with
  | .quotaLimitExceeded => "insufficient_quota"
  | .invalidQuotaEstimate => "invalid_request_error"
  | .keyNotReservable => "permission_error"
  | .quotaExternalToolFenceActive => "rate_limit_error"
  | _ => "server_error"

/-- `_finalize_streaming_interruption_after_output`. -/
def settleInterruption (diagnostic shielded : Bool) : ChatEvents Unit := do
  let v ← locals
  if 0 < v.estimatedOutputTokens then
    let _ ← Events.transact (.interrupted v.estimatedOutputTokens) shielded
    pure ()
  else
    let _ ← Events.transact (.failure diagnostic) shielded
    pure ()

/-- The `async for` loop; `false` is the early return after a live-burn stop. -/
def consume (q : StreamRequest) (ending : Option ProviderError) : List ProviderStreamChunk → ChatEvents Bool
  | [] =>
    match ending with
    | none => do
      Events.pull .exhausted
      pure true
    | some e => do
      Events.pull (.failed e)
      throw (.provider e)
  | c :: rest => do
    Events.pull (.chunk c)
    update fun v => v.remembering c
    if c.isDone then
      update fun v => v.finishing c
      consume q ending rest
    else
      update fun v => v.observing q c
      let v ← locals
      match q.budget.check v.estimatedOutputTokens with
      | some estimate => do
        let _ ← Events.transact (.liveBurnAbort estimate) false
        Events.yield (liveBurnError q)
        pure false
      | none => do
        Events.yield (.forwarded c.rawSseEvent)
        consume q ending rest

def finalizeCompleted (c : ProviderStreamChunk) (usageLedgerId : Uuid) : ChatEvents Unit :=
  attempt (do
    let _ ← Events.transact (.finalize c usageLedgerId) false
    pure ()) fun
  | .service e => do
    if isAccountingError e || isQuotaError e then
      let _ ← Events.transact (.markFailed usageLedgerId) false
      throw (.service e)
    else
      throw (.service e)
  | x => throw x

/-- What follows the loop. -/
def conclude (q : StreamRequest) : ChatEvents Unit := do
  let v ← locals
  match v.completed,v.usageChunk with
  | true,some c => do
    let usageLedgerId ← Events.transact (.record c) false
    finalizeCompleted c usageLedgerId
    match v.doneEvent with
    | some event => Events.yield (.done event)
    | none => pure ()
  | _,_ => do
    settleInterruption false false
    Events.yield (usageMissingError q)

def handle : Raised → ChatEvents Unit
  | .cancelledError => do
    settleInterruption false true
    throw .cancelledError
  | .provider e => do
    settleInterruption e.diagnostic false
    Events.yield (.error e.safeMessage (some e.errorType) (some e.errorCode) none)
  | .service e => do
    if isAccountingError e || isQuotaError e then
      Events.yield (.error e.message (some (serviceErrorType e)) (some e.code) none)
    else
      throw (.service e)
  | x => throw x

/-- `_events`. -/
def chatEvents (q : StreamRequest) (chunks : List ProviderStreamChunk) (ending : Option ProviderError) :
    ChatEvents Unit :=
  lastly (attempt (do
    if ← consume q ending chunks then conclude q else pure ()) handle) Events.cleanUp
end SlaifGateway.Streaming
