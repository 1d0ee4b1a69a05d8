import SlaifGateway.Library.Generator
import SlaifGateway.Store.Schema
import SlaifGateway.Traffic.LimiterSafety
import Mathlib.Algebra.Order.Ring.Int

/-! `wait_for_rate_limit_admission`, the bounded wait of a denied request, with the hooks both
gateways give it: re-validation, the transport probe and the slot release. Every await may be
answered, raise, be cancelled or outlast its budget. Times are nanoseconds of the monotonic
clock. The outcome label is kept, its metrics and the lease's wall-clock deadline are not. -/
namespace SlaifGateway.Traffic
open Library Store Generator

structure LazyAdmissionContext where
  gatewayKeyId : Uuid
  limiterPolicy : RateLimitPolicy
  estimatedTokens : Int

inductive LazyThrottlingWaitOutcome where
  | admitted
  | deadline
  | capacityFull
  | cancelled
  | revalidationFailed
  | neverFit
  deriving DecidableEq, Repr

inductive WaitError where
  | cancelledError
  | waitBudgetExhausted
  | lazyThrottlingDeadlineExceeded
  | lazyThrottlingWaitingCapacityFull
  | clientDisconnected
  | redisRateLimitUnavailable
  | limiter (e : RateLimitError)
  -- Any other error of a hook; the re-validation tells rate-limit errors apart.
  | hook (rateLimit : Bool)
  deriving DecidableEq, Repr

def WaitError.isRateLimitError : WaitError → Bool
  | .cancelledError | .waitBudgetExhausted => false
  | .hook rateLimit => rateLimit
  | _ => true

inductive Awaited (α : Type) where
  | returned (a : α)
  | raised (x : WaitError)
  | cancelled
  | timedOut

def Awaited.interrupted {α : Type} : Awaited α → Bool
  | .returned _ => false
  | _ => true

inductive Granted where
  | measured (r : RateLimitResult)
  | degraded

structure LazyAdmissionResult where
  result : Granted
  context : LazyAdmissionContext

structure LazyWait where
  initialContext : LazyAdmissionContext
  estimatedTokens : Int
  maxWaitSeconds : Nat
  maxWaitingRequests : Nat
  maxWaitingTotal : Nat
  leaseTtlSeconds : Nat
  requestId : String
  limiterFailClosed : Bool
  admissionFailClosed : Bool

inductive WaitEffect where
  | monotonic
  -- The clock as `_remaining_budget` reads it.
  | remainingBudget (deadline : Int)
  | acquireWaitingLease (gatewayKeyId : Uuid) (leaseTtlSeconds : Nat)
  | releaseWaitingLease (gatewayKeyId : Uuid)
  | isDisconnected
  | revalidate (context : LazyAdmissionContext)
  | checkAndReserve (context : LazyAdmissionContext)
  | releaseConcurrency (gatewayKeyId : Uuid)
  | sleep (nanoseconds : Int)
  -- The loop has no bound: a process with too few rounds stops here without an exit.
  | anotherRound

def WaitAnswer : WaitEffect → Type
  | .monotonic | .remainingBudget _ => Int
  | .acquireWaitingLease _ _ => Awaited Bool
  | .isDisconnected => Awaited Bool
  | .revalidate _ => Awaited LazyAdmissionContext
  | .checkAndReserve _ => Awaited (Except RateLimitError RateLimitResult)
  | .releaseWaitingLease _ | .releaseConcurrency _ | .sleep _ => Awaited Unit
  | .anotherRound => Empty

abbrev Waiting := Generator WaitEffect WaitAnswer (Option LazyThrottlingWaitOutcome) WaitError

section Wait
variable {α : Type} (c : LazyWait) (deadline : Int)

def awaiting (e : WaitEffect) : Waiting (WaitAnswer e) := ask e

def monotonic : Waiting Int := awaiting .monotonic

def Awaited.unwrap : Awaited α → Waiting α
  | .returned a => pure a
  | .raised x => throw x
  | .cancelled => throw .cancelledError
  | .timedOut => throw .waitBudgetExhausted

def withinBudget (step : Waiting (Awaited α)) : Waiting α := do
  let now : Int ← awaiting (.remainingBudget deadline)
  if deadline ≤ now then throw .waitBudgetExhausted else step >>= Awaited.unwrap

def bookkeeping (step : Waiting (Awaited Unit)) : Waiting Unit := do
  match ← step with
  | .cancelled => throw .cancelledError
  | _ => pure ()

def outcome (o : LazyThrottlingWaitOutcome) (x : WaitError) : Waiting α := do
  update fun _ => some o
  throw x

def deadlineExceeded : Waiting α := outcome .deadline .lazyThrottlingDeadlineExceeded

def clientGone : Waiting Bool :=
  attempt (withinBudget deadline (awaiting .isDisconnected)) fun
    | .waitBudgetExhausted => deadlineExceeded
    | x => throw x

def releaseAdmittedSlot : Waiting (Awaited Unit) :=
  if c.requestId = "" then pure (.raised (.limiter (.invalidPolicy "request_id")))
  else awaiting (.releaseConcurrency c.initialContext.gatewayKeyId)

def releaseAdmittedSlotQuietly : Waiting Unit := bookkeeping (releaseAdmittedSlot c)

def leaseTtl : Nat := max c.leaseTtlSeconds (c.maxWaitSeconds + 30)

def acquireWaitingLease : Waiting (Awaited Bool) := do
  match ← (awaiting (.acquireWaitingLease c.initialContext.gatewayKeyId (leaseTtl c)) : Waiting (Awaited Bool)) with
  | .raised _ => if c.admissionFailClosed then pure (.raised .redisRateLimitUnavailable) else pure (.returned true)
  | answer => pure answer

def acquired : Waiting Bool :=
  attempt (withinBudget deadline (acquireWaitingLease c)) fun
    | .waitBudgetExhausted => deadlineExceeded
    | x => throw x

def beforeDeadline : Waiting Unit := do
  if deadline ≤ (← monotonic) then deadlineExceeded else pure ()

def revalidated (context : LazyAdmissionContext) : Waiting LazyAdmissionContext :=
  attempt (withinBudget deadline (awaiting (.revalidate context))) fun
    | .waitBudgetExhausted => deadlineExceeded
    | .cancelledError => throw .cancelledError
    | x => if x.isRateLimitError then throw x else outcome .revalidationFailed x

def neverFits (p : RateLimitPolicy) (estimatedTokens : Int) : Bool :=
  p.tokensPerMinute.any fun limit => decide ((limit : Int) < estimatedTokens)

def tokenRateLimitExceeded (p : RateLimitPolicy) : WaitError :=
  .limiter (.tokenRateLimitExceeded (some p.windowSeconds))

def mayFit (context : LazyAdmissionContext) : Waiting Unit :=
  if neverFits context.limiterPolicy context.estimatedTokens then
    outcome .neverFit (tokenRateLimitExceeded context.limiterPolicy)
  else pure ()

-- `check_and_reserve` of the service, `_handle_unavailable` included.
def reserveCapacity (context : LazyAdmissionContext) : Waiting (Awaited Granted) := do
  match ← (awaiting (.checkAndReserve context) : Waiting (Awaited (Except RateLimitError RateLimitResult))) with
  | .returned (.ok r) => pure (.returned (.measured r))
  | .returned (.error e) => pure (.raised (.limiter e))
  | .raised _ => if c.limiterFailClosed then pure (.raised .redisRateLimitUnavailable) else pure (.returned .degraded)
  | .cancelled => pure .cancelled
  | .timedOut => pure .timedOut

def tryReserve (context : LazyAdmissionContext) : Waiting (Option Granted) :=
  attempt (withinBudget deadline (reserveCapacity c context) >>= fun granted => pure (some granted)) fun
    | .waitBudgetExhausted => do
        releaseAdmittedSlotQuietly c
        deadlineExceeded
    | .cancelledError => do
        releaseAdmittedSlotQuietly c
        throw .cancelledError
    | .limiter (.tokenRateLimitExceeded _) | .limiter (.requestRateLimitExceeded _)
    | .limiter (.concurrencyRateLimitExceeded _) => pure none
    | x => throw x

def afterAdmission : Waiting (Bool × Bool) :=
  attempt (do
    let gone ← clientGone deadline
    let now ← monotonic
    pure (gone,decide (deadline ≤ now))) fun
    | .cancelledError => do
        releaseAdmittedSlotQuietly c
        throw .cancelledError
    | x => throw x

def honour (context : LazyAdmissionContext) (granted : Granted) : Waiting LazyAdmissionResult := do
  let (clientGone,pastDeadline) ← afterAdmission c deadline
  if clientGone then do
    releaseAdmittedSlotQuietly c
    outcome .cancelled .clientDisconnected
  else if pastDeadline then do
    releaseAdmittedSlotQuietly c
    deadlineExceeded
  else do
    update fun _ => some .admitted
    pure ⟨granted,context⟩

def pause (delay : Int) : Waiting Unit := do
  let remaining := deadline - (← monotonic)
  (← (awaiting (.sleep (min (max delay 50000000) (max remaining 0))) : Waiting (Awaited Unit))).unwrap

def waitRounds : Nat → LazyAdmissionContext → Int → Waiting LazyAdmissionResult
  | 0,_,_ => do
      let never ← (awaiting .anotherRound : Waiting Empty)
      nomatch never
  | rounds + 1,context,delay => do
      if ← clientGone deadline then outcome .cancelled .clientDisconnected
      else do
        beforeDeadline deadline
        let context ← revalidated deadline context
        beforeDeadline deadline
        mayFit context
        match ← tryReserve c deadline context with
        | some granted => honour c deadline context granted
        | none => do
            let nextDelay := min (delay * 2) 1000000000
            pause deadline nextDelay
            waitRounds rounds context nextDelay

def admitted (rounds : Nat) : Waiting LazyAdmissionResult :=
  attempt (do
    if ← acquired c deadline then waitRounds c deadline rounds c.initialContext 100000000
    else outcome .capacityFull .lazyThrottlingWaitingCapacityFull) fun
    | .cancelledError => outcome .cancelled .cancelledError
    | x => throw x

def releaseWaitingLease : Waiting Unit :=
  attempt (bookkeeping (awaiting (.releaseWaitingLease c.initialContext.gatewayKeyId))) fun
    | .cancelledError => do
        update fun _ => some .cancelled
        releaseAdmittedSlotQuietly c
        throw .cancelledError
    | x => throw x

def waitForRateLimitAdmission (rounds : Nat) : Waiting LazyAdmissionResult := do
  let start ← monotonic
  if neverFits c.initialContext.limiterPolicy c.estimatedTokens then
    throw (tokenRateLimitExceeded c.initialContext.limiterPolicy)
  else lastly (admitted c (start + c.maxWaitSeconds * 1000000000) rounds) (releaseWaitingLease c)
end Wait

-- `slot` is the key whose limiter holds a slot committed by this call; `owed` forgets it at the first attempt to
-- release it, and `lost` records an attempt that Redis did not apply.
structure Custody where
  now : Int
  leaseOwed : Bool
  slot : Option Uuid
  owed : Option Uuid
  lost : Bool

namespace Custody

def start (now : Int) : Custody := ⟨now,false,none,none,false⟩

def reserving (w : Custody) (requestId : String) (key : Uuid) (before after : Limiter) : Custody :=
  if after.holds requestId && !before.holds requestId then { w with slot := some key,owed := some key } else w

def releasing (w : Custody) (key : Uuid) (applied : Bool) : Custody :=
  { w with
    slot := if applied && w.slot == some key then none else w.slot
    owed := if w.owed == some key then none else w.owed
    lost := w.lost || (!applied && w.slot == some key) }
end Custody

-- An interrupted command may or may not have been applied. The limiter state it meets is whatever other requests
-- have left; the hook never returns a context of another key.
inductive Responds (c : LazyWait) : Custody → (e : WaitEffect) → WaitAnswer e → Custody → Prop where
  | clock {w} {t : Int} (later : w.now ≤ t) : Responds c w .monotonic t { w with now := t }
  | budget {w} {t : Int} (deadline) (later : w.now ≤ t) : Responds c w (.remainingBudget deadline) t { w with now := t }
  | leased (w key ttl) (granted : Bool) :
      Responds c w (.acquireWaitingLease key ttl) (.returned granted) { w with leaseOwed := w.leaseOwed || granted }
  | leaseInterrupted (w key ttl) (applied : Bool) {a : Awaited Bool} (cut : a.interrupted = true) :
      Responds c w (.acquireWaitingLease key ttl) a { w with leaseOwed := w.leaseOwed || applied }
  | leaseReleased (w key) (a : Awaited Unit) : Responds c w (.releaseWaitingLease key) a { w with leaseOwed := false }
  | probed (w) (a : Awaited Bool) : Responds c w .isDisconnected a w
  | revalidated (w) {context next : LazyAdmissionContext} (same : next.gatewayKeyId = context.gatewayKeyId) :
      Responds c w (.revalidate context) (.returned next) w
  | revalidationInterrupted (w context) {a : Awaited LazyAdmissionContext} (cut : a.interrupted = true) :
      Responds c w (.revalidate context) a w
  | reserved (w context) (s : Limiter) (now : Nat) :
      Responds c w (.checkAndReserve context)
        (.returned (checkAndReserve context.limiterPolicy s now c.requestId context.estimatedTokens).1)
        (w.reserving c.requestId context.gatewayKeyId s
          (checkAndReserve context.limiterPolicy s now c.requestId context.estimatedTokens).2)
  | reserveMissed (w context) {a : Awaited (Except RateLimitError RateLimitResult)} (cut : a.interrupted = true)
      (reaches : context.limiterPolicy.hasLimits = true) : Responds c w (.checkAndReserve context) a w
  | reserveInterrupted (w context) (s : Limiter) (now : Nat) {a : Awaited (Except RateLimitError RateLimitResult)}
      (cut : a.interrupted = true) (reaches : context.limiterPolicy.hasLimits = true) :
      Responds c w (.checkAndReserve context) a
        (w.reserving c.requestId context.gatewayKeyId s
          (checkAndReserve context.limiterPolicy s now c.requestId context.estimatedTokens).2)
  | released (w key) : Responds c w (.releaseConcurrency key) (.returned ()) (w.releasing key true)
  | releaseInterrupted (w key) (applied : Bool) {a : Awaited Unit} (cut : a.interrupted = true) :
      Responds c w (.releaseConcurrency key) a (w.releasing key applied)
  | slept (w duration) : Responds c w (.sleep duration) (.returned ()) w
  | sleepCancelled (w duration) : Responds c w (.sleep duration) .cancelled w
end SlaifGateway.Traffic
