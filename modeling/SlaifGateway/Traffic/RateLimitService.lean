import SlaifGateway.Library.Runs
import Mathlib.Data.List.Basic
import Mathlib.Logic.Function.Basic

/-! The Redis limiter of one gateway key. A Lua script is one atomic step; key expiry is
lazy, so an expired key reads as absent. Times are milliseconds of one clock, which the
caller and Redis share. Redis outages and the numbers' float range are not modelled. -/
namespace SlaifGateway.Traffic
open Library

structure RateLimitPolicy where
  requestsPerMinute : Option Nat
  tokensPerMinute : Option Nat
  concurrentRequests : Option Nat
  windowSeconds : Nat
  concurrencyTtlSeconds : Option Nat
  concurrencyHeartbeatSeconds : Option Nat
  concurrencyTtlGraceSeconds : Option Nat
  limitsPositive : (∀ n ∈ requestsPerMinute, 0 < n) ∧ (∀ n ∈ tokensPerMinute, 0 < n) ∧ ∀ n ∈ concurrentRequests, 0 < n
  windowPositive : 0 < windowSeconds
  timingPositive : (∀ n ∈ concurrencyTtlSeconds, 0 < n) ∧ (∀ n ∈ concurrencyHeartbeatSeconds, 0 < n) ∧
    ∀ n ∈ concurrencyTtlGraceSeconds, 0 < n

namespace RateLimitPolicy
variable (p : RateLimitPolicy)

def hasLimits : Bool := p.requestsPerMinute.isSome || p.tokensPerMinute.isSome || p.concurrentRequests.isSome

def ttlSeconds : Nat := p.concurrencyTtlSeconds.getD 300

def heartbeatSeconds : Nat := p.concurrencyHeartbeatSeconds.getD 30

def graceSeconds : Nat := p.concurrencyTtlGraceSeconds.getD 30

def windowStart (now : Nat) : Nat := now / 1000 / p.windowSeconds
end RateLimitPolicy

structure Counter where
  value : Nat
  expiresAt : Nat
  deriving DecidableEq, Repr

-- The counters of one dimension, by window.
abbrev Tally := Nat → Option Counter

namespace Tally

def read (t : Tally) (window now : Nat) : Nat :=
  ((t window).filter fun c => now < c.expiresAt).elim 0 Counter.value

-- INCRBY, then EXPIRE.
def incrBy (t : Tally) (window amount seconds now : Nat) : Tally :=
  Function.update t window (some ⟨t.read window now + amount,now + seconds * 1000⟩)
end Tally

structure Slot where
  requestId : String
  expiresAt : Nat
  deriving DecidableEq, Repr

structure Limiter where
  clock : Nat
  requests : Tally
  tokens : Tally
  slots : List Slot
  slotsExpireAt : Nat

def Limiter.empty : Limiter := ⟨0,fun _ => none,fun _ => none,[],0⟩

namespace Limiter
variable (s : Limiter) (now : Nat)

def liveSlots : List Slot := if now < s.slotsExpireAt then s.slots else []

-- ZREMRANGEBYSCORE concurrency_key -inf now
def purge : Limiter := { s with slots := (s.liveSlots now).filter fun x => now < x.expiresAt }

def holds (requestId : String) : Bool := s.slots.any fun x => x.requestId = requestId

-- ZADD, then EXPIRE.
def addSlot (requestId : String) (ttl grace : Nat) : Limiter :=
  { s with
    slots := ⟨requestId,now + ttl * 1000⟩ :: s.slots.filter fun x => x.requestId ≠ requestId
    slotsExpireAt := now + (ttl + grace) * 1000 }

def removeSlot (requestId : String) : Limiter := { s with slots := s.slots.filter fun x => x.requestId ≠ requestId }

def earliest : Option Nat := (s.slots.map Slot.expiresAt).min?
end Limiter

inductive LimitType where
  | allowed
  | concurrency
  | requests
  | tokens
  deriving DecidableEq, Repr

structure ScriptResult where
  limitType : LimitType
  remainingRequests : Nat
  remainingTokens : Nat
  concurrencyInUse : Nat
  resetMs : Nat
  retryAfter : Nat
  concurrencyExpiryMs : Nat
  deriving DecidableEq, Repr

section Scripts
variable (p : RateLimitPolicy) (s : Limiter) (now : Nat) (requestId : String)

def concurrencyDenial (s : Limiter) : ScriptResult :=
  match s.earliest with
  | some first => ⟨.concurrency,0,0,s.slots.length,first,max ((first - now + 999) / 1000) 1,0⟩
  | none => ⟨.concurrency,0,0,s.slots.length,now + p.windowSeconds * 1000,p.ttlSeconds,0⟩

def slotRefused : Bool :=
  p.concurrentRequests.any fun limit => (s.purge now).holds requestId = false ∧ limit ≤ (s.purge now).slots.length

def afterPurge : Limiter := if p.concurrentRequests.isSome then s.purge now else s

-- The writes of `_RESERVE_SCRIPT`, after all its checks.
def admitting (estimatedTokens : Nat) : Limiter :=
  let s := afterPurge p s now
  let w := p.windowStart now
  let s := if p.requestsPerMinute.isSome then { s with requests := s.requests.incrBy w 1 p.windowSeconds now } else s
  let s := if p.tokensPerMinute.isSome then
    { s with tokens := s.tokens.incrBy w estimatedTokens p.windowSeconds now } else s
  if p.concurrentRequests.isSome then s.addSlot now requestId p.ttlSeconds p.graceSeconds else s

def remaining (limit : Option Nat) (used : Nat) : Nat := limit.elim 0 fun n => n - used

def reserveScript (estimatedTokens : Nat) : ScriptResult × Limiter :=
  let w := p.windowStart now
  let resetMs := now + p.windowSeconds * 1000
  if slotRefused p s now requestId then (concurrencyDenial p now (s.purge now),s.purge now)
  else if p.requestsPerMinute.any fun limit => limit < s.requests.read w now + 1 then
    (⟨.requests,remaining p.requestsPerMinute (s.requests.read w now),0,0,resetMs,p.windowSeconds,0⟩,afterPurge p s now)
  else if p.tokensPerMinute.any fun limit => limit < s.tokens.read w now + estimatedTokens then
    (⟨.tokens,0,remaining p.tokensPerMinute (s.tokens.read w now),0,resetMs,p.windowSeconds,0⟩,afterPurge p s now)
  else
    let after := admitting p s now requestId estimatedTokens
    (⟨.allowed,remaining p.requestsPerMinute (after.requests.read w now),
      remaining p.tokensPerMinute (after.tokens.read w now),
      if p.concurrentRequests.isSome then after.slots.length else 0,resetMs,0,
      if p.concurrentRequests.isSome then now + p.ttlSeconds * 1000 else 0⟩,after)

inductive HeartbeatResult where
  | missing
  | refreshed (expiryMs : Nat)
  deriving DecidableEq, Repr

def heartbeatScript : HeartbeatResult × Limiter :=
  if (s.purge now).holds requestId then
    (.refreshed (now + p.ttlSeconds * 1000),(s.purge now).addSlot now requestId p.ttlSeconds p.graceSeconds)
  else (.missing,s.purge now)
end Scripts

inductive RateLimitError where
  | invalidPolicy (param : String)
  | requestRateLimitExceeded (retryAfterSeconds : Option Nat)
  | tokenRateLimitExceeded (retryAfterSeconds : Option Nat)
  | concurrencyRateLimitExceeded (retryAfterSeconds : Option Nat)
  | releaseFailed
  deriving DecidableEq, Repr

structure RateLimitResult where
  remainingRequests : Option Nat
  remainingTokens : Option Nat
  concurrentInUse : Option Nat
  resetAt : Option Nat
  concurrencySlotExpiresAt : Option Nat
  deriving DecidableEq, Repr

def RateLimitResult.unlimited : RateLimitResult := ⟨none,none,none,none,none⟩

inductive Call where
  | checkAndReserve (requestId : String) (estimatedTokens : Int)
  | heartbeatConcurrency (requestId : String)
  | releaseConcurrency (requestId : String)
  | cleanupExpiredConcurrency

def validateTiming (p : RateLimitPolicy) : Except RateLimitError Unit :=
  if p.ttlSeconds ≤ p.heartbeatSeconds then .error (.invalidPolicy "concurrency_heartbeat_seconds") else .ok ()

def validateInputs (p : RateLimitPolicy) (requestId : String) (estimatedTokens : Int) : Except RateLimitError Unit :=
  if requestId = "" then .error (.invalidPolicy "request_id")
  else if estimatedTokens < 0 then .error (.invalidPolicy "estimated_tokens")
  else validateTiming p

def nonzero (n : Nat) : Option Nat := if n = 0 then none else some n

def ScriptResult.toResult (p : RateLimitPolicy) (r : ScriptResult) : Except RateLimitError RateLimitResult :=
  match r.limitType with
  | .allowed => .ok ⟨p.requestsPerMinute.map fun _ => r.remainingRequests,p.tokensPerMinute.map fun _ => r.remainingTokens,
      p.concurrentRequests.map fun _ => r.concurrencyInUse,some r.resetMs,nonzero r.concurrencyExpiryMs⟩
  | .requests => .error (.requestRateLimitExceeded (nonzero r.retryAfter))
  | .tokens => .error (.tokenRateLimitExceeded (nonzero r.retryAfter))
  | .concurrency => .error (.concurrencyRateLimitExceeded (nonzero r.retryAfter))

def checkAndReserve (p : RateLimitPolicy) (s : Limiter) (now : Nat) (requestId : String) (estimatedTokens : Int) :
    Except RateLimitError RateLimitResult × Limiter :=
  match validateInputs p requestId estimatedTokens with
  | .error e => (.error e,s)
  | .ok _ =>
    if p.hasLimits then
      let (result,after) := reserveScript p s now requestId estimatedTokens.toNat
      (result.toResult p,after)
    else (.ok .unlimited,s)

def heartbeatConcurrency (p : RateLimitPolicy) (s : Limiter) (now : Nat) (requestId : String) :
    Except RateLimitError RateLimitResult × Limiter :=
  if requestId = "" then (.error (.invalidPolicy "request_id"),s)
  else match validateTiming p with
    | .error e => (.error e,s)
    | .ok _ =>
      if p.concurrentRequests.isNone then (.ok .unlimited,s)
      else match heartbeatScript p s now requestId with
        | (.missing,after) => (.error .releaseFailed,after)
        | (.refreshed expiry,after) => (.ok { RateLimitResult.unlimited with concurrencySlotExpiresAt := some expiry },after)

def releaseConcurrency (s : Limiter) (requestId : String) : Except RateLimitError Unit × Limiter :=
  if requestId = "" then (.error (.invalidPolicy "request_id"),s) else (.ok (),s.removeSlot requestId)

def respond (p : RateLimitPolicy) (s : Limiter) (now : Nat) : Call → Limiter
  | .checkAndReserve requestId estimatedTokens => (checkAndReserve p s now requestId estimatedTokens).2
  | .heartbeatConcurrency requestId => (heartbeatConcurrency p s now requestId).2
  | .releaseConcurrency requestId => (releaseConcurrency s requestId).2
  | .cleanupExpiredConcurrency => s.purge now

-- The clock never goes back: a call before it does not happen.
def next (p : RateLimitPolicy) (s : Limiter) (timed : Nat × Call) : Option Limiter :=
  if s.clock ≤ timed.1 then some { respond p s timed.1 timed.2 with clock := timed.1 } else none

def run (p : RateLimitPolicy) (calls : List (Nat × Call)) : Limiter := Runs.run (next p) .empty calls

def commits (p : RateLimitPolicy) (calls : List (Nat × Call)) : List (Commit Limiter (Nat × Call)) :=
  Runs.commits (next p) .empty calls
end SlaifGateway.Traffic
