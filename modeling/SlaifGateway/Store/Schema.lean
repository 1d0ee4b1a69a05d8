import SlaifGateway.Library.Table
import SlaifGateway.Store.Amounts

/-! The three accounting tables with their check constraints. Columns that no
modelled service reads (names, snapshots, timings, HTTP facts) are absent, and so
is the column range: counters are exact. `Amounts` groups the cost, token and
request columns that share a prefix. -/
namespace SlaifGateway.Store
open Library (Schema Table)

abbrev Uuid := Nat

/-- Instants and durations in microseconds. -/
abbrev Time := Int

/-- Python's `str.strip`, `not value.strip()` and the length checks work on code points. -/
def isSpace (c : Char) : Bool :=
  (9 ≤ c.toNat && c.toNat ≤ 13) || (28 ≤ c.toNat && c.toNat ≤ 32) || c.toNat == 0x85 || c.toNat == 0xa0 ||
  c.toNat == 0x1680 || (0x2000 ≤ c.toNat && c.toNat ≤ 0x200a) || c.toNat == 0x2028 || c.toNat == 0x2029 ||
  c.toNat == 0x202f || c.toNat == 0x205f || c.toNat == 0x3000

def strip (s : String) : String :=
  String.ofList (((s.toList.dropWhile isSpace).reverse.dropWhile isSpace).reverse)

def blank (s : String) : Bool := s.toList.all isSpace

inductive KeyStatus where | active | suspended | revoked
  deriving DecidableEq, Repr

inductive KeyPurpose where | standard | trustedCalibration
  deriving DecidableEq, Repr

inductive FenceState where | none | active | held
  deriving DecidableEq, Repr

inductive QuotaMode where | strictBounded | externalToolFenced
  deriving DecidableEq, Repr

inductive ReservationStatus where | pending | finalized | released | expired
  deriving DecidableEq, Repr

inductive AccountingStatus where | pending | finalized | estimated | failed | interrupted | released
  deriving DecidableEq, Repr

inductive RecoveryState where
  | providerCompletedFinalizationPending | providerCompletedFinalizationFailed
  | finalized | providerCompletedReconciled
  deriving DecidableEq, Repr

inductive HoldReasonCode where
  | missingFinalUsage | missingFinalCost | ambiguousFinalCost | interruptionDisconnect
  | providerErrorUnknownCharge
  deriving DecidableEq, Repr

inductive HoldEvidenceQuality where | missing | partialEstimate | ambiguous
  deriving DecidableEq, Repr

inductive HoldState where | held | reconciled
  deriving DecidableEq, Repr

inductive HoldAction where | finalizeActual | releaseNoCharge
  deriving DecidableEq, Repr

structure Limits where
  costEur : Option ℚ
  tokens : Option ℤ
  requests : Option ℤ
  deriving DecidableEq, Repr

/-- The columns `external_tool_fence_*`. -/
structure Fence where
  state : FenceState
  reservationId : Option Uuid
  requestId : Option String
  acquiredAt : Option Time
  expiresAt : Option Time
  deriving DecidableEq, Repr

def Fence.clear : Fence := ⟨.none,.none,.none,.none,.none⟩

/-- The stored `external_tool_policy` after `parse_key_external_tool_policy` accepted it. -/
structure ExternalToolKeyPolicy where
  mode : QuotaMode
  allowedCapabilities : List String
  allowedDestinationIds : List String
  maxProviderToolCallsPerRequest : ℤ
  deriving DecidableEq, Repr

structure GatewayKey where
  id : Uuid
  status : KeyStatus
  keyPurpose : KeyPurpose
  validFrom : Time
  validUntil : Time
  limit : Limits
  used : Amounts
  reserved : Amounts
  externalToolPolicy : Option ExternalToolKeyPolicy
  fence : Fence
  lastUsedAt : Option Time
  lastQuotaResetAt : Option Time
  quotaResetCount : ℤ
  deriving DecidableEq, Repr

structure QuotaReservation where
  id : Uuid
  gatewayKeyId : Uuid
  requestId : String
  endpoint : String
  requestedModel : Option String
  provider : Option String
  resolvedModel : Option String
  streaming : Option Bool
  quotaMode : QuotaMode
  externalToolCapabilities : List String
  externalToolDestinationIds : List String
  externalToolProvider : Option String
  externalToolRouteId : Option Uuid
  reserved : Amounts
  status : ReservationStatus
  expiresAt : Time
  finalizedAt : Option Time
  releasedAt : Option Time
  deriving DecidableEq, Repr

/-- `response_metadata["external_tool_accounting_hold"]`. -/
structure HoldMetadata where
  version : Nat
  state : HoldState
  reasonCode : HoldReasonCode
  needsReconciliation : Bool
  evidenceQuality : HoldEvidenceQuality
  heldAt : Time
  deriving DecidableEq, Repr

/-- `response_metadata["external_tool_accounting_reconciliation"]`; the two texts are as stored. -/
structure HoldReconciliationMetadata where
  action : HoldAction
  actorAdminId : Option Uuid
  reason : String
  actualCostEur : String
  actualTotalTokens : ℤ
  success : Bool
  overrunCost : Bool
  overrunTokens : Bool
  confirmedNoCharge : Bool
  deriving DecidableEq, Repr

/-- The keys of `response_metadata` that are read again, and whether any other key is present. -/
structure ResponseMetadata where
  recoveryState : Option RecoveryState
  needsReconciliation : Option Bool
  externalToolAccountingHold : Option HoldMetadata
  externalToolAccountingReconciliation : Option HoldReconciliationMetadata
  furtherKeys : Bool
  deriving DecidableEq, Repr

namespace ResponseMetadata

/-- A mapping with none of the keys that are read again. -/
def plain (furtherKeys : Bool) : ResponseMetadata := ⟨none,none,none,none,furtherKeys⟩
end ResponseMetadata

structure UsageLedger where
  id : Uuid
  requestId : String
  quotaReservationId : Option Uuid
  gatewayKeyId : Uuid
  endpoint : String
  provider : String
  requestedModel : Option String
  resolvedModel : Option String
  streaming : Bool
  success : Option Bool
  accountingStatus : AccountingStatus
  promptTokens : ℤ
  completionTokens : ℤ
  totalTokens : ℤ
  estimatedCostEur : Option ℚ
  actualCostEur : Option ℚ
  actualCostNative : Option ℚ
  usageRawPresent : Bool
  responseMetadata : ResponseMetadata
  deriving DecidableEq, Repr

namespace Fence

/-- `gateway_keys_external_tool_fence_none_shape` and `_bound_shape`. -/
def Shaped (f : Fence) : Prop :=
  (f.state = .none ↔ f.reservationId = none ∧ f.requestId = none ∧ f.acquiredAt = none ∧ f.expiresAt = none) ∧
  (f.state ≠ .none ↔ f.reservationId ≠ none ∧ f.requestId ≠ none ∧ f.acquiredAt ≠ none ∧ f.expiresAt ≠ none)

instance (f : Fence) : Decidable f.Shaped := by unfold Shaped; infer_instance
end Fence

def GatewayKey.Valid (k : GatewayKey) : Prop :=
  0 ≤ k.used ∧ 0 ≤ k.reserved ∧ k.validFrom < k.validUntil ∧ k.fence.Shaped ∧
  (k.keyPurpose = .trustedCalibration → k.limit.requests ≠ none)

instance : DecidablePred GatewayKey.Valid := fun k => by unfold GatewayKey.Valid; infer_instance

/-- SQL `btrim`, which removes spaces only. -/
def btrimEmpty (s : String) : Bool := s.toList.all (· = ' ')

def QuotaReservation.BoundFacts (r : QuotaReservation) : Prop :=
  r.externalToolCapabilities ≠ [] ∧
  (∃ p ∈ r.externalToolProvider, btrimEmpty p = false ∧ p.toList.length ≤ 255) ∧
  r.externalToolRouteId ≠ none

instance (r : QuotaReservation) : Decidable r.BoundFacts := by unfold QuotaReservation.BoundFacts; infer_instance

def QuotaReservation.Valid (r : QuotaReservation) : Prop :=
  0 ≤ r.reserved ∧
  (r.quotaMode = .strictBounded ↔ r.externalToolCapabilities = [] ∧ r.externalToolDestinationIds = [] ∧
    r.externalToolProvider = none ∧ r.externalToolRouteId = none) ∧
  (r.quotaMode = .externalToolFenced ↔ r.BoundFacts)

instance : DecidablePred QuotaReservation.Valid := fun r => by unfold QuotaReservation.Valid; infer_instance

def UsageLedger.Valid (l : UsageLedger) : Prop :=
  0 ≤ l.promptTokens ∧ 0 ≤ l.completionTokens ∧ 0 ≤ l.totalTokens ∧
  (∀ c ∈ l.estimatedCostEur, 0 ≤ c) ∧ ∀ c ∈ l.actualCostEur, 0 ≤ c

instance : DecidablePred UsageLedger.Valid := fun l => by unfold UsageLedger.Valid; infer_instance

def keySchema : Schema GatewayKey Uuid Uuid := ⟨GatewayKey.id,GatewayKey.id,GatewayKey.Valid⟩

def reservationSchema : Schema QuotaReservation Uuid String :=
  ⟨QuotaReservation.id,QuotaReservation.requestId,QuotaReservation.Valid⟩

def ledgerSchema : Schema UsageLedger Uuid String := ⟨UsageLedger.id,UsageLedger.requestId,UsageLedger.Valid⟩

structure Db where
  gatewayKeys : Table keySchema
  quotaReservations : Table reservationSchema
  usageLedger : Table ledgerSchema

inductive Row where
  | gatewayKey (id : Uuid)
  | reservation (id : Uuid)
  | ledger (id : Uuid)
  deriving DecidableEq, Repr

/-- One open transaction: the rows as it sees them and the row locks it took, in order. -/
structure Session where
  db : Db
  locks : List Row

end SlaifGateway.Store
