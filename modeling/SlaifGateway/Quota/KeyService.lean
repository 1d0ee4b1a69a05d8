import SlaifGateway.Quota.Movements

/-! The administrative usage reset of the key service: the one operation outside
the accounting services that writes the counters. Its audit row is absent. -/
namespace SlaifGateway.Quota
open Store Library Library.Tx Library.Table

structure ResetGatewayKeyUsageInput where
  gatewayKeyId : Uuid
  resetUsedCounters : Bool
  resetReservedCounters : Bool
  now : Time
  deriving DecidableEq, Repr

def getGatewayKey (id : Uuid) : Action GatewayKey := do
  orRaise (← getGatewayKeyForUpdate id) ErrorKind.gatewayKeyNotFound.error

/-- Status changes are not guarded by this; counter and policy changes are. -/
def requireNotExternalToolFenced (k : GatewayKey) (operation : String) : Action Unit :=
  raiseIf (k.fence.state = .active ∨ k.fence.state = .held) <| ErrorKind.gatewayKeyExternalToolFenceActive.saying <|
    ErrorKind.gatewayKeyExternalToolFenceActive.message ++ " (blocked operation: " ++ operation ++ ")"

def resetGatewayKeyUsage (i : ResetGatewayKeyUsageInput) : Action GatewayKey := do
  raiseIf (i.resetUsedCounters = false ∧ i.resetReservedCounters = false) <|
    ErrorKind.invalidGatewayKeyUsageReset.saying "At least one counter family must be reset"
  let gatewayKey ← getGatewayKey i.gatewayKeyId
  requireNotExternalToolFenced gatewayKey "usage reset"
  resetGatewayKeyUsageCounters gatewayKey i.resetUsedCounters i.resetReservedCounters i.now

/-- The chosen counters of one unfenced key went to zero, whatever is in flight. -/
structure Reset (i : ResetGatewayKeyUsageInput) (db db' : Db) (k : GatewayKey) : Prop where
  keys : db.gatewayKeys.Updated k (k.resetCounters i.resetUsedCounters i.resetReservedCounters i.now) db'.gatewayKeys
  reservations : db'.quotaReservations = db.quotaReservations
  ledger : db'.usageLedger = db.usageLedger
  named : k.id = i.gatewayKeyId
  free : k.fence.state = .none

theorem resetCases {i s a s'} (ok : (resetGatewayKeyUsage i).Returns s a s') : ∃ k, Reset i s.db s'.db k := by
  simp [resetGatewayKeyUsage,getGatewayKey,requireNotExternalToolFenced,getGatewayKeyForUpdate,
    getGatewayKeyByIdForQuotaUpdate,resetGatewayKeyUsageCounters] at ok
  obtain ⟨-,k,found,free,-,t,updated,rfl⟩ := ok
  obtain ⟨here,named⟩ := keyFound.mp found
  refine ⟨k,updateOk here updated rfl,rfl,rfl,named,?_⟩
  cases state : k.fence.state with
  | none => rfl
  | active => exact absurd state free.1
  | held => exact absurd state free.2
end SlaifGateway.Quota
