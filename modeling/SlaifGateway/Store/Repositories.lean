import SlaifGateway.Library.Transaction
import SlaifGateway.Store.Schema
import SlaifGateway.Store.Errors
import Mathlib.Data.List.Sort

/-! The repository helpers the accounting services call inside a caller's
transaction. A failed constraint is an integrity error. Row locks are logged where
a statement takes one on a committed row: `FOR UPDATE` selects, and the ledger
updates made on a row that was read without a lock. -/
namespace SlaifGateway.Store
open Library Library.Tx

abbrev Action := Tx Session ServiceError

namespace Session

def lock (s : Session) (rows : List Row) : Session := ⟨s.db,s.locks ++ rows⟩

@[simp] theorem lockDb (s : Session) (rows : List Row) : (s.lock rows).db = s.db := rfl

@[simp] theorem lockLocks (s : Session) (rows : List Row) : (s.lock rows).locks = s.locks ++ rows := rfl

def withKeys (s : Session) (t : Table keySchema) : Session := ⟨{ s.db with gatewayKeys := t },s.locks⟩

def withReservations (s : Session) (t : Table reservationSchema) : Session :=
  ⟨{ s.db with quotaReservations := t },s.locks⟩

def withLedger (s : Session) (t : Table ledgerSchema) : Session := ⟨{ s.db with usageLedger := t },s.locks⟩

@[simp] theorem withKeysDb (s : Session) (t) : (s.withKeys t).db = { s.db with gatewayKeys := t } := rfl
@[simp] theorem withReservationsDb (s : Session) (t) :
    (s.withReservations t).db = { s.db with quotaReservations := t } := rfl
@[simp] theorem withLedgerDb (s : Session) (t) : (s.withLedger t).db = { s.db with usageLedger := t } := rfl
@[simp] theorem withKeysLocks (s : Session) (t) : (s.withKeys t).locks = s.locks := rfl
@[simp] theorem withReservationsLocks (s : Session) (t) : (s.withReservations t).locks = s.locks := rfl
@[simp] theorem withLedgerLocks (s : Session) (t) : (s.withLedger t).locks = s.locks := rfl
end Session

def select {α : Type} (query : Db → α) : Action α := reading fun s => query s.db

/-- A `FOR UPDATE` select: the rows it finds are locked as it returns. -/
def selectForUpdate {α : Type} (query : Db → List α) (row : α → Row) : Action (List α) := fun s =>
  (.ok (query s.db),s.lock ((query s.db).map row))

/-- `scalar_one_or_none` over such a select by primary key. -/
def selectOneForUpdate {α : Type} (query : Db → Option α) (row : α → Row) : Action (Option α) := do
  let rows ← selectForUpdate (fun db => (query db).toList) row
  pure rows.head?

def write {τ α : Type} (put : Session → τ → Session) (result : Session → Option τ) (a : α) : Action α := fun s =>
  match result s with
  | some t => (.ok a,put s t)
  | none => (.error ErrorKind.integrity.error,s)

@[simp] theorem returnsSelect {α : Type} {query : Db → α} {s a s'} :
    (select query).Returns s a s' ↔ query s.db = a ∧ s = s' := returnsReading

@[simp] theorem returnsSelectForUpdate {α : Type} {query : Db → List α} {row s a s'} :
    (selectForUpdate query row).Returns s a s' ↔ query s.db = a ∧ s.lock ((query s.db).map row) = s' := by
  change (Except.ok (query s.db),s.lock ((query s.db).map row)) = (Except.ok a,s') ↔ _
  simp

@[simp] theorem returnsSelectOneForUpdate {α : Type} {query : Db → Option α} {row s o s'} :
    (selectOneForUpdate query row).Returns s o s' ↔ query s.db = o ∧ s.lock (o.toList.map row) = s' := by
  simp only [selectOneForUpdate,returnsBind,returnsSelectForUpdate,returnsPure]
  cases query s.db <;> simp +contextual [eq_comm]

theorem execWrite {τ α : Type} (put : Session → τ → Session) (result : Session → Option τ) (a : α) (s) :
    (write put result a : Action α).exec s = match result s with
      | some t => (.ok a,put s t)
      | none => (.error ErrorKind.integrity.error,s) := rfl

@[simp] theorem returnsWrite {τ α : Type} {put : Session → τ → Session} {result a s b s'} :
    (write put result a : Action α).Returns s b s' ↔ a = b ∧ ∃ t, result s = some t ∧ put s t = s' := by
  unfold Returns
  rw [execWrite]
  cases result s <;> simp

@[simp] theorem endsSelect {α : Type} {query : Db → α} {s ok err} : (select query).Ends s ok err ↔ ok (query s.db) s := Iff.rfl

@[simp] theorem endsSelectForUpdate {α : Type} {query : Db → List α} {row s ok err} :
    (selectForUpdate query row).Ends s ok err ↔ ok (query s.db) (s.lock ((query s.db).map row)) := Iff.rfl

@[simp] theorem endsSelectOneForUpdate {α : Type} {query : Db → Option α} {row s ok err} :
    (selectOneForUpdate query row).Ends s ok err ↔ ok (query s.db) (s.lock ((query s.db).toList.map row)) := by
  simp only [selectOneForUpdate,endsBind,endsSelectForUpdate,endsPure]
  cases query s.db <;> rfl

@[simp] theorem endsWrite {τ α : Type} {put : Session → τ → Session} {result : Session → Option τ} {a : α} {s ok err} :
    (write put result a).Ends s ok err ↔
      (result s = none → err ErrorKind.integrity.error s) ∧ ∀ t, result s = some t → ok a (put s t) := by
  unfold Ends
  rw [execWrite]
  cases result s <;> simp

section Locking
variable {α β : Type} {query : Db → Option α} {row : α → Row} {e : ServiceError} {f : α → Action β} {s : Session}
  {p : List Row}

/-- A row that must be there: if it is, its lock comes first. -/
theorem execLocked : (selectOneForUpdate query row >>= fun o => orRaise o e >>= f).exec s = match query s.db with
    | some a => (f a).exec (s.lock [row a])
    | none => (.error e,s.lock []) := by
  have first : (selectOneForUpdate query row).exec s = (.ok (query s.db),s.lock ((query s.db).toList.map row)) :=
    returnsSelectOneForUpdate.mpr ⟨rfl,rfl⟩
  rw [execBind,first]
  cases query s.db <;> rfl

theorem tracesLocked (found : ∀ a, query s.db = some a → ∃ rest, p = row a :: rest ∧
      (f a).Traces Session.locks (s.lock [row a]) rest) :
    (selectOneForUpdate query row >>= fun o => orRaise o e >>= f).Traces Session.locks s p := by
  unfold Traces at found ⊢
  rw [execLocked]
  cases present : query s.db with
  | none => simp
  | some a =>
    obtain ⟨rest,rfl,next⟩ := found a present
    simpa using next
end Locking

section GatewayKeys

def getGatewayKeyById (id : Uuid) : Action (Option GatewayKey) := select fun db => db.gatewayKeys.find id

def getGatewayKeyByIdForQuotaUpdate (id : Uuid) : Action (Option GatewayKey) :=
  selectOneForUpdate (fun db => db.gatewayKeys.find id) fun k => .gatewayKey k.id

def getGatewayKeyForUpdate (id : Uuid) : Action (Option GatewayKey) := getGatewayKeyByIdForQuotaUpdate id

def flushKey (k : GatewayKey) : Action GatewayKey :=
  write Session.withKeys (fun s => s.db.gatewayKeys.update k) k

def GatewayKey.addReserved (k : GatewayKey) (amounts : Amounts) : GatewayKey :=
  { k with reserved := k.reserved + amounts }

def addReservedCounters (k : GatewayKey) (amounts : Amounts) : Action GatewayKey := flushKey (k.addReserved amounts)

def ensureReservedCountersCanDecrement (k : GatewayKey) (amounts : Amounts) : Action Unit := do
  raiseIf (k.reserved.costEur < amounts.costEur) <| ErrorKind.quotaCounterInvariant.naming
    "Reserved cost counter is lower than the requested decrement" "cost_reserved_eur"
  raiseIf (k.reserved.tokens < amounts.tokens) <| ErrorKind.quotaCounterInvariant.naming
    "Reserved token counter is lower than the requested decrement" "tokens_reserved_total"
  raiseIf (k.reserved.requests < amounts.requests) <| ErrorKind.quotaCounterInvariant.naming
    "Reserved request counter is lower than the requested decrement" "requests_reserved_total"

def GatewayKey.subtractReserved (k : GatewayKey) (amounts : Amounts) : GatewayKey :=
  { k with reserved := k.reserved - amounts }

def subtractReservedCounters (k : GatewayKey) (amounts : Amounts) : Action GatewayKey := do
  ensureReservedCountersCanDecrement k amounts
  flushKey (k.subtractReserved amounts)

def GatewayKey.finalizeReserved (k : GatewayKey) (amounts actual : Amounts) (lastUsedAt : Time) : GatewayKey :=
  { k with reserved := k.reserved - amounts, used := k.used + actual, lastUsedAt := some lastUsedAt }

def finalizeReservedCounters (k : GatewayKey) (amounts actual : Amounts) (lastUsedAt : Time) :
    Action GatewayKey := do
  ensureReservedCountersCanDecrement k amounts
  flushKey (k.finalizeReserved amounts actual lastUsedAt)

def GatewayKey.withFence (k : GatewayKey) (fence : Fence) : GatewayKey := { k with fence }

def setExternalToolFence (k : GatewayKey) (fence : Fence) : Action GatewayKey := flushKey (k.withFence fence)

/-- `reset_gateway_key_usage_counters`: the columns it overwrites before the flush. -/
def GatewayKey.resetCounters (k : GatewayKey) (resetUsed resetReserved : Bool) (resetAt : Time) : GatewayKey :=
  { k with
    used := if resetUsed then 0 else k.used
    lastUsedAt := if resetUsed then none else k.lastUsedAt
    reserved := if resetReserved then 0 else k.reserved
    lastQuotaResetAt := some resetAt
    quotaResetCount := k.quotaResetCount + 1 }

def resetGatewayKeyUsageCounters (k : GatewayKey) (resetUsed resetReserved : Bool) (resetAt : Time) :
    Action GatewayKey :=
  flushKey (k.resetCounters resetUsed resetReserved resetAt)
end GatewayKeys

section QuotaReservations

def createReservation (r : QuotaReservation) : Action QuotaReservation :=
  write Session.withReservations (fun s => s.db.quotaReservations.insert r) r

def getReservationById (id : Uuid) : Action (Option QuotaReservation) :=
  select fun db => db.quotaReservations.find id

def getReservationByIdForUpdate (id : Uuid) : Action (Option QuotaReservation) :=
  selectOneForUpdate (fun db => db.quotaReservations.find id) fun r => .reservation r.id

def getReservationByRequestId (requestId : String) : Action (Option QuotaReservation) :=
  select fun db => db.quotaReservations.findUnique requestId

def isPendingOf (keyId : Uuid) (r : QuotaReservation) : Bool := r.gatewayKeyId = keyId ∧ r.status = .pending

/-- `list_reservations_for_key(..., status="pending")`, without its order and page. -/
def listPendingReservationsForKey (keyId : Uuid) : Action (List QuotaReservation) :=
  select fun db => db.quotaReservations.filter (isPendingOf keyId)

def flushReservation (r : QuotaReservation) : Action QuotaReservation :=
  write Session.withReservations (fun s => s.db.quotaReservations.update r) r

def QuotaReservation.markReleased (r : QuotaReservation) (releasedAt : Time) : QuotaReservation :=
  { r with status := .released, releasedAt := some releasedAt }

def QuotaReservation.markFinalized (r : QuotaReservation) (finalizedAt : Time) : QuotaReservation :=
  { r with status := .finalized, finalizedAt := some finalizedAt, releasedAt := none }

def QuotaReservation.markExpired (r : QuotaReservation) (releasedAt : Time) : QuotaReservation :=
  { r with status := .expired, releasedAt := some releasedAt, finalizedAt := none }

def markPendingReservationReleased (r : QuotaReservation) (releasedAt : Time) : Action QuotaReservation :=
  flushReservation (r.markReleased releasedAt)

def markPendingReservationFinalized (r : QuotaReservation) (finalizedAt : Time) : Action QuotaReservation :=
  flushReservation (r.markFinalized finalizedAt)

def markPendingReservationExpired (r : QuotaReservation) (releasedAt : Time) : Action QuotaReservation :=
  flushReservation (r.markExpired releasedAt)

def Db.expiredPendingReservations (db : Db) (now : Time) (limit : Nat) : List QuotaReservation :=
  ((db.quotaReservations.filter fun r => r.status = .pending ∧ r.expiresAt ≤ now).insertionSort
    fun a b => a.expiresAt ≤ b.expiresAt).take limit

def listExpiredPendingReservations (now : Time) (limit : Nat) : Action (List QuotaReservation) :=
  select fun db => db.expiredPendingReservations now limit
end QuotaReservations

section UsageLedgers

def createUsageRecord (l : UsageLedger) : Action UsageLedger :=
  write Session.withLedger (fun s => s.db.usageLedger.insert l) l

namespace UsageLedger

def asSuccess (l : UsageLedger) : UsageLedger := { l with success := some true, accountingStatus := .finalized }

def asFailure (l : UsageLedger) : UsageLedger := { l with success := some false, accountingStatus := .failed }

def asProviderCompleted (l : UsageLedger) : UsageLedger := { l with success := none, accountingStatus := .pending }

def markFinalized (l : UsageLedger) (responseMetadata : ResponseMetadata) : UsageLedger :=
  { l with success := some true, accountingStatus := .finalized, responseMetadata }

def markFinalizationFailed (l : UsageLedger) (responseMetadata : ResponseMetadata) : UsageLedger :=
  { l with success := none, accountingStatus := .failed, responseMetadata }

/-- `update_external_tool_hold_ledger`, the columns it overwrites before the flush. -/
def settleHold (l : UsageLedger) (accountingStatus : AccountingStatus) (success : Bool) (actualCostEur : ℚ)
    (totalTokens : ℤ) (responseMetadata : ResponseMetadata) : UsageLedger :=
  { l with
    accountingStatus, success := some success, actualCostEur := some actualCostEur, totalTokens, responseMetadata }
end UsageLedger

def createSuccessRecord (l : UsageLedger) : Action UsageLedger := createUsageRecord l.asSuccess

def createFailureRecord (l : UsageLedger) : Action UsageLedger := createUsageRecord l.asFailure

def createProviderCompletedRecord (l : UsageLedger) : Action UsageLedger := createUsageRecord l.asProviderCompleted

def getUsageRecordById (id : Uuid) : Action (Option UsageLedger) := select fun db => db.usageLedger.find id

def getUsageRecordByIdForUpdate (id : Uuid) : Action (Option UsageLedger) :=
  selectOneForUpdate (fun db => db.usageLedger.find id) fun l => .ledger l.id

def getUsageRecordByRequestId (requestId : String) : Action (Option UsageLedger) :=
  select fun db => db.usageLedger.findUnique requestId

def getUsageRecordsByReservationId (reservationId : Uuid) : Action (List UsageLedger) :=
  select fun db => db.usageLedger.filter fun l => l.quotaReservationId = some reservationId

def flushLedger (l : UsageLedger) : Action UsageLedger :=
  write Session.withLedger (fun s => s.db.usageLedger.update l) l

/-- An update of a row that was read without a lock takes the row lock itself. -/
def flushUnlockedLedger (l : UsageLedger) : Action UsageLedger :=
  write (fun s t => (s.withLedger t).lock [.ledger l.id]) (fun s => s.db.usageLedger.update l) l

def markProviderCompletedRecordFinalized (id : Uuid) (responseMetadata : ResponseMetadata) :
    Action UsageLedger := do
  let row ← orRaise (← getUsageRecordById id) ErrorKind.lookup.error
  flushUnlockedLedger (row.markFinalized responseMetadata)

def markProviderCompletedRecordFinalizationFailed (id : Uuid) (responseMetadata : ResponseMetadata) :
    Action UsageLedger := do
  let row ← orRaise (← getUsageRecordById id) ErrorKind.lookup.error
  flushUnlockedLedger (row.markFinalizationFailed responseMetadata)

def markProviderCompletedReconciled (id : Uuid) (responseMetadata : ResponseMetadata) : Action UsageLedger := do
  let row ← orRaise (← getUsageRecordById id) ErrorKind.lookup.error
  flushUnlockedLedger (row.markFinalized responseMetadata)

/-- `_provider_completed_recovery_statement`. -/
def UsageLedger.isProviderCompletedRecovery (l : UsageLedger) : Bool :=
  l.accountingStatus = .failed ∧ l.responseMetadata.needsReconciliation = some true ∧
  l.responseMetadata.recoveryState = some .providerCompletedFinalizationFailed

def Db.providerCompletedRecovery (db : Db) (usageLedgerId reservationId : Option Uuid) : List UsageLedger :=
  db.usageLedger.filter fun l => l.isProviderCompletedRecovery ∧ (∀ id ∈ usageLedgerId, l.id = id) ∧
    ∀ id ∈ reservationId, l.quotaReservationId = some id

def getProviderCompletedRecoveryRecordForUpdate (usageLedgerId reservationId : Option Uuid) :
    Action (Option UsageLedger) := do
  let rows ← selectForUpdate (fun db => db.providerCompletedRecovery usageLedgerId reservationId)
    fun l => .ledger l.id
  raiseIf (1 < rows.length) ErrorKind.multipleResultsFound.error
  pure rows.head?

def updateExternalToolHoldLedger (l : UsageLedger) (accountingStatus : AccountingStatus) (success : Bool)
    (actualCostEur : ℚ) (totalTokens : ℤ) (responseMetadata : ResponseMetadata) : Action UsageLedger :=
  flushLedger (l.settleHold accountingStatus success actualCostEur totalTokens responseMetadata)
end UsageLedgers

section Specifications

@[simp] theorem returnsEnsure {k amounts s u s'} :
    (ensureReservedCountersCanDecrement k amounts).Returns s u s' ↔ amounts ≤ k.reserved ∧ s = s' := by
  simp only [ensureReservedCountersCanDecrement,returnsBind,returnsRaiseIf,Amounts.leIff,not_lt]
  grind

@[simp] theorem returnsFlushKey {k s k' s'} : (flushKey k).Returns s k' s' ↔
    k = k' ∧ ∃ t, s.db.gatewayKeys.update k = some t ∧ s.withKeys t = s' := returnsWrite

@[simp] theorem returnsFlushReservation {r s r' s'} : (flushReservation r).Returns s r' s' ↔
    r = r' ∧ ∃ t, s.db.quotaReservations.update r = some t ∧ s.withReservations t = s' := returnsWrite

@[simp] theorem returnsCreateReservation {r s r' s'} : (createReservation r).Returns s r' s' ↔
    r = r' ∧ ∃ t, s.db.quotaReservations.insert r = some t ∧ s.withReservations t = s' := returnsWrite

@[simp] theorem returnsFlushLedger {l s l' s'} : (flushLedger l).Returns s l' s' ↔
    l = l' ∧ ∃ t, s.db.usageLedger.update l = some t ∧ s.withLedger t = s' := returnsWrite

@[simp] theorem returnsFlushUnlockedLedger {l s l' s'} : (flushUnlockedLedger l).Returns s l' s' ↔
    l = l' ∧ ∃ t, s.db.usageLedger.update l = some t ∧ (s.withLedger t).lock [.ledger l.id] = s' := returnsWrite

@[simp] theorem returnsCreateUsageRecord {l s l' s'} : (createUsageRecord l).Returns s l' s' ↔
    l = l' ∧ ∃ t, s.db.usageLedger.insert l = some t ∧ s.withLedger t = s' := returnsWrite

theorem expiredPendingMem {db : Db} {now limit r} (candidate : r ∈ db.expiredPendingReservations now limit) :
    r ∈ db.quotaReservations := by
  have sorted := List.mem_of_mem_take candidate
  rw [List.mem_insertionSort] at sorted
  exact (Table.memFilter.mp sorted).1
end Specifications
end SlaifGateway.Store
