import SlaifGateway.Store.Repositories

/-! What an accounting transaction can do to a key and its reservations: one
reservation opens, one settles, or neither. Every service module proves its
operations to be movements of this kind, and the counter laws are about these
alone. Ledger rows are followed where the operation is. -/
namespace SlaifGateway.Quota
open Store Library Library.Table

def Limits.Allows (l : Limits) (a : Amounts) : Prop :=
  (∀ c ∈ l.costEur, a.costEur ≤ c) ∧ (∀ t ∈ l.tokens, a.tokens ≤ t) ∧ ∀ n ∈ l.requests, a.requests ≤ n

instance (l : Limits) (a : Amounts) : Decidable (Limits.Allows l a) := by unfold Limits.Allows; infer_instance

theorem allowsMono {l a b} (h : Limits.Allows l a) (le : b ≤ a) : Limits.Allows l b :=
  ⟨fun c mem => le.1.trans (h.1 c mem),fun t mem => le.2.1.trans (h.2.1 t mem),
    fun n mem => le.2.2.trans (h.2.2 n mem)⟩

theorem keyFound {db : Db} {id k} : db.gatewayKeys.find id = some k ↔ k ∈ db.gatewayKeys ∧ k.id = id := findIff

theorem reservationFound {db : Db} {id r} :
    db.quotaReservations.find id = some r ↔ r ∈ db.quotaReservations ∧ r.id = id := findIff

theorem ledgerFound {db : Db} {id l} : db.usageLedger.find id = some l ↔ l ∈ db.usageLedger ∧ l.id = id := findIff

theorem requestLedgerFound {db : Db} {q l} :
    db.usageLedger.findUnique q = some l ↔ l ∈ db.usageLedger ∧ l.requestId = q := findUniqueIff

/-- A reservation enters `pending` and its amounts enter the key's reserved counters. -/
structure Opened (db db' : Db) (k k' : GatewayKey) (r : QuotaReservation) : Prop where
  keys : db.gatewayKeys.Updated k k' db'.gatewayKeys
  reservations : db.quotaReservations.Inserted r db'.quotaReservations
  ledger : db'.usageLedger = db.usageLedger
  pending : r.status = .pending
  own : r.gatewayKeyId = k.id
  key : k' = { k with reserved := k.reserved + r.reserved, fence := k'.fence }
  room : Limits.Allows k.limit (k.used + k.reserved + r.reserved)
  free : k.fence.state = .none
  fence : k'.fence = k.fence ∨ k'.fence.reservationId = some r.id ∧
    ∀ x ∈ db.quotaReservations, x.gatewayKeyId = k.id → x.status ≠ .pending

/-- A pending reservation leaves `pending`: its amounts leave the reserved counters and
`actual` enters the used ones. -/
structure Settled (db db' : Db) (k k' : GatewayKey) (r r' : QuotaReservation) (actual : Amounts) : Prop where
  keys : db.gatewayKeys.Updated k k' db'.gatewayKeys
  reservations : db.quotaReservations.Updated r r' db'.quotaReservations
  pending : r.status = .pending
  terminal : r'.status ≠ .pending
  own : r.gatewayKeyId = k.id
  row : r' = { r with status := r'.status, finalizedAt := r'.finalizedAt, releasedAt := r'.releasedAt }
  enough : r.reserved ≤ k.reserved
  key : k' = { k with reserved := k.reserved - r.reserved, used := k.used + actual,
                      lastUsedAt := k'.lastUsedAt, fence := k'.fence }
  fence : k'.fence = k.fence ∨ k'.fence = .clear

/-- Counters, limits and reservations stay; a fence may change. -/
structure Kept (db db' : Db) : Prop where
  reservations : db'.quotaReservations = db.quotaReservations
  keys : db'.gatewayKeys = db.gatewayKeys ∨
    ∃ k k', db.gatewayKeys.Updated k k' db'.gatewayKeys ∧ k' = { k with fence := k'.fence } ∧
      (k'.fence.reservationId = k.fence.reservationId ∨ k'.fence = .clear)

/-- The row a settlement leaves: the reservation with another status and its timestamps. -/
structure Closes (r r' : QuotaReservation) : Prop where
  terminal : r'.status ≠ .pending
  row : r' = { r with status := r'.status, finalizedAt := r'.finalizedAt, releasedAt := r'.releasedAt }

theorem closesReleased {r at'} : Closes r (r.markReleased at') := ⟨by simp [QuotaReservation.markReleased],rfl⟩

theorem closesFinalized {r at'} : Closes r (r.markFinalized at') := ⟨by simp [QuotaReservation.markFinalized],rfl⟩

theorem closesExpired {r at'} : Closes r (r.markExpired at') := ⟨by simp [QuotaReservation.markExpired],rfl⟩

section Building
variable {db db' : Db} {k : GatewayKey} {r r' : QuotaReservation} {id : Uuid}
  (foundKey : db.gatewayKeys.find r.gatewayKeyId = some k) (found : db.quotaReservations.find id = some r)
  (pending : r.status = .pending) (enough : r.reserved ≤ k.reserved) (closes : Closes r r')
  (reservations : db.quotaReservations.update r' = some db'.quotaReservations)
include foundKey found pending enough closes reservations

theorem settledBySubtract (keys : db.gatewayKeys.update (k.subtractReserved r.reserved) = some db'.gatewayKeys) :
    Settled db db' k (k.subtractReserved r.reserved) r r' 0 := by
  obtain ⟨keyHere,own⟩ := keyFound.mp foundKey
  have here := (reservationFound.mp found).1
  refine ⟨updateOk keyHere keys rfl,updateOk here reservations ?_,pending,closes.terminal,own.symm,closes.row,
    enough,?_,Or.inl rfl⟩
  · rw [closes.row]; rfl
  · simp [GatewayKey.subtractReserved]

theorem settledByFinalize {actual now}
    (keys : db.gatewayKeys.update (k.finalizeReserved r.reserved actual now) = some db'.gatewayKeys) :
    Settled db db' k (k.finalizeReserved r.reserved actual now) r r' actual := by
  obtain ⟨keyHere,own⟩ := keyFound.mp foundKey
  have here := (reservationFound.mp found).1
  refine ⟨updateOk keyHere keys rfl,updateOk here reservations ?_,pending,closes.terminal,own.symm,closes.row,
    enough,rfl,Or.inl rfl⟩
  rw [closes.row]; rfl
end Building

theorem Settled.sameId {db db' k k' r r' actual} (h : Settled db db' k k' r r' actual) :
    r'.id = r.id ∧ r'.gatewayKeyId = r.gatewayKeyId ∧ r'.requestId = r.requestId ∧ r'.reserved = r.reserved ∧
      r'.quotaMode = r.quotaMode := by
  rw [h.row]
  exact ⟨rfl,rfl,rfl,rfl,rfl⟩

theorem Settled.counters {db db' k k' r r' actual} (h : Settled db db' k k' r r' actual) :
    k'.id = k.id ∧ k'.reserved = k.reserved - r.reserved ∧ k'.used = k.used + actual ∧ k'.limit = k.limit := by
  rw [h.key]
  exact ⟨rfl,rfl,rfl,rfl⟩

theorem Opened.counters {db db' k k' r} (h : Opened db db' k k' r) :
    k'.id = k.id ∧ k'.reserved = k.reserved + r.reserved ∧ k'.used = k.used ∧ k'.limit = k.limit := by
  rw [h.key]
  exact ⟨rfl,rfl,rfl,rfl⟩
end SlaifGateway.Quota
