import SlaifGateway.Quota.Accounting

/-! The settlements of a request whose reservation stands: it is pending, belongs to the
caller's key, and that key's counters cover it. With no ledger row for the request yet each of
them goes through; once the request is closed and has its row, none of them changes anything. -/
namespace SlaifGateway.Quota
open Store Library Library.Tx Library.Table

structure Standing (f : RequestFacts) (db : Db) (r : QuotaReservation) (k : GatewayKey) : Prop where
  here : r ∈ db.quotaReservations
  named : r.id = f.reservationId
  own : r.gatewayKeyId = f.authenticatedKey.gatewayKeyId
  pending : r.status = .pending
  key : k ∈ db.gatewayKeys
  keyed : k.id = f.authenticatedKey.gatewayKeyId
  enough : r.reserved ≤ k.reserved

/-- No ledger row for the request yet. -/
def Rowless (f : RequestFacts) (db : Db) : Prop := ∀ l ∈ db.usageLedger, l.requestId ≠ f.requestId

def FreshRow (f : RequestFacts) (db : Db) : Prop := ∀ l ∈ db.usageLedger, l.id ≠ f.newId

/-- The columns of a bill that the tables require to be nonnegative. -/
def Billable (b : Bill) : Prop := 0 ≤ b.promptTokens ∧ 0 ≤ b.completionTokens ∧ 0 ≤ b.totalTokens ∧ 0 ≤ b.actualCostEur

theorem Billable.amounts {b : Bill} (h : Billable b) : 0 ≤ b.amounts := ⟨h.2.2.2,h.2.2.1,zero_le_one⟩

section Facts
variable {f : RequestFacts} {db : Db} {r : QuotaReservation} {k : GatewayKey} (standing : Standing f db r k)
include standing

theorem Standing.found : db.quotaReservations.find f.reservationId = some r :=
  reservationFound.mpr ⟨standing.here,standing.named⟩

theorem Standing.foundKey : db.gatewayKeys.find f.authenticatedKey.gatewayKeyId = some k :=
  keyFound.mpr ⟨standing.key,standing.keyed⟩

theorem Standing.finalizeKey {actual : Amounts} (nonneg : 0 ≤ actual) (now : Time) :
    ∃ t, db.gatewayKeys.update (k.finalizeReserved r.reserved actual now) = some t := by
  obtain ⟨used,-,rest⟩ := validOf standing.key
  exact updateOf standing.key ⟨add_nonneg used nonneg,sub_nonneg.mpr standing.enough,rest⟩ rfl rfl

theorem Standing.releaseKey : ∃ t, db.gatewayKeys.update (k.subtractReserved r.reserved) = some t := by
  obtain ⟨used,-,rest⟩ := validOf standing.key
  exact updateOf standing.key ⟨used,sub_nonneg.mpr standing.enough,rest⟩ rfl rfl

theorem Standing.finalizeRow (now : Time) : ∃ t, db.quotaReservations.update (r.markFinalized now) = some t := by
  have valid : QuotaReservation.Valid r := validOf standing.here
  exact updateOf standing.here valid rfl rfl

theorem Standing.releaseRow (now : Time) : ∃ t, db.quotaReservations.update (r.markReleased now) = some t := by
  have valid : QuotaReservation.Valid r := validOf standing.here
  exact updateOf standing.here valid rfl rfl
end Facts

theorem insertRow {f : RequestFacts} {db : Db} {l : UsageLedger} (valid : UsageLedger.Valid l) (id : l.id = f.newId)
    (request : l.requestId = f.requestId) (rowless : Rowless f db) (fresh : FreshRow f db) :
    ∃ t, db.usageLedger.insert l = some t :=
  insertOf valid fun x mem => ⟨fun same => fresh x mem (same.symm.trans id),
    fun same => rowless x mem (same.symm.trans request)⟩

section Succeeds
variable {db : Db} {r : QuotaReservation} {k : GatewayKey}

theorem normalizeOk {value : String} (stated : blank value = false) : normalizeCurrency value = .ok () := by
  simp [normalizeCurrency,stated]

theorem estimateSucceeds {i : InterruptedInput} (standing : Standing i.facts db r k) (rowless : Rowless i.facts db)
    (fresh : FreshRow i.facts db) (total : 0 ≤ i.estimatedTotalTokens) (input : 0 ≤ i.estimatedInputTokens)
    (output : 0 ≤ i.estimatedOutputTokens) (cost : 0 ≤ i.estimatedCostEur)
    (currency : blank i.facts.pricingEstimate.nativeCurrency = false) :
    ∃ a s, (recordStreamingInterruptedEstimate i).Returns ⟨db,[]⟩ a s := by
  have billable : Billable i.bill := by
    refine ⟨le_min input total,?_,total,cost⟩
    exact le_min output (le_max_right _ _)
  obtain ⟨t,keys⟩ := standing.finalizeKey billable.amounts i.facts.finishedAt
  obtain ⟨t',reservations⟩ := standing.finalizeRow i.facts.finishedAt
  have valid : UsageLedger.Valid i.ledger := by
    refine ⟨billable.1,billable.2.1,total,?_,?_⟩
    · rintro c ⟨⟩
      exact cost
    · rintro c ⟨⟩
      exact cost
  obtain ⟨t'',inserted⟩ := insertRow valid rfl rfl rowless fresh
  simp [recordStreamingInterruptedEstimate,finalizeReservedCounters,markPendingReservationFinalized,orLedgerWriteError,
    nonNegativeInt,nonNegativeDecimal,standing.found,standing.foundKey,standing.own,standing.pending,standing.enough,
    total,input,output,cost,keys,reservations,inserted,normalizeOk currency]

theorem failureSucceeds {i : FailureInput} (standing : Standing i.facts db r k) (rowless : Rowless i.facts db)
    (fresh : FreshRow i.facts db) (estimated : 0 ≤ i.facts.pricingEstimate.estimatedTotalCostEur)
    (currency : blank i.facts.pricingEstimate.nativeCurrency = false) :
    ∃ a s, (recordProviderFailureAndRelease i).Returns ⟨db,[]⟩ a s := by
  obtain ⟨t,keys⟩ := standing.releaseKey
  obtain ⟨t',reservations⟩ := standing.releaseRow i.facts.finishedAt
  have valid : UsageLedger.Valid i.ledger.asFailure := by
    refine ⟨le_rfl,le_rfl,le_rfl,?_,?_⟩
    · rintro c ⟨⟩
      exact estimated
    · rintro c ⟨⟩
      exact le_rfl
  obtain ⟨t'',inserted⟩ := insertRow valid rfl rfl rowless fresh
  simp [recordProviderFailureAndRelease,getReservationByIdForUpdate,getGatewayKeyByIdForQuotaUpdate,createFailureLedger,
    orLedgerWriteError,createFailureRecord,releaseIfPending,subtractReservedCounters,markPendingReservationReleased,
    standing.found,standing.foundKey,standing.own,standing.pending,standing.enough,keys,reservations,inserted,
    normalizeOk currency]

theorem recordSucceeds {i : RecordInput} {bill : Bill} (standing : Standing i.facts db r k) (rowless : Rowless i.facts db)
    (fresh : FreshRow i.facts db) (billed : i.facts.bill i.metered = .ok bill) (billable : Billable bill)
    (estimated : 0 ≤ i.facts.pricingEstimate.estimatedTotalCostEur) :
    ∃ a s, (recordProviderCompletedBeforeFinalization i).Returns ⟨db,[]⟩ a s := by
  have absent : db.usageLedger.findUnique i.facts.requestId = none := findUniqueNone.mpr rowless
  have valid : UsageLedger.Valid (i.facts.ledger bill pendingMetadata).asProviderCompleted := by
    refine ⟨billable.1,billable.2.1,billable.2.2.1,?_,?_⟩
    · rintro c ⟨⟩
      exact estimated
    · rintro c ⟨⟩
      exact billable.2.2.2
  obtain ⟨t,inserted⟩ := insertRow valid rfl rfl rowless fresh
  simp [recordProviderCompletedBeforeFinalization,getReservationById,getUsageRecordByRequestId,
    createProviderCompletedRecord,standing.found,standing.own,standing.pending,billed,absent,inserted]

theorem finalizeSucceeds {i : FinalizeInput} {bill : Bill} {l : UsageLedger} (standing : Standing i.facts db r k)
    (billed : i.facts.bill i.metered = .ok bill) (billable : Billable bill) (row : l ∈ db.usageLedger)
    (carried : i.providerCompletedUsageLedgerId = some l.id) :
    ∃ a s, (finalizeSuccessfulResponse i).Returns ⟨db,[]⟩ a s := by
  obtain ⟨t,keys⟩ := standing.finalizeKey billable.amounts i.facts.finishedAt
  obtain ⟨t',reservations⟩ := standing.finalizeRow i.facts.finishedAt
  have valid : UsageLedger.Valid l := validOf row
  obtain ⟨t'',updated⟩ := updateOf (r := l.markFinalized finalizedMetadata) row valid rfl rfl
  have foundRow : db.usageLedger.find l.id = some l := ledgerFound.mpr ⟨row,rfl⟩
  simp [finalizeSuccessfulResponse,finalizeLedger,carried,markProviderCompletedLedgerFinalized,
    markProviderCompletedRecordFinalized,getUsageRecordById,orLedgerWriteError,finalizeReservedCounters,
    markPendingReservationFinalized,standing.found,standing.foundKey,standing.own,standing.pending,standing.enough,
    billed,keys,reservations,foundRow,updated]

/-- The id the record answers with is the id of the row it wrote. -/
theorem recordWrites {i : RecordInput} {s a s'} (rowless : Rowless i.facts s.db)
    (ok : (recordProviderCompletedBeforeFinalization i).Returns s a s') :
    s'.db.gatewayKeys = s.db.gatewayKeys ∧ s'.db.quotaReservations = s.db.quotaReservations ∧
      ∃ bill l, i.facts.bill i.metered = .ok bill ∧ l = (i.facts.ledger bill pendingMetadata).asProviderCompleted ∧
        s.db.usageLedger.Inserted l s'.db.usageLedger ∧ a.usageLedgerId = l.id := by
  have absent : s.db.usageLedger.findUnique i.facts.requestId = none := findUniqueNone.mpr rowless
  simp [recordProviderCompletedBeforeFinalization,getReservationById,getUsageRecordByRequestId,
    createProviderCompletedRecord,absent] at ok
  obtain ⟨r,-,-,-,bill,billed,⟨t,inserted,rfl⟩,rfl⟩ := ok
  exact ⟨rfl,rfl,bill,_,billed,rfl,insertOk inserted,rfl⟩
end Succeeds
end SlaifGateway.Quota
