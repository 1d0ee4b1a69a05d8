import SlaifGateway.Quota.Operations
import SlaifGateway.Streaming.ChatCompletion

/-! The transactions of an ordinary stream, one by one: what each does to the request's rows,
when it is accepted, and that none of them revives or settles twice. -/
namespace SlaifGateway.Streaming
open Store Quota Library Library.Tx Library.Table Library.Generator

/-- A committed transaction leaves the reservations alone or closes the request's own. -/
theorem settlementMoves {q : StreamRequest} {t : Settlement} {now newId db id s}
    (ok : (t.action q now newId).Returns ⟨db,[]⟩ id s) :
    s.db.quotaReservations = db.quotaReservations ∨ ∃ r r',
      db.quotaReservations.Updated r r' s.db.quotaReservations ∧ r.id = q.facts.reservationId ∧
        r.status = .pending ∧ r'.status ≠ .pending := by
  cases t with
  | record c =>
    obtain ⟨_,ok,-⟩ := returnsMap.mp ok
    obtain ⟨r,-,-,-,-,same | ⟨_,-,-,same,-⟩⟩ := recordCases ok
    · exact Or.inl (by rw [same])
    · exact Or.inl same
  | finalize c usageLedgerId =>
    obtain ⟨_,ok,-⟩ := returnsMap.mp ok
    obtain ⟨k,r,bill,-,named,-,settled,-⟩ := finalizeSettled ok
    exact Or.inr ⟨r,_,settled.reservations,named,settled.pending,settled.terminal⟩
  | markFailed usageLedgerId =>
    obtain ⟨_,ok,-⟩ := returnsMap.mp ok
    exact Or.inl (markFailedUpdated ok).2.1
  | liveBurnAbort e =>
    obtain ⟨_,ok,-⟩ := returnsMap.mp ok
    obtain ⟨k,r,named,-,settled,-⟩ := interruptedSettled ok
    exact Or.inr ⟨r,_,settled.reservations,named,settled.pending,settled.terminal⟩
  | interrupted outputTokens =>
    obtain ⟨_,ok,-⟩ := returnsMap.mp ok
    obtain ⟨k,r,named,-,settled,-⟩ := interruptedSettled ok
    exact Or.inr ⟨r,_,settled.reservations,named,settled.pending,settled.terminal⟩
  | failure diagnostic =>
    obtain ⟨_,ok,-⟩ := returnsMap.mp ok
    obtain ⟨r,-,named,-,-,⟨k,settled⟩ | ⟨-,-,same⟩⟩ := failureCases ok
    · exact Or.inr ⟨r,_,settled.reservations,named,settled.pending,settled.terminal⟩
    · exact Or.inl same

section Commits
variable {q : StreamRequest} {t : Settlement} {db id db'}

theorem pendingNotRevived (ok : q.ledgering.Commits t db id db') (closed : pendingIn db q.facts.reservationId = false) :
    pendingIn db' q.facts.reservationId = false := by
  obtain ⟨now,newId,s,-,ok,rfl⟩ := ok
  rcases settlementMoves ok with same | ⟨r,r',moved,named,pending,-⟩
  · unfold pendingIn at closed ⊢
    rwa [same]
  · have open' : pendingIn db q.facts.reservationId = true := pendingInIff.mpr ⟨r,moved.here,named,pending⟩
    rw [closed] at open'
    cases open'

theorem finalizeSettles {c usageLedgerId} (ok : q.ledgering.Commits (.finalize c usageLedgerId) db id db') :
    settles q.facts.reservationId db db' = true := by
  obtain ⟨now,newId,s,-,ok,rfl⟩ := ok
  obtain ⟨_,ok,-⟩ := returnsMap.mp ok
  obtain ⟨k,r,bill,-,named,-,settled,-⟩ := finalizeSettled ok
  exact settlesClosed settled.reservations named settled.pending settled.terminal
end Commits

section Transactions
variable {q : StreamRequest} {db db' : Db} {id : Uuid} {e : ServiceError}

theorem notRefused {T : Type} {L : Ledgering T} {t : T} (surely : ∀ now newId,(∀ l ∈ db.usageLedger,l.id ≠ newId) →
    ∃ a s,(L.action t now newId).Returns ⟨db,[]⟩ a s) : ¬L.Refuses t db e := by
  rintro ⟨now,newId,s,fresh,fails⟩
  obtain ⟨a,s',ok⟩ := surely now newId fresh
  cases fails.symm.trans ok

theorem standingStamped {r k now newId} (h : Standing q.facts db r k) : Standing (q.stamped now newId) db r k :=
  ⟨h.here,h.named,h.own,h.pending,h.key,h.keyed,h.enough⟩

theorem billBillable {c : ProviderStreamChunk} {b : Bill} (billed : q.bill c = .ok b) : Billable b := by
  unfold StreamRequest.bill RequestFacts.bill at billed
  split at billed
  · unfold fixedRequestBill at billed
    split at billed
    · cases billed
    · cases stated : normalizeCurrency q.facts.pricingEstimate.nativeCurrency with
      | error e => simp [stated,bind,Except.bind] at billed
      | ok u =>
        simp only [stated,bind,Except.bind,pure,Except.pure,Except.ok.injEq] at billed
        rw [← billed]
        exact ⟨le_rfl,le_rfl,le_rfl,q.estimated⟩
  · cases metered : q.meter c with
    | error e => simp [metered,Except.mapError] at billed
    | ok m =>
      simp only [metered,Except.mapError,Except.ok.injEq] at billed
      exact billed ▸ q.metered c m metered

section Open
variable {r : QuotaReservation} {k : GatewayKey} (standing : Standing q.facts db r k) (rowless : Rowless q.facts db)
include standing rowless

theorem abortAccepted {estimate : LiveBurnEstimate} {outputTokens : ℕ}
    (crossed : q.budget.check outputTokens = some estimate) : ¬q.ledgering.Refuses (.liveBurnAbort estimate) db e := by
  refine notRefused fun now newId fresh => ?_
  have cost : 0 ≤ estimate.estimatedCostEur := by
    unfold LiveBurnBudget.check at crossed
    split at crossed
    · cases crossed
    · cases crossed
      exact estimatedCostNonneg q.budget outputTokens
  obtain ⟨a,s,ok⟩ := estimateSucceeds (i := q.aborted estimate now newId) (standingStamped standing) rowless fresh
    (Int.natCast_nonneg _) (Int.natCast_nonneg _) (Int.natCast_nonneg _) cost q.currency
  exact ⟨_,s,returnsMap.mpr ⟨a,ok,rfl⟩⟩

theorem interruptedAccepted {outputTokens : ℕ} : ¬q.ledgering.Refuses (.interrupted outputTokens) db e := by
  refine notRefused fun now newId fresh => ?_
  obtain ⟨a,s,ok⟩ := estimateSucceeds (i := q.interrupted outputTokens now newId) (standingStamped standing) rowless fresh
    (Int.natCast_nonneg _) (Int.natCast_nonneg _) (Int.natCast_nonneg _) (estimatedCostNonneg q.budget outputTokens)
    q.currency
  exact ⟨_,s,returnsMap.mpr ⟨a,ok,rfl⟩⟩

theorem failureAccepted {diagnostic : Bool} : ¬q.ledgering.Refuses (.failure diagnostic) db e := by
  refine notRefused fun now newId fresh => ?_
  obtain ⟨a,s,ok⟩ := failureSucceeds (i := ⟨q.stamped now newId,diagnostic⟩) (standingStamped standing) rowless fresh
    q.estimated q.currency
  exact ⟨_,s,returnsMap.mpr ⟨a,ok,rfl⟩⟩

theorem recordAccepted {c : ProviderStreamChunk} {b : Bill} (billed : q.bill c = .ok b) :
    ¬q.ledgering.Refuses (.record c) db e := by
  refine notRefused fun now newId fresh => ?_
  obtain ⟨a,s,ok⟩ := recordSucceeds (i := ⟨q.stamped now newId,q.meter c⟩) (standingStamped standing) rowless fresh
    billed (billBillable billed) q.estimated
  exact ⟨_,s,returnsMap.mpr ⟨a,ok,rfl⟩⟩
end Open

theorem finalizeAccepted {r k l} {c : ProviderStreamChunk} {b : Bill} (standing : Standing q.facts db r k)
    (billed : q.bill c = .ok b) (row : l ∈ db.usageLedger) : ¬q.ledgering.Refuses (.finalize c l.id) db e := by
  refine notRefused fun now newId _ => ?_
  obtain ⟨a,s,ok⟩ := finalizeSucceeds (i := ⟨q.stamped now newId,q.meter c,some l.id⟩) (standingStamped standing) billed
    (billBillable billed) row rfl
  exact ⟨_,s,returnsMap.mpr ⟨a,ok,rfl⟩⟩

/-- The reservation and the row a settlement leaves behind. -/
structure ClosesRequest (q : StreamRequest) (db db' : Db) (status : ReservationStatus) : Prop where
  settles : settles q.facts.reservationId db db' = true
  closed : pendingIn db' q.facts.reservationId = false
  status : ∃ r ∈ db'.quotaReservations,r.id = q.facts.reservationId ∧ r.status = status
  row : ∃ l ∈ db'.usageLedger,l.requestId = q.facts.requestId

theorem closesOf {k k' r r' actual} (settled : Settled db db' k k' r r' actual) (named : r.id = q.facts.reservationId)
    (row : ∃ l ∈ db'.usageLedger,l.requestId = q.facts.requestId) : ClosesRequest q db db' r'.status := by
  have same : r'.id = q.facts.reservationId := settled.sameId.1.trans named
  have new := settled.reservations.memNew
  exact ⟨settlesClosed settled.reservations named settled.pending settled.terminal,
    notPendingOf new same settled.terminal,⟨r',new,same,rfl⟩,row⟩

theorem estimateCloses {i : InterruptedInput} {s a s'} (reservation : i.facts.reservationId = q.facts.reservationId)
    (request : i.facts.requestId = q.facts.requestId) (ok : (recordStreamingInterruptedEstimate i).Returns s a s') :
    ClosesRequest q s.db s'.db .finalized := by
  obtain ⟨k,r,named,-,settled,inserted⟩ := interruptedSettled ok
  exact closesOf settled (named.trans reservation) ⟨_,inserted.memNew,request⟩

theorem abortCloses {estimate} (ok : q.ledgering.Commits (.liveBurnAbort estimate) db id db') :
    ClosesRequest q db db' .finalized := by
  obtain ⟨now,newId,s,-,ok,rfl⟩ := ok
  obtain ⟨_,ok,-⟩ := returnsMap.mp ok
  exact estimateCloses rfl rfl ok

theorem interruptedCloses {outputTokens} (ok : q.ledgering.Commits (.interrupted outputTokens) db id db') :
    ClosesRequest q db db' .finalized := by
  obtain ⟨now,newId,s,-,ok,rfl⟩ := ok
  obtain ⟨_,ok,-⟩ := returnsMap.mp ok
  exact estimateCloses rfl rfl ok

theorem failureCloses {diagnostic} (open' : pendingIn db q.facts.reservationId = true)
    (ok : q.ledgering.Commits (.failure diagnostic) db id db') : ClosesRequest q db db' .released := by
  obtain ⟨now,newId,s,-,ok,rfl⟩ := ok
  obtain ⟨_,ok,-⟩ := returnsMap.mp ok
  obtain ⟨r,here,named,-,inserted,⟨k,settled⟩ | ⟨closed,-,-⟩⟩ := failureCases ok
  · exact closesOf settled named ⟨_,inserted.memNew,rfl⟩
  · have shut : pendingIn db q.facts.reservationId = false := notPendingOf here named closed
    rw [open'] at shut
    cases shut

theorem finalizeCloses {c l} (row : l ∈ db.usageLedger) (request : l.requestId = q.facts.requestId)
    (ok : q.ledgering.Commits (.finalize c l.id) db id db') : ClosesRequest q db db' .finalized := by
  obtain ⟨now,newId,s,-,ok,rfl⟩ := ok
  obtain ⟨_,ok,-⟩ := returnsMap.mp ok
  obtain ⟨k,r,bill,-,named,-,settled,⟨carried,-⟩ | ⟨x,carried,updated⟩⟩ := finalizeSettled ok
  · cases carried
  · have one : x = l := eqOfKey updated.here row (Option.some.inj carried).symm
    exact closesOf settled named ⟨_,updated.memNew,one ▸ request⟩

/-- The usage row of a pending request, once it is recorded. -/
theorem recordKeeps {c r k} (standing : Standing q.facts db r k) (rowless : Rowless q.facts db)
    (ok : q.ledgering.Commits (.record c) db id db') : Standing q.facts db' r k ∧ (∃ b,q.bill c = .ok b) ∧
      settles q.facts.reservationId db db' = false ∧
      ∃ l ∈ db'.usageLedger,l.id = id ∧ l.requestId = q.facts.requestId := by
  obtain ⟨now,newId,s,-,ok,rfl⟩ := ok
  obtain ⟨a,ok,named⟩ := returnsMap.mp ok
  obtain ⟨keys,reservations,bill,l,billed,rfl,inserted,same⟩ := recordWrites
    (i := ⟨q.stamped now newId,q.meter c⟩) (s := ⟨db,[]⟩) rowless ok
  refine ⟨⟨?_,standing.named,standing.own,standing.pending,?_,standing.keyed,standing.enough⟩,⟨bill,billed⟩,?_,
    _,inserted.memNew,same.symm.trans named,rfl⟩
  · exact reservations ▸ standing.here
  · exact keys ▸ standing.key
  · have equal : pendingIn s.db q.facts.reservationId = pendingIn db q.facts.reservationId := by
      unfold pendingIn
      rw [reservations]
    simp [settles,equal]

/-- Once closed and on the ledger, neither interruption settlement commits again. -/
theorem interruptionRefused (closed : pendingIn db q.facts.reservationId = false)
    (row : ∃ l ∈ db.usageLedger,l.requestId = q.facts.requestId) :
    (∀ outputTokens,¬q.ledgering.Commits (.interrupted outputTokens) db id db') ∧
      ∀ diagnostic,¬q.ledgering.Commits (.failure diagnostic) db id db' := by
  refine ⟨fun outputTokens ok => ?_,fun diagnostic ok => ?_⟩
  · have moved := (interruptedCloses ok).settles
    simp [settles,closed] at moved
  · obtain ⟨now,newId,s,-,ok,rfl⟩ := ok
    obtain ⟨_,ok,-⟩ := returnsMap.mp ok
    obtain ⟨l,mem,request⟩ := row
    obtain ⟨r,-,-,-,inserted,-⟩ := failureCases ok
    exact (inserted.fresh l mem).2 request.symm
end Transactions

/-- What admission leaves: the request's reservation stands and nothing is on the ledger for it. -/
structure Admitted (q : StreamRequest) (db : Db) : Prop where
  standing : ∃ r k,Standing q.facts db r k
  rowless : Rowless q.facts db


/-- A request without cutoffs whose every usage is billed alike. -/
def demoStream : StreamRequest where
  facts := demoFacts 10 "a" 20
  budget := ⟨none,none,10,0,0,1,le_rfl,le_rfl⟩
  meter := fun _ => .ok ⟨20,20,40,2,2,true⟩
  metered := fun c b billed => by
    cases billed
    exact ⟨by decide,by decide,by decide,by decide⟩
  estimated := by decide
  currency := by decide

def demoStreamDb : Db := run demoDb [.reserve (demoReserve 10 "a" 1)]

def demoDelta : ProviderStreamChunk where
  rawSseEvent := "data: hello"
  jsonBody := .obj [("choices",.arr [.obj [("delta",.obj [("content",.str "hello")])]])]
  usage := some (.obj [])
  isDone := false

def demoDone : ProviderStreamChunk := ⟨"data: [DONE]",.null,none,true⟩

theorem demoAdmitted : Admitted demoStream demoStreamDb := by
  refine ⟨⟨(demoReserve 10 "a" 1).reservation,{ demoKey with reserved := (demoReserve 10 "a" 1).reservation.reserved },
    ?_⟩,?_⟩
  · exact ⟨by decide +kernel,rfl,rfl,rfl,by decide +kernel,rfl,le_rfl⟩
  · change ∀ l ∈ demoStreamDb.usageLedger.rows,l.requestId ≠ "a"
    decide +kernel
end SlaifGateway.Streaming
