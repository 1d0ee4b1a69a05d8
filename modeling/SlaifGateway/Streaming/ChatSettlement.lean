import SlaifGateway.Streaming.ChatOrder

/-! Whether a chat stream is settled when its generator has ended. The transactions do what
the accounting service does and fail for no other reason; cancellation and closing come at any
point. `Strands` names the steps after which nothing settles the reservation any more, and
without them every run settles it once, in the way its own records and its output call for. -/
namespace SlaifGateway.Streaming
open Store Quota Library Library.Tx Library.Table Library.Generator

def Settlement.isEstimate : Settlement → Bool
  | .liveBurnAbort _ | .interrupted _ => true
  | _ => false

def Settlement.isRelease : Settlement → Bool
  | .failure _ => true
  | _ => false

def Settlement.leaves (t : Settlement) : ReservationStatus := if t.isRelease then .released else .finalized

/-- A chunk with generated text came before the stream was given up. -/
def Observed (trace : ChatTrace) : Prop :=
  ∃ c,.took (.chunk c) ∈ trace ∧ c.isDone = false ∧ generatedChatStreamingDeltaText c.jsonBody ≠ ""

def Recorded (trace : ChatTrace) (c : ProviderStreamChunk) : Prop := ∃ b,.committed (.record c) b ∈ trace

def ProviderFailed (trace : ChatTrace) : Prop := ∃ e,.took (.failed e) ∈ trace

/-- The settlement that what happened calls for. -/
structure CalledFor (trace : ChatTrace) (t : Settlement) : Prop where
  usage : ∀ c,Recorded trace c → ∃ usageLedgerId,t = .finalize c usageLedgerId
  estimate : (∀ c,¬Recorded trace c) → Observed trace → t.isEstimate
  release : t.isRelease → (∀ c,¬Recorded trace c) ∧ ¬Observed trace

structure ChatSettled (q : StreamRequest) (w : ChatWorld) : Prop where
  closed : pendingIn w.db q.facts.reservationId = false
  row : ∃ l ∈ w.db.usageLedger,l.requestId = q.facts.requestId
  once : ∃ t,settlements w.trace = [.committed t true] ∧ CalledFor w.trace t ∧
    ∃ r ∈ w.db.quotaReservations,r.id = q.facts.reservationId ∧ r.status = t.leaves

/-- The steps that strand the reservation: the generator closed while it forwards an event, the usage
record refused, the client gone between the record's commit and the finalization's, or before the
commit of the settlement that answers a provider error. -/
def Strands (q : StreamRequest) (w : ChatWorld) : (e : Effect ProviderStreamChunk Settlement) → Answer e → Prop
  | .send (.forwarded _),.closed => True
  | .transact (.record c) _,.raised _ => ∀ b,q.bill c ≠ .ok b
  | .transact (.record _) _,.cancelled .afterCommit => True
  | .transact (.finalize _ _) _,.cancelled .beforeCommit => True
  | .transact _ _,.cancelled .beforeCommit => ProviderFailed w.trace
  | _,_ => False

def Unstranded (q : StreamRequest) (w : ChatWorld) (e : Effect ProviderStreamChunk Settlement) (a : Answer e) : Prop :=
  ¬Strands q w e a

/-- The reservation stands and nothing was committed for it. -/
structure Unsettled (q : StreamRequest) (v : ChatLocals) (w : ChatWorld) : Prop where
  standing : ∃ r k,Standing q.facts w.db r k
  rowless : Rowless q.facts w.db
  quiet : ∀ t b,.committed t b ∉ w.trace
  observed : 0 < v.estimatedOutputTokens ↔ Observed w.trace

section Worlds
variable {q : StreamRequest} {v : ChatLocals} {w : ChatWorld} {t : Settlement} {db' : Db}

/-- Notes that say nothing about the provider or the tables. -/
def Note.passing {C T : Type} : Note C T → Bool
  | .sent _ | .stoppedHeartbeat | .releasedConcurrency => true
  | _ => false

theorem calledForPassing {n} (called : CalledFor w.trace t) (passing : Note.passing n = true) :
    CalledFor (w.noting n).trace t := by
  have records : ∀ c,Recorded (w.noting n).trace c ↔ Recorded w.trace c := by
    intro c
    cases n <;> simp_all [Recorded,World.noting,Note.passing]
  have observes : Observed (w.noting n).trace ↔ Observed w.trace := by
    cases n <;> simp_all [Observed,World.noting,Note.passing]
  exact ⟨fun c recorded => called.usage c ((records c).mp recorded),
    fun none seen => called.estimate (fun c recorded => none c ((records c).mpr recorded)) (observes.mp seen),
    fun released => ⟨fun c recorded => (called.release released).1 c ((records c).mp recorded),
      fun seen => (called.release released).2 (observes.mp seen)⟩⟩

theorem ChatSettled.noting {n} (settled : ChatSettled q w) (passing : Note.passing n = true) :
    ChatSettled q (w.noting n) := by
  obtain ⟨closed,row,t,one,called,status⟩ := settled
  refine ⟨closed,row,t,?_,calledForPassing called passing,status⟩
  have quiet : n.settling = false := by cases n <;> simp_all [Note.passing,Note.settling]
  simpa [settlements,World.noting,quiet] using one

theorem Unsettled.noSettlements (before : Unsettled q v w) : settlements w.trace = [] := by
  refine List.filter_eq_nil_iff.mpr fun n mem => ?_
  cases n with
  | committed t b => exact absurd mem (before.quiet t b)
  | _ => simp [Note.settling]

/-- A settlement that fits what was observed ends the matter. -/
theorem settledAfter (none : settlements w.trace = []) (closes : ClosesRequest q w.db db' t.leaves)
    (called : CalledFor (w.after q.ledgering t db').trace t) : ChatSettled q (w.after q.ledgering t db') := by
  refine ⟨closes.closed,closes.row,t,?_,called,closes.status⟩
  have moved : settles q.ledgering.reservationId w.db db' = true := closes.settles
  simp only [settlements] at none
  simp [settlements,World.after,moved,Note.settling,none]

theorem unrecordedAfter (before : Unsettled q v w) (plain : ∀ c,t ≠ .record c) :
    ∀ c,¬Recorded (w.after q.ledgering t db').trace c := by
  rintro c ⟨b,mem⟩
  simp only [World.after,List.mem_append,List.mem_singleton] at mem
  rcases mem with old | new
  · exact before.quiet _ _ old
  · exact plain c (Note.committed.inj new).1.symm

theorem observedAfter : Observed (w.after q.ledgering t db').trace ↔ Observed w.trace := by
  simp [Observed,World.after]

theorem estimateSettles (before : Unsettled q v w) (estimate : t.isEstimate = true)
    (closes : ClosesRequest q w.db db' .finalized) : ChatSettled q (w.after q.ledgering t db') := by
  have plain : ∀ c,t ≠ .record c := by rintro c rfl; cases estimate
  have keeps : t.isRelease = false := by cases t <;> simp_all [Settlement.isEstimate,Settlement.isRelease]
  have none : ∀ c,¬Recorded (w.after q.ledgering t db').trace c := unrecordedAfter before plain
  refine settledAfter before.noSettlements (by simpa [Settlement.leaves,keeps] using closes)
    ⟨fun c recorded => absurd recorded (none c),fun _ _ => estimate,fun released => ?_⟩
  rw [keeps] at released
  cases released

theorem releaseSettles {diagnostic : Bool} (before : Unsettled q v w) (unseen : v.estimatedOutputTokens = 0)
    (closes : ClosesRequest q w.db db' .released) : ChatSettled q (w.after q.ledgering (.failure diagnostic) db') := by
  have none : ∀ c,¬Recorded (w.after q.ledgering (.failure diagnostic) db').trace c :=
    unrecordedAfter before (by simp)
  have blind : ¬Observed (w.after q.ledgering (.failure diagnostic) db').trace := by
    rw [observedAfter,← before.observed,unseen]
    exact lt_irrefl 0
  exact settledAfter before.noSettlements closes ⟨fun c recorded => absurd recorded (none c),
    fun _ seen => absurd seen blind,fun _ => ⟨none,blind⟩⟩
end Worlds

/-- Where an exception may leave the request before a handler sees it. -/
def Stops (q : StreamRequest) (x : Raised) (v : ChatLocals) (w : ChatWorld) : Prop :=
  match x with
  | .cancelledError => Unsettled q v w ∨ ChatSettled q w
  | .provider _ => Unsettled q v w ∧ ProviderFailed w.trace
  | .generatorExit => ChatSettled q w
  | _ => False

section Running
variable {q : StreamRequest} {v : ChatLocals} {w : ChatWorld}

theorem Unsettled.open (before : Unsettled q v w) : pendingIn w.db q.facts.reservationId = true := by
  obtain ⟨r,k,standing⟩ := before.standing
  exact pendingInIff.mpr ⟨r,standing.here,standing.named,standing.pending⟩

theorem interruptionSettles {diagnostic shielded : Bool} (before : Unsettled q v w) :
    (settleInterruption diagnostic shielded).Ensures (Environment q.ledgering False (Unstranded q)) v w
      (fun _ _ w' => ChatSettled q w')
      (fun x v' w' => x = .cancelledError ∧
        (ChatSettled q w' ∨ (v' = v ∧ w' = w) ∧ shielded = false ∧ ¬ProviderFailed w.trace)) := by
  obtain ⟨r,k,standing⟩ := before.standing
  simp only [settleInterruption,ensuresBind,ensuresLocals,ensuresIte,ensuresPure]
  refine ⟨fun seen => ?_,fun unseen => ?_⟩
  · have settled : ∀ id db',q.ledgering.Commits (.interrupted v.estimatedOutputTokens) w.db id db' →
        ChatSettled q (w.after q.ledgering (.interrupted v.estimatedOutputTokens) db') :=
      fun _ _ ok => estimateSettles before rfl (interruptedCloses ok)
    refine ensuresTransact (fun id db' ok _ => settled id db' ok) (fun e fails _ => ?_)
      (fun exposed may => ⟨rfl,Or.inr ⟨⟨rfl,rfl⟩,exposed,may⟩⟩) fun _ id db' ok _ => ⟨rfl,Or.inl (settled id db' ok)⟩
    exact absurd (fails.resolve_right id) (interruptedAccepted standing before.rowless)
  · have settled : ∀ id db',q.ledgering.Commits (.failure diagnostic) w.db id db' →
        ChatSettled q (w.after q.ledgering (.failure diagnostic) db') :=
      fun _ _ ok => releaseSettles before (Nat.eq_zero_of_not_pos unseen) (failureCloses before.open ok)
    refine ensuresTransact (fun id db' ok _ => settled id db' ok) (fun e fails _ => ?_)
      (fun exposed may => ⟨rfl,Or.inr ⟨⟨rfl,rfl⟩,exposed,may⟩⟩) fun _ id db' ok _ => ⟨rfl,Or.inl (settled id db' ok)⟩
    exact absurd (fails.resolve_right id) (failureAccepted standing before.rowless)

theorem interruptionChangesNothing {diagnostic shielded : Bool} {faults allowed} (settled : ChatSettled q w) :
    (settleInterruption diagnostic shielded).Ensures (Environment q.ledgering faults allowed) v w
      (fun _ _ w' => ChatSettled q w') (fun _ _ w' => ChatSettled q w') := by
  have refused := fun id db' => @interruptionRefused q w.db db' id settled.closed settled.row
  simp only [settleInterruption,ensuresBind,ensuresLocals,ensuresIte,ensuresPure]
  refine ⟨fun _ => ?_,fun _ => ?_⟩
  · exact ensuresTransact (fun id db' ok _ => absurd ok ((refused id db').1 _)) (fun _ _ _ => settled)
      (fun _ _ => settled) fun _ id db' ok _ => absurd ok ((refused id db').1 _)
  · exact ensuresTransact (fun id db' ok _ => absurd ok ((refused id db').2 _)) (fun _ _ _ => settled)
      (fun _ _ => settled) fun _ id db' ok _ => absurd ok ((refused id db').2 _)

theorem yieldSettled {event : StreamEvent} {faults allowed} (settled : ChatSettled q w) :
    (Events.yield event : ChatEvents Unit).Ensures (Environment q.ledgering faults allowed) v w
      (fun _ _ w' => ChatSettled q w') (fun x v' w' => Stops q x v' w') :=
  ensuresYield (fun _ => settled.noting rfl) fun _ => settled.noting rfl

theorem unsettledNoting {n} {v' : ChatLocals} (before : Unsettled q v w) (plain : ∀ t b,n ≠ .committed t b)
    (observed : 0 < v'.estimatedOutputTokens ↔ Observed (w.noting n).trace) : Unsettled q v' (w.noting n) := by
  refine ⟨before.standing,before.rowless,fun t b mem => ?_,observed⟩
  simp only [World.noting,List.mem_append,List.mem_singleton] at mem
  rcases mem with old | new
  · exact before.quiet t b old
  · exact plain t b new.symm

theorem unsettledUnseen {n} {v' : ChatLocals} (before : Unsettled q v w) (plain : ∀ t b,n ≠ .committed t b)
    (unseen : ∀ c,n = .took (.chunk c) → c.isDone = true)
    (same : v'.estimatedOutputTokens = v.estimatedOutputTokens) : Unsettled q v' (w.noting n) := by
  refine unsettledNoting before plain ?_
  rw [same,before.observed]
  constructor
  · rintro ⟨c,mem,rest⟩
    exact ⟨c,List.mem_append_left _ mem,rest⟩
  · rintro ⟨c,mem,live,text⟩
    rcases List.mem_append.mp mem with old | new
    · exact ⟨c,old,live,text⟩
    · rw [unseen c (List.mem_singleton.mp new).symm] at live
      cases live

theorem unsettledObserving {c : ProviderStreamChunk} (before : Unsettled q v w) (live : c.isDone = false) :
    Unsettled q ((v.remembering c).observing q c) (w.noting (.took (.chunk c))) := by
  refine unsettledNoting before (by simp) ?_
  simp only [ChatLocals.observing,rememberingRest.2.2,Nat.add_pos_iff_pos_or_pos,before.observed,deltaTokensPositive]
  constructor
  · rintro (⟨d,mem,rest⟩ | text)
    · exact ⟨d,List.mem_append_left _ mem,rest⟩
    · exact ⟨c,List.mem_append_right _ List.mem_cons_self,live,text⟩
  · rintro ⟨d,mem,rest⟩
    rcases List.mem_append.mp mem with old | new
    · exact Or.inl ⟨d,old,rest⟩
    · cases List.mem_singleton.mp new
      exact Or.inr rest.2

theorem consumeSettles {ending : Option ProviderError} {chunks : List ProviderStreamChunk} (before : Unsettled q v w) :
    (consume q ending chunks).Ensures (Environment q.ledgering False (Unstranded q)) v w
      (fun go v' w' => if go then Unsettled q v' w' else ChatSettled q w') (fun x v' w' => Stops q x v' w') := by
  induction chunks generalizing v w with
  | nil =>
    cases ending with
    | none =>
      refine ensuresBind.mpr (ensuresPull (fun _ => ?_) fun _ => Or.inl before)
      exact unsettledUnseen before (by simp) (by simp) rfl
    | some e =>
      refine ensuresBind.mpr (ensuresPull (fun _ => ?_) fun _ => Or.inl before)
      exact ⟨unsettledUnseen before (by simp) (by simp) rfl,e,List.mem_append_right _ List.mem_cons_self⟩
  | cons c rest ih =>
    unfold consume
    simp only [ensuresBind]
    refine ensuresPull (fun _ => ?_) fun _ => Or.inl before
    simp only [ensuresUpdate,ensuresIte,ensuresBind,ensuresLocals]
    refine ⟨fun done => ih ?_,fun plain => ?_⟩
    · exact unsettledUnseen before (by simp) (by simpa using done) rememberingRest.2.2
    · rw [Bool.not_eq_true] at plain
      have observing := unsettledObserving before plain
      obtain ⟨r,k,standing⟩ := observing.standing
      split
      · rename_i estimate crossed
        have settled : ∀ id db',q.ledgering.Commits (.liveBurnAbort estimate) _ id db' → _ :=
          fun _ _ ok => estimateSettles (t := .liveBurnAbort estimate) observing rfl (abortCloses ok)
        simp only [ensuresBind]
        refine ensuresTransact (fun id db' ok _ => ?_) (fun e fails _ => ?_) (fun _ _ => Or.inl observing)
          fun _ id db' ok _ => Or.inr (settled id db' ok)
        · exact (yieldSettled (settled id db' ok)).mono (fun _ _ _ done => done) fun _ _ _ stops => stops
        · exact absurd (fails.resolve_right id) (abortAccepted standing observing.rowless crossed)
      · simp only [ensuresBind]
        refine ensuresYield (fun _ => ih ?_) fun may => absurd trivial may
        exact unsettledUnseen observing (by simp) (by simp) rfl

/-- The usage row is written and nothing else is: only its finalization can settle the request now. -/
structure UsageRecorded (q : StreamRequest) (c : ProviderStreamChunk) (usageLedgerId : Uuid) (w : ChatWorld) : Prop where
  standing : ∃ r k,Standing q.facts w.db r k
  billed : ∃ b,q.bill c = .ok b
  row : ∃ l ∈ w.db.usageLedger,l.id = usageLedgerId ∧ l.requestId = q.facts.requestId
  unsettled : settlements w.trace = []
  recorded : Recorded w.trace c
  only : ∀ d,Recorded w.trace d → d = c

theorem usageRecordedAfter {c id db'} (before : Unsettled q v w) (ok : q.ledgering.Commits (.record c) w.db id db') :
    UsageRecorded q c id (w.after q.ledgering (.record c) db') := by
  obtain ⟨r,k,standing⟩ := before.standing
  obtain ⟨standing,billed,still,row⟩ := recordKeeps standing before.rowless ok
  refine ⟨⟨r,k,standing⟩,billed,row,?_,⟨_,List.mem_append_right _ List.mem_cons_self⟩,?_⟩
  · have none := before.noSettlements
    simp only [settlements] at none
    have quiet : settles q.ledgering.reservationId w.db db' = false := still
    simp [settlements,World.after,Note.settling,quiet,none]
  · rintro d ⟨b,mem⟩
    rcases List.mem_append.mp mem with old | new
    · exact absurd old (before.quiet _ _)
    · cases List.mem_singleton.mp new
      rfl

theorem usageSettles {c id l db'} (before : UsageRecorded q c l.id w) (row : l ∈ w.db.usageLedger)
    (request : l.requestId = q.facts.requestId) (ok : q.ledgering.Commits (.finalize c l.id) w.db id db') :
    ChatSettled q (w.after q.ledgering (.finalize c l.id) db') := by
  have records : ∀ d,Recorded (w.after q.ledgering (.finalize c l.id) db').trace d ↔ Recorded w.trace d := by
    intro d
    simp [Recorded,World.after]
  refine settledAfter before.unsettled (finalizeCloses row request ok) ⟨fun d recorded => ?_,fun none _ => ?_,?_⟩
  · exact ⟨l.id,by rw [before.only d ((records d).mp recorded)]⟩
  · exact absurd ((records c).mpr before.recorded) (none c)
  · intro released
    cases released

theorem finalizeSettlesUsage {c id} (before : UsageRecorded q c id w) :
    (finalizeCompleted c id).Ensures (Environment q.ledgering False (Unstranded q)) v w
      (fun _ _ w' => ChatSettled q w') (fun x v' w' => Stops q x v' w') := by
  obtain ⟨r,k,standing⟩ := before.standing
  obtain ⟨b,billed⟩ := before.billed
  obtain ⟨l,row,rfl,request⟩ := before.row
  simp only [finalizeCompleted,ensuresAttempt,ensuresBind,ensuresPure]
  refine ensuresTransact (fun id db' ok _ => usageSettles before row request ok) (fun e fails _ => ?_)
    (fun _ may => absurd trivial may) fun _ id db' ok _ => Or.inr (usageSettles before row request ok)
  exact absurd (fails.resolve_right id) (finalizeAccepted standing billed row)

theorem concludeSettles (before : Unsettled q v w) :
    (conclude q).Ensures (Environment q.ledgering False (Unstranded q)) v w (fun _ _ w' => ChatSettled q w')
      (fun x v' w' => Stops q x v' w') := by
  obtain ⟨r,k,standing⟩ := before.standing
  simp only [conclude,ensuresBind,ensuresLocals]
  split
  · rename_i c _ _
    simp only [ensuresBind]
    refine ensuresTransact (fun id db' ok _ => ?_) (fun e fails may => ?_) (fun _ _ => Or.inl before)
      fun _ _ _ _ may => absurd trivial may
    · refine (finalizeSettlesUsage (usageRecordedAfter before ok)).mono (fun _ _ _ settled => ?_) fun _ _ _ stops => stops
      split
      · exact yieldSettled settled
      · exact settled
    · -- the record is refused only where the usage is not billable, which strands the request
      refine absurd (fun b billed => ?_) may
      exact recordAccepted standing before.rowless billed (fails.resolve_right id)
  · simp only [ensuresBind]
    refine (interruptionSettles before).mono (fun _ _ _ settled => yieldSettled settled) ?_
    rintro x v' w' ⟨rfl,settled | ⟨⟨rfl,rfl⟩,-⟩⟩
    · exact Or.inr settled
    · exact Or.inl before

theorem handleSettles {x : Raised} (stops : Stops q x v w) :
    (handle x).Ensures (Environment q.ledgering False (Unstranded q)) v w (fun _ _ w' => ChatSettled q w')
      (fun _ _ w' => ChatSettled q w') := by
  cases x with
  | cancelledError =>
    simp only [handle,ensuresBind,ensuresThrow]
    rcases stops with before | settled
    · refine (interruptionSettles before).mono (fun _ _ _ settled => settled) ?_
      rintro x v' w' ⟨rfl,settled | ⟨-,exposed,-⟩⟩
      · exact settled
      · cases exposed
    · exact interruptionChangesNothing settled
  | provider e =>
    obtain ⟨before,failed⟩ := stops
    simp only [handle,ensuresBind]
    refine (interruptionSettles before).mono (fun _ _ _ settled => ?_) ?_
    · exact ensuresYield (fun _ => settled.noting rfl) fun _ => settled.noting rfl
    · rintro x v' w' ⟨rfl,settled | ⟨-,-,healthy⟩⟩
      · exact settled
      · exact absurd failed healthy
  | generatorExit => exact stops
  | service e => exact stops.elim
  | openai => exact stops.elim
  | unexpected => exact stops.elim

theorem eventsSettle {ending : Option ProviderError} {chunks : List ProviderStreamChunk}
    (before : Unsettled q ChatLocals.start w) :
    (chatEvents q chunks ending).Ensures (Environment q.ledgering False (Unstranded q)) .start w
      (fun _ _ w' => ChatSettled q w') (fun _ _ w' => ChatSettled q w') := by
  refine Ensures.finished (p := fun _ w' => ChatSettled q w') ?_
    fun _ _ settled => ensuresCleanUp ((settled.noting rfl).noting rfl)
  refine Ensures.handled (ensuresBind.mpr ?_) fun x v' w' (stops : Stops q x v' w') => handleSettles stops
  refine (consumeSettles before).mono (fun go _ _ consumed => ?_) fun _ _ _ stops => stops
  cases go with
  | false => exact consumed
  | true => exact concludeSettles consumed
end Running

theorem cooperativeUnstranded {q : StreamRequest} (w : ChatWorld) (e : Effect ProviderStreamChunk Settlement) (a : Answer e)
    (cooperates : Cooperates e a) : Unstranded q w e a := by
  intro stranded
  cases e with
  | pull item => exact stranded
  | send event =>
    cases a with
    | resumed => cases event <;> exact stranded
    | closed => exact cooperates
  | transact t shielded =>
    cases a with
    | committed id => cases t <;> exact stranded
    | raised e => exact cooperates
    | cancelled c => exact cooperates
  | stopHeartbeat => exact stranded
  | releaseConcurrency => exact stranded

end SlaifGateway.Streaming
