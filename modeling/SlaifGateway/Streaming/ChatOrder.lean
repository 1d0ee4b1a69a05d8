import SlaifGateway.Streaming.ChatTransactions

/-! What a chat client is told, in which order, and what was committed before: the provider's
events up to some point, then nothing, one error or the done event, and the done event only
behind the committed finalization. Transactions may fail for any reason and at any point. -/
namespace SlaifGateway.Streaming
open Store Quota Library Library.Tx Library.Table Library.Generator

/-- At most one settlement so far, and none to come once there was one. -/
def OnceSettled (q : StreamRequest) (w : World ProviderStreamChunk Settlement) : Prop :=
  (settlements w.trace).length ≤ 1 ∧ (settlements w.trace ≠ [] → pendingIn w.db q.facts.reservationId = false)

theorem onceSettledNoting {q : StreamRequest} {w : World ProviderStreamChunk Settlement} {n} (once : OnceSettled q w)
    (quiet : n.settling = false) : OnceSettled q (w.noting n) := by
  have same : settlements (w.noting n).trace = settlements w.trace := by
    simp [settlements,World.noting,List.filter_append,quiet]
  unfold OnceSettled
  rw [same]
  exact once

theorem onceSettledAfter {q : StreamRequest} {w : World ProviderStreamChunk Settlement} {t id db'}
    (once : OnceSettled q w) (ok : q.ledgering.Commits t w.db id db') : OnceSettled q (w.after q.ledgering t db') := by
  obtain ⟨few,closed⟩ := once
  cases moved : settles q.facts.reservationId w.db db' with
  | false =>
    have same : settlements (w.after q.ledgering t db').trace = settlements w.trace := by
      simp [settlements,World.after,StreamRequest.ledgering,moved,Note.settling,List.filter_append]
    unfold OnceSettled
    rw [same]
    exact ⟨few,fun any => pendingNotRevived ok (closed any)⟩
  | true =>
    -- the reservation was pending until now, so nothing had settled it before
    obtain ⟨before,after⟩ : pendingIn w.db q.facts.reservationId = true ∧
        pendingIn db' q.facts.reservationId = false := by
      simpa [settles] using moved
    have none : settlements w.trace = [] := by
      by_contra any
      rw [closed any] at before
      cases before
    have one : settlements (w.after q.ledgering t db').trace = [.committed t true] := by
      simp only [settlements] at none
      simp [settlements,World.after,StreamRequest.ledgering,moved,Note.settling,List.filter_append,none]
    unfold OnceSettled
    rw [one]
    exact ⟨le_rfl,fun _ => after⟩

theorem onceSettledStep {q : StreamRequest} {faults allowed} (w : World ProviderStreamChunk Settlement) (e) (a) (w')
    (step : Environment q.ledgering faults allowed w e a w') (once : OnceSettled q w) : OnceSettled q w' := by
  obtain ⟨reacts,-⟩ := step
  cases reacts with
  | came => exact onceSettledNoting once rfl
  | pullCancelled => exact once
  | resumed => exact onceSettledNoting once rfl
  | closed => exact onceSettledNoting once rfl
  | committed _ ok => exact onceSettledAfter once ok
  | refused => exact once
  | faulted => exact once
  | cancelledBefore => exact once
  | cancelledAfter ok => exact onceSettledAfter once ok
  | stopped => exact onceSettledNoting once rfl
  | released => exact onceSettledNoting once rfl

/-- The chunks a client may see. -/
def forwardable (chunks : List ProviderStreamChunk) : List ProviderStreamChunk := chunks.filter fun c => !c.isDone

def forwardedEvent (c : ProviderStreamChunk) : StreamEvent := .forwarded c.rawSseEvent

def lastUsage (chunks : List ProviderStreamChunk) : Option ProviderStreamChunk :=
  (chunks.filter fun c => c.usage.isSome).getLast?

def lastDone (chunks : List ProviderStreamChunk) : Option String :=
  ((chunks.filter fun c => c.isDone).getLast?).map fun c => c.rawSseEvent

/-- The monitor's count after these chunks. -/
def observedTokens (q : StreamRequest) (chunks : List ProviderStreamChunk) : ℕ :=
  (chunks.map fun c =>
    estimateOutputDeltaTokens (generatedChatStreamingDeltaText c.jsonBody) q.budget.estimateMultiplier).sum

/-- None of the first `n` chunks reached a cutoff when it was counted. -/
def Uncrossed (q : StreamRequest) (chunks : List ProviderStreamChunk) (n : ℕ) : Prop :=
  ∀ k < n,q.budget.check (observedTokens q ((forwardable chunks).take (k + 1))) = none

abbrev ChatTrace := List (Note ProviderStreamChunk Settlement)

/-- The client saw the first `n` provider events and nothing else. -/
def Forwarded (q : StreamRequest) (chunks : List ProviderStreamChunk) (n : ℕ) (trace : ChatTrace) : Prop :=
  sent trace = ((forwardable chunks).take n).map forwardedEvent ∧ Uncrossed q chunks n

/-- How the telling ends. -/
inductive Told (q : StreamRequest) (chunks : List ProviderStreamChunk) (trace : ChatTrace) : Prop where
  | unfinished (n : ℕ) (shown : Forwarded q chunks n trace)
  | failed (n : ℕ) {before message errorType code requestId} (shown : Forwarded q chunks n before)
      (ends : trace = before ++ [.sent (.error message errorType code requestId)])
  | done {before raw c usageLedgerId} (shown : Forwarded q chunks (forwardable chunks).length before)
      (ends : trace = before ++ [.sent (.done raw)]) (event : lastDone chunks = some raw)
      (usage : lastUsage chunks = some c) (charged : .committed (.finalize c usageLedgerId) true ∈ before)

/-- The loop has consumed `seen` and the client saw all it may of it. -/
structure Consumed (q : StreamRequest) (seen : List ProviderStreamChunk) (v : ChatLocals) (trace : ChatTrace) :
    Prop where
  shown : Forwarded q seen (forwardable seen).length trace
  tokens : v.estimatedOutputTokens = observedTokens q (forwardable seen)
  usage : v.usageChunk = lastUsage seen
  event : v.doneEvent = lastDone seen
  completed : v.completed = v.doneEvent.isSome

section Loop
variable {q : StreamRequest} {chunks seen rest : List ProviderStreamChunk} {c : ProviderStreamChunk} {v : ChatLocals}
  {trace : ChatTrace}

theorem forwardableAppend : forwardable (seen ++ rest) = forwardable seen ++ forwardable rest := List.filter_append _ _

theorem lastUsageAppend : lastUsage (seen ++ [c]) = if c.usage.isSome then some c else lastUsage seen := by
  unfold lastUsage
  rw [List.filter_append]
  split <;> rename_i carries <;> simp [carries]

theorem lastDoneAppend : lastDone (seen ++ [c]) = if c.isDone then some c.rawSseEvent else lastDone seen := by
  unfold lastDone
  rw [List.filter_append]
  split <;> rename_i done <;> simp [done]

theorem forwardedAppend (shown : Forwarded q seen (forwardable seen).length trace) :
    Forwarded q (seen ++ rest) (forwardable seen).length trace := by
  obtain ⟨events,uncrossed⟩ := shown
  refine ⟨?_,fun k less => ?_⟩
  · simpa [forwardableAppend] using events
  · rw [forwardableAppend,List.take_append_of_le_length less]
    exact uncrossed k less

theorem forwardedSame {trace' : ChatTrace} {n} (shown : Forwarded q chunks n trace) (same : sent trace' = sent trace) :
    Forwarded q chunks n trace' := ⟨same.trans shown.1,shown.2⟩

theorem usageRemembered (before : v.usageChunk = lastUsage seen) :
    (v.remembering c).usageChunk = lastUsage (seen ++ [c]) := by
  rw [lastUsageAppend]
  unfold ChatLocals.remembering
  split
  · rfl
  · exact before

theorem rememberingRest : (v.remembering c).doneEvent = v.doneEvent ∧ (v.remembering c).completed = v.completed ∧
    (v.remembering c).estimatedOutputTokens = v.estimatedOutputTokens := by
  unfold ChatLocals.remembering
  split <;> exact ⟨rfl,rfl,rfl⟩

theorem consumedDone (before : Consumed q seen v trace) (done : c.isDone = true) {trace'}
    (same : sent trace' = sent trace) : Consumed q (seen ++ [c]) ((v.remembering c).finishing c) trace' := by
  have hidden : forwardable (seen ++ [c]) = forwardable seen := by simp [forwardable,done]
  refine ⟨?_,?_,usageRemembered before.usage,?_,rfl⟩
  · have more : Forwarded q (seen ++ [c]) (forwardable seen).length trace := forwardedAppend before.shown
    rw [hidden]
    exact forwardedSame more same
  · rw [hidden,← before.tokens]
    exact rememberingRest.2.2
  · rw [lastDoneAppend,if_pos done]
    rfl

/-- What the monitor counts when it sees one more forwardable chunk. -/
theorem observedNext (before : Consumed q seen v trace) (plain : c.isDone = false) :
    ((v.remembering c).observing q c).estimatedOutputTokens = observedTokens q (forwardable (seen ++ [c])) := by
  have shows : forwardable (seen ++ [c]) = forwardable seen ++ [c] := by simp [forwardable,plain]
  rw [shows]
  simp [ChatLocals.observing,rememberingRest.2.2,before.tokens,observedTokens]

theorem consumedChunk (before : Consumed q seen v trace) (plain : c.isDone = false)
    (passes : q.budget.check ((v.remembering c).observing q c).estimatedOutputTokens = none) {trace'}
    (more : sent trace' = sent trace ++ [forwardedEvent c]) :
    Consumed q (seen ++ [c]) ((v.remembering c).observing q c) trace' := by
  have shows : forwardable (seen ++ [c]) = forwardable seen ++ [c] := by simp [forwardable,plain]
  obtain ⟨events,uncrossed⟩ := before.shown
  rw [List.take_length] at events
  refine ⟨⟨?_,fun k less => ?_⟩,observedNext before plain,usageRemembered before.usage,?_,?_⟩
  · rw [List.take_length,shows,more,events,List.map_append,List.map_singleton]
  · by_cases last : k = (forwardable seen).length
    · have whole : (forwardable (seen ++ [c])).take (k + 1) = forwardable (seen ++ [c]) :=
        List.take_of_length_le (by rw [shows]; simp [last])
      rw [whole,← observedNext before plain]
      exact passes
    · have earlier : k < (forwardable seen).length := by
        rw [shows] at less
        simp only [List.length_append,List.length_singleton] at less
        omega
      rw [shows,List.take_append_of_le_length earlier]
      exact uncrossed k earlier
  · rw [lastDoneAppend,plain]
    exact rememberingRest.1.trans before.event
  · exact (rememberingRest.2.1.trans before.completed).trans (by rw [ChatLocals.observing,rememberingRest.1])
end Loop

abbrev ChatWorld := World ProviderStreamChunk Settlement

/-- An exception leaves the block: only a closed generator may have sent a last event before. -/
def Broken (q : StreamRequest) (chunks : List ProviderStreamChunk) (x : Raised) (w : ChatWorld) : Prop :=
  Told q chunks w.trace ∧ (x ≠ .generatorExit → ∃ n,Forwarded q chunks n w.trace)

section Telling
variable {q : StreamRequest} {chunks : List ProviderStreamChunk} {faults : Prop}
  {allowed : ChatWorld → (e : Effect ProviderStreamChunk Settlement) → Answer e → Prop} {v : ChatLocals} {w : ChatWorld}
  {n : ℕ}

theorem brokenOf {x : Raised} (shown : Forwarded q chunks n w.trace) : Broken q chunks x w :=
  ⟨.unfinished n shown,fun _ => ⟨n,shown⟩⟩

theorem brokenAfter {x : Raised} {t db'} (shown : Forwarded q chunks n w.trace) :
    Broken q chunks x (w.after q.ledgering t db') := brokenOf (forwardedSame shown sentAfter)

theorem closedTold {w : ChatWorld} (told : Told q chunks w.trace) : Broken q chunks .generatorExit w :=
  ⟨told,fun other => absurd rfl other⟩

theorem toldError {message errorType code requestId} (shown : Forwarded q chunks n w.trace) :
    Told q chunks (w.noting (.sent (.error message errorType code requestId))).trace := .failed n shown rfl

theorem yieldErrorTold {message errorType code requestId} (shown : Forwarded q chunks n w.trace) :
    (Events.yield (.error message errorType code requestId) : ChatEvents Unit).Ensures
      (Environment q.ledgering faults allowed) v w (fun _ _ w' => Told q chunks w'.trace)
      (fun x _ w' => Broken q chunks x w') :=
  ensuresYield (fun _ => toldError shown) fun _ => closedTold (toldError shown)

theorem transactShown {t : Settlement} {shielded : Bool} (shown : Forwarded q chunks n w.trace) :
    (Events.transact t shielded : ChatEvents Uuid).Ensures (Environment q.ledgering faults allowed) v w
      (fun _ v' w' => v' = v ∧ Forwarded q chunks n w'.trace) (fun x _ w' => Broken q chunks x w') :=
  ensuresTransact (fun _ _ _ _ => ⟨rfl,forwardedSame shown sentAfter⟩) (fun _ _ _ => brokenOf shown)
    (fun _ _ => brokenOf shown) fun _ _ _ _ _ => brokenAfter shown

theorem interruptionShown {diagnostic shielded : Bool} (shown : Forwarded q chunks n w.trace) :
    (settleInterruption diagnostic shielded).Ensures (Environment q.ledgering faults allowed) v w
      (fun _ _ w' => Forwarded q chunks n w'.trace) (fun x _ w' => Broken q chunks x w') := by
  simp only [settleInterruption,ensuresBind,ensuresLocals,ensuresIte,ensuresPure]
  constructor
  all_goals
    intro _
    exact (transactShown shown).mono (fun _ _ _ after => after.2) fun _ _ _ broken => broken

theorem consumeTold {ending : Option ProviderError} {rest seen : List ProviderStreamChunk} (split : chunks = seen ++ rest)
    (before : Consumed q seen v w.trace) :
    (consume q ending rest).Ensures (Environment q.ledgering faults allowed) v w
      (fun go v' w' => if go then Consumed q chunks v' w'.trace else Told q chunks w'.trace)
      (fun x _ w' => Broken q chunks x w') := by
  induction rest generalizing seen v w with
  | nil =>
    rw [List.append_nil] at split
    subst split
    have shown := before.shown
    cases ending with
    | none =>
      refine ensuresBind.mpr (ensuresPull (fun _ => ?_) fun _ => brokenOf shown)
      exact { before with shown := forwardedSame before.shown (by simp [Note.event?]) }
    | some e =>
      refine ensuresBind.mpr (ensuresPull (fun _ => ?_) fun _ => brokenOf shown)
      exact brokenOf (forwardedSame before.shown (by simp [Note.event?]))
  | cons c rest ih =>
    have shown : Forwarded q chunks _ w.trace := split ▸ forwardedAppend before.shown
    have next : chunks = seen ++ [c] ++ rest := by simp [split]
    unfold consume
    simp only [ensuresBind]
    refine ensuresPull (fun _ => ?_) fun _ => brokenOf shown
    simp only [ensuresUpdate,ensuresIte,ensuresBind,ensuresLocals]
    refine ⟨fun done => ih next (consumedDone before done (by simp [Note.event?])),fun plain => ?_⟩
    rw [Bool.not_eq_true] at plain
    have taken : Forwarded q chunks _ (w.noting (.took (.chunk c))).trace := forwardedSame shown (by simp [Note.event?])
    split
    · -- the cutoff is reached: settle by the estimate, report and stop
      simp only [ensuresBind]
      refine (transactShown taken).mono (fun _ _ w' after => ?_) fun _ _ _ broken => broken
      refine (yieldErrorTold after.2).mono (fun _ _ _ told => ?_) fun _ _ _ broken => broken
      exact told
    · rename_i passes
      have more : sent ((w.noting (.took (.chunk c))).noting (.sent (.forwarded c.rawSseEvent))).trace =
          sent w.trace ++ [forwardedEvent c] := by simp [Note.event?,forwardedEvent]
      have consumed := consumedChunk before plain passes more
      simp only [ensuresBind]
      refine ensuresYield (fun _ => ih next consumed) fun _ => ?_
      exact brokenOf (next ▸ forwardedAppend consumed.shown)

theorem finalizeShown {c : ProviderStreamChunk} {usageLedgerId : Uuid} (shown : Forwarded q chunks n w.trace) :
    (finalizeCompleted c usageLedgerId).Ensures (Environment q.ledgering faults allowed) v w
      (fun _ v' w' => v' = v ∧ Forwarded q chunks n w'.trace ∧ .committed (.finalize c usageLedgerId) true ∈ w'.trace)
      (fun x _ w' => Broken q chunks x w') := by
  simp only [finalizeCompleted,ensuresAttempt,ensuresBind,ensuresPure]
  refine ensuresTransact (fun _ db' ok _ => ⟨rfl,forwardedSame shown sentAfter,?_⟩) (fun e _ _ => ?_) (fun _ _ => ?_)
    fun _ _ _ _ _ => brokenAfter shown
  · have moved := finalizeSettles ok
    simp [World.after,StreamRequest.ledgering,moved]
  · simp only [ensuresIte,ensuresBind,ensuresThrow]
    refine ⟨fun _ => ?_,fun _ => brokenOf shown⟩
    exact (transactShown shown).mono (fun _ _ _ after => brokenOf after.2) fun _ _ _ broken => broken
  · exact brokenOf shown

theorem concludeTold (before : Consumed q chunks v w.trace) :
    (conclude q).Ensures (Environment q.ledgering faults allowed) v w (fun _ _ w' => Told q chunks w'.trace)
      (fun x _ w' => Broken q chunks x w') := by
  have shown := before.shown
  simp only [conclude,ensuresBind,ensuresLocals]
  split
  · rename_i c completed usage
    simp only [ensuresBind]
    refine (transactShown shown).mono (fun id _ w₁ recorded => ?_) fun _ _ _ broken => broken
    obtain ⟨rfl,recorded⟩ := recorded
    refine (finalizeShown recorded).mono (fun _ _ w₂ final => ?_) fun _ _ _ broken => broken
    obtain ⟨rfl,final,charged⟩ := final
    split
    · rename_i raw event
      have told : Told q chunks (w₂.noting (.sent (.done raw))).trace :=
        .done final rfl (before.event.symm.trans event) (before.usage.symm.trans usage) charged
      exact ensuresYield (fun _ => told) fun _ => closedTold told
    · exact .unfinished _ final
  · simp only [ensuresBind]
    refine (interruptionShown shown).mono (fun _ _ w' after => ?_) fun _ _ _ broken => broken
    exact yieldErrorTold after

theorem handleTold {x : Raised} (broken : Broken q chunks x w) :
    (handle x).Ensures (Environment q.ledgering faults allowed) v w (fun _ _ w' => Told q chunks w'.trace)
      (fun _ _ w' => Told q chunks w'.trace) := by
  obtain ⟨told,rest⟩ := broken
  cases x with
  | cancelledError =>
    obtain ⟨n,shown⟩ := rest (by simp)
    simp only [handle,ensuresBind,ensuresThrow]
    exact (interruptionShown shown).mono (fun _ _ _ after => .unfinished n after) fun _ _ _ broken => broken.1
  | provider e =>
    obtain ⟨n,shown⟩ := rest (by simp)
    simp only [handle,ensuresBind]
    refine (interruptionShown shown).mono (fun _ _ _ after => ?_) fun _ _ _ broken => broken.1
    exact (yieldErrorTold after).mono (fun _ _ _ told => told) fun _ _ _ broken => broken.1
  | service e =>
    obtain ⟨n,shown⟩ := rest (by simp)
    simp only [handle,ensuresIte,ensuresThrow]
    refine ⟨fun _ => ?_,fun _ => told⟩
    exact (yieldErrorTold shown).mono (fun _ _ _ told => told) fun _ _ _ broken => broken.1
  | generatorExit => exact told
  | openai => exact told
  | unexpected => exact told

/-- However the generator ends: the telling, then the clean-up. -/
theorem eventsTold {ending : Option ProviderError} (silent : sent w.trace = []) :
    (chatEvents q chunks ending).Ensures (Environment q.ledgering faults allowed) .start w
      (fun _ _ w' => ∃ told,Told q chunks told ∧ w'.trace = told ++ [.stoppedHeartbeat,.releasedConcurrency])
      (fun _ _ w' => ∃ told,Told q chunks told ∧ w'.trace = told ++ [.stoppedHeartbeat,.releasedConcurrency]) := by
  have start : Consumed q [] ChatLocals.start w.trace :=
    ⟨⟨by simpa [forwardable] using silent,fun k less => absurd less (Nat.not_lt_zero k)⟩,rfl,rfl,rfl,rfl⟩
  refine Ensures.finished (p := fun _ w' => Told q chunks w'.trace) ?_
    fun _ w' told => ensuresCleanUp ⟨w'.trace,told,by simp [World.noting]⟩
  refine Ensures.handled (ensuresBind.mpr ?_) fun x _ w' (broken : Broken q chunks x w') => handleTold broken
  have split : chunks = [] ++ chunks := rfl
  refine (consumeTold split start).mono (fun go _ _ consumed => ?_) fun _ _ _ broken => broken
  cases go with
  | false => exact consumed
  | true => exact concludeTold consumed
end Telling

/-- What may follow the forwarded events: nothing, one error, or the provider's done event behind the
committed finalization with the last usage. -/
def LastEvents (chunks : List ProviderStreamChunk) (trace : ChatTrace) : List StreamEvent → Prop
  | [] => True
  | [.error _ _ _ _] => True
  | [.done raw] => lastDone chunks = some raw ∧ ∃ c usageLedgerId before after,lastUsage chunks = some c ∧
      trace = before ++ .sent (.done raw) :: after ∧ .committed (.finalize c usageLedgerId) true ∈ before
  | _ => False

/-- The law of a chat stream's whole trace. -/
structure OrderlyTrace (q : StreamRequest) (chunks : List ProviderStreamChunk) (trace : ChatTrace) : Prop where
  events : ∃ n tail,sent trace = ((forwardable chunks).take n).map forwardedEvent ++ tail ∧ Uncrossed q chunks n ∧
    LastEvents chunks trace tail
  once : (settlements trace).length ≤ 1
  cleaned : ∃ before,trace = before ++ [.stoppedHeartbeat,.releasedConcurrency]

theorem toldEvents {q : StreamRequest} {chunks told} (h : Told q chunks told) {trace : ChatTrace}
    (ends : trace = told ++ [.stoppedHeartbeat,.releasedConcurrency]) :
    ∃ n tail,sent trace = ((forwardable chunks).take n).map forwardedEvent ++ tail ∧ Uncrossed q chunks n ∧
      LastEvents chunks trace tail := by
  have same : sent trace = sent told := by simp [ends,sent,Note.event?]
  rw [same]
  cases h with
  | unfinished n shown => exact ⟨n,[],by simpa using shown.1,shown.2,trivial⟩
  | @failed n before message errorType code requestId shown tail =>
    refine ⟨n,[.error message errorType code requestId],?_,shown.2,trivial⟩
    rw [tail,← shown.1]
    simp [sent,Note.event?]
  | @done before raw c usageLedgerId shown tail event usage charged =>
    refine ⟨_,[.done raw],?_,shown.2,event,c,usageLedgerId,before,[.stoppedHeartbeat,.releasedConcurrency],usage,?_,charged⟩
    · rw [tail,← shown.1]
      simp [sent,Note.event?]
    · rw [ends,tail,List.append_assoc]
      rfl

theorem chatStreamOrderly (q : StreamRequest) (chunks : List ProviderStreamChunk) (ending : Option ProviderError)
    (db : Db) {r v w} (run : (chatEvents q chunks ending).Ends (Environment q.ledgering True fun _ _ _ => True)
      .start ⟨db,[]⟩ r v w) : OrderlyTrace q chunks w.trace := by
  have started : OnceSettled q ⟨db,[]⟩ := ⟨Nat.zero_le _,fun any => absurd rfl any⟩
  have once := endsInvariant onceSettledStep run started
  have ended := ensuresRuns (q := fun _ _ w' => ∃ told,Told q chunks told ∧
    w'.trace = told ++ [.stoppedHeartbeat,.releasedConcurrency]) (eventsTold rfl) run
  obtain ⟨told,h,ends⟩ := ended
  exact ⟨toldEvents h ends,once.1,told,ends⟩

/-- Answers of a client that stays and of transactions that go through. -/
def Cooperates : (e : Effect ProviderStreamChunk Settlement) → Answer e → Prop
  | .pull _,.came => True
  | .send _,.resumed => True
  | .transact _ _,.committed _ => True
  | .stopHeartbeat,_ => True
  | .releaseConcurrency,_ => True
  | _,_ => False

theorem demoChatRun {faults : Prop} {allowed : ChatWorld → (e : Effect ProviderStreamChunk Settlement) → Answer e → Prop}
    (cooperative : ∀ w e a,Cooperates e a → allowed w e a) :
    ∃ r v w,(chatEvents demoStream [demoDelta,demoDone] none).Ends (Environment demoStream.ledgering faults allowed)
      .start ⟨demoStreamDb,[]⟩ r v w ∧ .sent (.done "data: [DONE]") ∈ w.trace := by
  obtain ⟨r,k,standing⟩ := demoAdmitted.standing
  have billed : demoStream.bill demoDelta = .ok ⟨20,20,40,2,2,true⟩ := by decide
  obtain ⟨id,db₁,recorded⟩ := (commitsOrRefuses demoStream.ledgering (.record demoDelta) demoStreamDb).resolve_right
    fun ⟨_,fails⟩ => recordAccepted standing demoAdmitted.rowless billed fails
  obtain ⟨standing₁,-,-,l,row,rfl,-⟩ := recordKeeps standing demoAdmitted.rowless recorded
  obtain ⟨_,db₂,finalized⟩ := (commitsOrRefuses demoStream.ledgering (.finalize demoDelta l.id) db₁).resolve_right
    fun ⟨_,fails⟩ => finalizeAccepted standing₁ billed row fails
  refine ⟨_,_,_,.ask ⟨.came _ _,cooperative _ _ _ trivial⟩ (.ask ⟨.resumed _ _,cooperative _ _ _ trivial⟩
    (.ask ⟨.came _ _,cooperative _ _ _ trivial⟩ (.ask ⟨.came _ _,cooperative _ _ _ trivial⟩
    (.ask ⟨.committed _ _ recorded,cooperative _ _ _ trivial⟩ (.ask ⟨.committed _ _ finalized,cooperative _ _ _ trivial⟩
    (.ask ⟨.resumed _ _,cooperative _ _ _ trivial⟩ (.ask ⟨.stopped _,cooperative _ _ _ trivial⟩
    (.ask ⟨.released _,cooperative _ _ _ trivial⟩ (.ret _ _))))))))),?_⟩
  simp [World.noting,World.after,demoDone]

theorem chatStreamOrderlyDemo : ∃ r v w,(chatEvents demoStream [demoDelta,demoDone] none).Ends
    (Environment demoStream.ledgering True fun _ _ _ => True) .start ⟨demoStreamDb,[]⟩ r v w ∧
      .sent (.done "data: [DONE]") ∈ w.trace ∧ OrderlyTrace demoStream [demoDelta,demoDone] w.trace := by
  obtain ⟨r,v,w,run,told⟩ := @demoChatRun True (fun _ _ _ => True) fun _ _ _ _ => trivial
  exact ⟨r,v,w,run,told,chatStreamOrderly demoStream [demoDelta,demoDone] none demoStreamDb run⟩
end SlaifGateway.Streaming
