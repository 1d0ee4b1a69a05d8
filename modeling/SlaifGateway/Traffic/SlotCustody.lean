import SlaifGateway.Traffic.LazyThrottling

/-! Who owns the concurrency slot along a bounded wait. A slot is committed only inside a
reservation attempt; every later exit hands it to the caller or tries to release it, except
where an applied reservation's reply is lost in fail-closed mode, and where the probe after an
admission meets the exhausted budget or raises. -/
namespace SlaifGateway.Traffic
open Library Store Generator

def Custodial (c : LazyWait) (allowed : Custody → (e : WaitEffect) → WaitAnswer e → Custody → Prop) (w : Custody)
    (e : WaitEffect) (a : WaitAnswer e) (w' : Custody) : Prop :=
  Responds c w e a w' ∧ allowed w e a w'

-- The three answers that strand a slot do not come.
def Unstranded (c : LazyWait) (w : Custody) : (e : WaitEffect) → WaitAnswer e → Custody → Prop
  | .checkAndReserve _,.raised _,w' => c.limiterFailClosed = true → w'.owed = w.owed
  | .remainingBudget deadline,now,_ => w.owed.isSome → LT.lt (α := Int) now deadline
  | .isDisconnected,.timedOut,_ | .isDisconnected,.raised _,_ => w.owed = none
  | _,_,_ => True

structure Settled (r : Except WaitError LazyAdmissionResult) (w : Custody) : Prop where
  leaseReleased : w.leaseOwed = false
  handedOver : ∀ result,r = .ok result → w.slot = w.owed
  released : ∀ x,r = .error x → w.owed = none ∧ (w.lost = false → w.slot = none)

namespace Custody

def Idle (w : Custody) : Prop := w.owed = none ∧ w.slot = none

def Clear (w : Custody) : Prop := w.owed = none ∧ (w.lost = false → w.slot = none)

def Held (c : LazyWait) (w : Custody) : Prop :=
  w.owed = some c.initialContext.gatewayKeyId ∧ w.slot = some c.initialContext.gatewayKeyId ∧ c.requestId ≠ ""

def Owned (c : LazyWait) (w : Custody) : Prop := w.Idle ∨ w.Held c

variable {c : LazyWait} {w : Custody}

theorem Idle.clear (idle : w.Idle) : w.Clear := ⟨idle.1,fun _ => idle.2⟩

theorem Owned.custody (owned : w.Owned c) : w.Clear ∨ w.Held c := owned.imp_left Idle.clear

theorem Owned.idle (owned : w.Owned c) (free : w.owed = none) : w.Idle := by
  rcases owned with idle | held
  · exact idle
  · rw [held.1] at free
    cases free

theorem releasingClear {key : Uuid} {applied : Bool} (clear : w.Clear) : (w.releasing key applied).Clear := by
  obtain ⟨owed,gone⟩ := clear
  refine ⟨by simp [releasing,owed],fun kept => ?_⟩
  have unlost : w.lost = false := by
    simp only [releasing,Bool.or_eq_false_iff] at kept
    exact kept.1
  simp [releasing,gone unlost]

theorem Held.releasing {applied : Bool} (held : w.Held c) :
    (w.releasing c.initialContext.gatewayKeyId applied).Clear := by
  obtain ⟨owed,slot,-⟩ := held
  refine ⟨by simp [Custody.releasing,owed],fun kept => ?_⟩
  cases applied with
  | false => simp [Custody.releasing,slot] at kept
  | true => simp [Custody.releasing,slot]

theorem reservingIdle {id : String} {key : Uuid} {before after : Limiter} (idle : w.Idle)
    (kept : (w.reserving id key before after).owed = w.owed) : (w.reserving id key before after).Idle := by
  unfold reserving at kept ⊢
  split at kept
  · rw [idle.1] at kept
    cases kept
  · rename_i same
    rw [if_neg same]
    exact idle
end Custody

-- A denial adds no slot.
theorem denialHolds {p : RateLimitPolicy} {s : Limiter} {now : Nat} {id : String} {tokens : Int}
    (denied : (checkAndReserve p s now id tokens).1.isOk = false)
    (holds : (checkAndReserve p s now id tokens).2.holds id = true) : s.holds id = true := by
  rcases reserveCases p s now id tokens with ⟨-,same | purged⟩ | ⟨ok,-⟩
  · rwa [same] at holds
  · rw [purged] at holds
    obtain ⟨slot,mem,own⟩ := List.any_eq_true.mp holds
    exact List.any_eq_true.mpr ⟨slot,(afterPurgeSublist p s now).subset mem,own⟩
  · rw [ok] at denied
    cases denied

section Reservation
variable {c : LazyWait} {w : Custody} {context : LazyAdmissionContext} {s : Limiter} {now : Nat}

theorem reservingCases (idle : w.Idle) (same : context.gatewayKeyId = c.initialContext.gatewayKeyId) :
    let reserved := checkAndReserve context.limiterPolicy s now c.requestId context.estimatedTokens
    let w' := w.reserving c.requestId context.gatewayKeyId s reserved.2
    w'.Idle ∨ w'.Held c ∧ reserved.1.isOk = true := by
  intro reserved w'
  by_cases added : (reserved.2.holds c.requestId && !s.holds c.requestId) = true
  · have isNew : w' = { w with slot := some context.gatewayKeyId,owed := some context.gatewayKeyId } := if_pos added
    simp only [Bool.and_eq_true,Bool.not_eq_true'] at added
    have ok : reserved.1.isOk = true := by
      by_contra denied
      have held := denialHolds (by simpa using denied) added.1
      rw [held] at added
      cases added.2
    refine .inr ⟨⟨by rw [isNew,same],by rw [isNew,same],fun empty => ?_⟩,ok⟩
    have refused : reserved.1.isOk = false := by
      simp [reserved,checkAndReserve,validateInputs,empty,Except.isOk,Except.toBool]
    rw [refused] at ok
    cases ok
  · have unchanged : w' = w := if_neg added
    exact .inl (unchanged ▸ idle)
end Reservation

section Specifications
variable {α : Type} {c : LazyWait} {w : Custody} {v : Option LazyThrottlingWaitOutcome} {deadline : Int}

-- What every exit but a normal return leaves.
abbrev Leaves (g : Waiting α) (c : LazyWait) (v : Option LazyThrottlingWaitOutcome) (w : Custody)
    (ok : α → Custody → Prop) (err : WaitError → Custody → Prop) : Prop :=
  g.Ensures (Custodial c (Unstranded c)) v w (fun a _ => ok a) fun x _ => err x

theorem outcomeLeaves {o : LazyThrottlingWaitOutcome} {x : WaitError} {ok : α → Custody → Prop}
    {err : WaitError → Custody → Prop} (holds : err x w) : Leaves (outcome o x : Waiting α) c v w ok err := by
  simpa only [outcome,Leaves,ensuresBind,ensuresUpdate,ensuresThrow] using holds

theorem releaseLeaves (custody : w.Clear ∨ w.Held c) :
    Leaves (releaseAdmittedSlotQuietly c) c v w (fun _ w' => w'.Clear ∧ w'.leaseOwed = w.leaseOwed)
      fun _ w' => w'.Clear ∧ w'.leaseOwed = w.leaseOwed := by
  simp only [Leaves,releaseAdmittedSlotQuietly,bookkeeping,releaseAdmittedSlot,ensuresBind]
  refine ensuresIte.mpr ⟨fun empty => ?_,fun _ => ?_⟩
  · rcases custody with clear | held
    · exact ⟨clear,rfl⟩
    · exact absurd empty held.2.2
  · rintro a w' ⟨responds,-⟩
    have clear : w'.Clear ∧ w'.leaseOwed = w.leaseOwed := by
      cases responds with
      | released => exact ⟨custody.elim Custody.releasingClear Custody.Held.releasing,rfl⟩
      | releaseInterrupted => exact ⟨custody.elim Custody.releasingClear Custody.Held.releasing,rfl⟩
    cases a <;> exact clear

def Awaited.Leads (ok : α → Custody → Prop) (err : WaitError → Custody → Prop) : Awaited α → Custody → Prop
  | .returned a,w => ok a w
  | .raised x,w => err x w
  | .cancelled,w => err .cancelledError w
  | .timedOut,w => err .waitBudgetExhausted w

-- `owned` is the part of the custody that a reading of the clock keeps.
theorem withinBudgetLeaves {step : Waiting (Awaited α)} {owned : Custody → Prop} {ok : α → Custody → Prop}
    {err : WaitError → Custody → Prop} (holds : owned w) (timeless : ∀ w t,owned w → owned { w with now := t })
    (exhausted : ∀ w',owned w' → w'.owed = none → err .waitBudgetExhausted w')
    (steps : ∀ w',owned w' → Leaves step c v w' (Awaited.Leads ok err) err) :
    Leaves (withinBudget deadline step) c v w ok err := by
  refine ensuresBind.mpr ?_
  rintro now w' ⟨responds,inTime⟩
  cases responds with
  | budget _ later =>
    refine ensuresIte.mpr ⟨fun late => ?_,fun _ => ?_⟩
    · refine exhausted _ (timeless w now holds) (Option.not_isSome_iff_eq_none.mp fun owes => ?_)
      exact absurd (inTime owes) (not_lt.mpr late)
    · refine ensuresBind.mpr ((steps _ (timeless w now holds)).mono (fun a v' w'' leads => ?_) fun _ _ _ h => h)
      cases a <;> exact leads

theorem clientGoneLeaves {owned : Custody → Prop} (holds : owned w)
    (timeless : ∀ w t,owned w → owned { w with now := t }) (owns : ∀ w,owned w → w.Owned c) :
    Leaves (clientGone deadline) c v w (fun _ => owned) fun x w' => w'.Idle ∨ owned w' ∧ x = .cancelledError := by
  have probed : Leaves (withinBudget deadline (awaiting .isDisconnected)) c v w (fun _ => owned)
      fun x w' => w'.Idle ∨ owned w' ∧ x = .cancelledError := by
    refine withinBudgetLeaves holds timeless (fun w' kept free => .inl ((owns w' kept).idle free)) fun w' kept => ?_
    rintro a w'' ⟨responds,quiet⟩
    cases responds
    cases a with
    | returned gone => exact kept
    | cancelled => exact .inr ⟨kept,rfl⟩
    | raised x => exact .inl ((owns w' kept).idle quiet)
    | timedOut => exact .inl ((owns w' kept).idle quiet)
  refine probed.handled fun x v' w' left => ?_
  cases x with
  | waitBudgetExhausted =>
    refine outcomeLeaves (.inl ?_)
    rcases left with idle | ⟨-,other⟩
    · exact idle
    · cases other
  | _ => exact left

theorem beforeDeadlineLeaves (idle : w.Idle) :
    Leaves (beforeDeadline deadline) c v w (fun _ => Custody.Idle) fun _ => Custody.Idle := by
  refine ensuresBind.mpr ?_
  rintro now w' ⟨responds,-⟩
  cases responds with
  | clock later => exact ensuresIte.mpr ⟨fun _ => outcomeLeaves idle,fun _ => idle⟩

theorem acquiredLeaves (idle : w.Idle) :
    Leaves (acquired c deadline) c v w (fun _ => Custody.Idle) fun _ => Custody.Idle := by
  have leased : Leaves (withinBudget deadline (acquireWaitingLease c)) c v w (fun _ => Custody.Idle)
      fun _ => Custody.Idle := by
    refine withinBudgetLeaves idle (fun _ _ => id) (fun _ kept _ => kept) fun w' kept => ?_
    refine ensuresBind.mpr ?_
    rintro a w'' ⟨responds,-⟩
    have same : w''.Idle := by cases responds <;> exact kept
    cases a with
    | raised x => exact ensuresIte.mpr ⟨fun _ => same,fun _ => same⟩
    | _ => exact same
  refine leased.handled fun x v' w' left => ?_
  cases x with
  | waitBudgetExhausted => exact outcomeLeaves left
  | _ => exact left

theorem revalidatedLeaves {context : LazyAdmissionContext} (idle : w.Idle) :
    Leaves (revalidated deadline context) c v w
      (fun next w' => w'.Idle ∧ next.gatewayKeyId = context.gatewayKeyId) fun _ => Custody.Idle := by
  have renewed : Leaves (withinBudget deadline (awaiting (.revalidate context))) c v w
      (fun next w' => w'.Idle ∧ next.gatewayKeyId = context.gatewayKeyId) fun _ => Custody.Idle := by
    refine withinBudgetLeaves idle (fun _ _ => id) (fun _ kept _ => kept) fun w' kept => ?_
    rintro a w'' ⟨responds,-⟩
    cases responds with
    | revalidated same => exact ⟨kept,same⟩
    | revalidationInterrupted _ cut =>
      cases a with
      | returned next => cases cut
      | _ => exact kept
  refine renewed.handled fun x v' w' left => ?_
  cases x with
  | waitBudgetExhausted => exact outcomeLeaves left
  | cancelledError => exact left
  | _ => exact ensuresIte.mpr ⟨fun _ => left,fun _ => outcomeLeaves left⟩

theorem mayFitLeaves {context : LazyAdmissionContext} (idle : w.Idle) :
    Leaves (mayFit context) c v w (fun _ => Custody.Idle) fun _ => Custody.Idle :=
  ensuresIte.mpr ⟨fun _ => outcomeLeaves idle,fun _ => idle⟩

-- A denial or a refusal leaves nothing; whatever else may have committed.
theorem reserveLeaves {context : LazyAdmissionContext} (idle : w.Idle)
    (same : context.gatewayKeyId = c.initialContext.gatewayKeyId) :
    Leaves (withinBudget deadline (reserveCapacity c context)) c v w (fun _ => Custody.Owned c)
      fun x w' => w'.Idle ∨ w'.Owned c ∧ (x = .waitBudgetExhausted ∨ x = .cancelledError) := by
  refine withinBudgetLeaves idle (fun _ _ => id) (fun _ kept _ => .inl kept) fun w' kept => ?_
  refine ensuresBind.mpr ?_
  rintro a w'' ⟨responds,quiet⟩
  have owned : w''.Owned c := by
    cases responds with
    | reserved s now => exact (reservingCases kept same).imp_right And.left
    | reserveInterrupted s now => exact (reservingCases kept same).imp_right And.left
    | reserveMissed => exact .inl kept
  cases a with
  | returned result =>
    cases result with
    | ok r => exact owned
    | error e =>
      refine .inl ?_
      generalize given : Awaited.returned (Except.error e) = a at responds
      cases responds with
      | reserved =>
        rcases reservingCases kept same with idle | ⟨-,ok⟩
        · exact idle
        · rw [← Awaited.returned.inj given] at ok
          cases ok
      | reserveInterrupted _ _ _ cut =>
        rw [← given] at cut
        cases cut
      | reserveMissed => exact kept
  | raised x =>
    refine ensuresIte.mpr ⟨fun closed => .inl ?_,fun _ => owned⟩
    exact owned.idle ((quiet closed).trans kept.1)
  | cancelled => exact .inr ⟨owned,.inr rfl⟩
  | timedOut => exact .inr ⟨owned,.inl rfl⟩

theorem releasedLeaves {g : Waiting α} {ok : α → Custody → Prop} {err : WaitError → Custody → Prop}
    (owned : w.Owned c) (after : ∀ v' w',w'.Clear → Leaves g c v' w' ok err) (cut : ∀ w',w'.Clear → ∀ x,err x w') :
    Leaves (releaseAdmittedSlotQuietly c >>= fun _ => g) c v w ok err := by
  refine ensuresBind.mpr ((releaseLeaves owned.custody).mono ?_ ?_)
  · exact fun _ v' w' clear => after v' w' clear.1
  · exact fun x _ w' clear => cut w' clear.1 x

theorem tryReserveLeaves {context : LazyAdmissionContext} (idle : w.Idle)
    (same : context.gatewayKeyId = c.initialContext.gatewayKeyId) :
    Leaves (tryReserve c deadline context) c v w
      (fun granted w' => if granted.isSome then w'.Owned c else w'.Idle) fun _ => Custody.Clear := by
  have reserved : Leaves (withinBudget deadline (reserveCapacity c context) >>= fun granted => pure (some granted)) c v w
      (fun granted w' => if granted.isSome then w'.Owned c else w'.Idle)
      fun x w' => w'.Idle ∨ w'.Owned c ∧ (x = .waitBudgetExhausted ∨ x = .cancelledError) :=
    ensuresBind.mpr (reserveLeaves idle same)
  refine reserved.handled fun x v' w' left => ?_
  have owned : w'.Owned c := left.elim .inl And.left
  have clear (other : x ≠ .waitBudgetExhausted ∧ x ≠ .cancelledError) : w'.Idle := by
    rcases left with idle | ⟨-,expired | cancelled⟩
    · exact idle
    · exact absurd expired other.1
    · exact absurd cancelled other.2
  cases x with
  | waitBudgetExhausted => exact releasedLeaves owned (fun _ _ clear => outcomeLeaves clear) fun _ clear _ => clear
  | cancelledError => exact releasedLeaves owned (fun _ _ clear => clear) fun _ clear _ => clear
  | limiter e =>
    have idle := clear ⟨nofun,nofun⟩
    cases e <;> first | exact idle | exact idle.clear
  | _ => exact (clear ⟨nofun,nofun⟩).clear

theorem afterAdmissionLeaves (owned : w.Owned c) :
    Leaves (afterAdmission c deadline) c v w (fun _ => Custody.Owned c) fun _ => Custody.Clear := by
  have seen : Leaves (do
      let gone ← clientGone deadline
      let now ← monotonic
      pure (gone,decide (deadline ≤ now))) c v w (fun _ => Custody.Owned c)
      fun x w' => w'.Idle ∨ w'.Owned c ∧ x = .cancelledError := by
    refine ensuresBind.mpr ((clientGoneLeaves owned (fun _ _ => id) fun _ => id).mono ?_ fun _ _ _ left => left)
    rintro gone v' w' owned now w'' ⟨responds,-⟩
    cases responds
    exact owned
  refine seen.handled fun x v' w' left => ?_
  cases x with
  | cancelledError => exact releasedLeaves (left.elim .inl And.left) (fun _ _ clear => clear) fun _ clear _ => clear
  | _ => exact (left.resolve_right fun h => nomatch h.2).clear

theorem honourLeaves {context : LazyAdmissionContext} {granted : Granted} (owned : w.Owned c) :
    Leaves (honour c deadline context granted) c v w (fun _ => Custody.Owned c) fun _ => Custody.Clear := by
  refine ensuresBind.mpr ((afterAdmissionLeaves owned).mono ?_ fun _ _ _ clear => clear)
  rintro ⟨gone,past⟩ v' w' owned
  refine ensuresIte.mpr ⟨fun _ => ?_,fun _ => ensuresIte.mpr ⟨fun _ => ?_,fun _ => owned⟩⟩
  · exact releasedLeaves owned (fun _ _ clear => outcomeLeaves clear) fun _ clear _ => clear
  · exact releasedLeaves owned (fun _ _ clear => outcomeLeaves clear) fun _ clear _ => clear

theorem pauseLeaves {delay : Int} (idle : w.Idle) :
    Leaves (pause deadline delay) c v w (fun _ => Custody.Idle) fun _ => Custody.Clear := by
  refine ensuresBind.mpr ?_
  rintro now w' ⟨read,-⟩ a w'' ⟨slept,-⟩
  cases read
  cases slept with
  | slept => exact idle
  | sleepCancelled => exact idle.clear

-- By induction on the rounds: each one starts and, unless it exits, ends with no slot of this call.
theorem roundsLeave {rounds : Nat} {context : LazyAdmissionContext} {delay : Int} (idle : w.Idle)
    (same : context.gatewayKeyId = c.initialContext.gatewayKeyId) :
    Leaves (waitRounds c deadline rounds context delay) c v w (fun _ => Custody.Owned c) fun _ => Custody.Clear := by
  induction rounds generalizing v w context delay with
  | zero => exact fun never => nomatch never
  | succ rounds ih =>
    refine ensuresBind.mpr ((clientGoneLeaves idle (fun _ _ => id) fun _ => .inl).mono ?_ ?_)
    · rintro gone v₁ w₁ idle
      refine ensuresIte.mpr ⟨fun _ => outcomeLeaves idle.clear,fun _ => ?_⟩
      refine ensuresBind.mpr ((beforeDeadlineLeaves idle).mono ?_ fun _ _ _ idle => idle.clear)
      rintro _ v₂ w₂ idle
      refine ensuresBind.mpr ((revalidatedLeaves idle).mono ?_ fun _ _ _ idle => idle.clear)
      rintro next v₃ w₃ ⟨idle,kept⟩
      refine ensuresBind.mpr ((beforeDeadlineLeaves idle).mono ?_ fun _ _ _ idle => idle.clear)
      rintro _ v₄ w₄ idle
      refine ensuresBind.mpr ((mayFitLeaves idle).mono ?_ fun _ _ _ idle => idle.clear)
      rintro _ v₅ w₅ idle
      refine ensuresBind.mpr ((tryReserveLeaves idle (kept.trans same)).mono ?_ fun _ _ _ clear => clear)
      rintro granted v₆ w₆ left
      cases granted with
      | some granted => exact honourLeaves left
      | none =>
        refine ensuresBind.mpr ((pauseLeaves left).mono ?_ fun _ _ _ clear => clear)
        exact fun _ v₇ w₇ idle => ih idle (kept.trans same)
    · rintro x v₁ w₁ (idle | ⟨idle,-⟩)
      · exact idle.clear
      · exact idle.clear

theorem admittedLeaves {rounds : Nat} (idle : w.Idle) :
    Leaves (admitted c deadline rounds) c v w (fun _ => Custody.Owned c) fun _ => Custody.Clear := by
  have body : Leaves (do
      if ← acquired c deadline then waitRounds c deadline rounds c.initialContext 100000000
      else outcome .capacityFull .lazyThrottlingWaitingCapacityFull) c v w (fun _ => Custody.Owned c)
      fun _ => Custody.Clear := by
    refine ensuresBind.mpr ((acquiredLeaves idle).mono ?_ fun _ _ _ idle => idle.clear)
    rintro granted v' w' idle
    exact ensuresIte.mpr ⟨fun _ => roundsLeave idle rfl,fun _ => outcomeLeaves idle.clear⟩
  refine body.handled fun x v' w' clear => ?_
  cases x with
  | cancelledError => exact outcomeLeaves clear
  | _ => exact clear

-- The last block: a cancellation here takes the slot back.
theorem leaseLeaves {kept : Custody → Prop} (holds : kept w) (unleased : ∀ w,kept w → kept { w with leaseOwed := false })
    (custody : ∀ w,kept w → w.Clear ∨ w.Held c) :
    Leaves (releaseWaitingLease c) c v w (fun _ w' => kept w' ∧ w'.leaseOwed = false)
      fun _ w' => w'.Clear ∧ w'.leaseOwed = false := by
  have attempted : Leaves (bookkeeping (awaiting (.releaseWaitingLease c.initialContext.gatewayKeyId))) c v w
      (fun _ w' => kept w' ∧ w'.leaseOwed = false) fun x w' => (kept w' ∧ w'.leaseOwed = false) ∧ x = .cancelledError := by
    refine ensuresBind.mpr ?_
    rintro a w' ⟨responds,-⟩
    cases responds
    cases a with
    | cancelled => exact ⟨⟨unleased w holds,rfl⟩,rfl⟩
    | _ => exact ⟨unleased w holds,rfl⟩
  refine attempted.handled fun x v' w' left => ?_
  obtain ⟨⟨holds,free⟩,rfl⟩ := left
  refine ensuresBind.mpr (ensuresBind.mpr ?_)
  refine (releaseLeaves (custody w' holds)).mono ?_ ?_
  · exact fun _ _ _ clear => ⟨clear.1,clear.2.trans free⟩
  · exact fun _ _ _ clear => ⟨clear.1,clear.2.trans free⟩

theorem waitLeaves {rounds : Nat} (idle : w.Idle) (free : w.leaseOwed = false) :
    Leaves (waitForRateLimitAdmission c rounds) c v w (fun _ w' => w'.Owned c ∧ w'.leaseOwed = false)
      fun _ w' => w'.Clear ∧ w'.leaseOwed = false := by
  refine ensuresBind.mpr ?_
  rintro start w' ⟨responds,-⟩
  cases responds
  have timed : Custody.Idle { w with now := start } := idle
  refine ensuresIte.mpr ⟨fun _ => ⟨timed.clear,free⟩,fun _ => ensuresLastly.mpr ((admittedLeaves timed).mono ?_ ?_)⟩
  · intro result v' w' owned
    exact leaseLeaves owned (fun _ => id) fun _ => Custody.Owned.custody
  · intro x v' w' clear
    exact (leaseLeaves clear (fun _ => id) fun _ => .inl).mono (fun _ _ _ h => h) fun _ _ _ h => h
end Specifications

theorem slotNeverLeaks (c : LazyWait) (rounds : Nat) (now : Int) {r v w}
    (run : (waitForRateLimitAdmission c rounds).Ends (Custodial c (Unstranded c)) none (.start now) r v w) :
    Settled r w := by
  have left := ensuresRuns (q := fun r _ w => (match r with
    | .ok _ => w.Owned c
    | .error _ => w.Clear) ∧ w.leaseOwed = false) (waitLeaves ⟨rfl,rfl⟩ rfl) run
  obtain ⟨custody,lease⟩ := left
  refine ⟨lease,fun result returned => ?_,fun x raised => ?_⟩
  · subst returned
    rcases custody with idle | held
    · exact idle.2.trans idle.1.symm
    · exact held.2.1.trans held.1.symm
  · subst raised
    exact custody

def demoWaitPolicy : RateLimitPolicy where
  requestsPerMinute := none
  tokensPerMinute := none
  concurrentRequests := some 1
  windowSeconds := 60
  concurrencyTtlSeconds := none
  concurrencyHeartbeatSeconds := none
  concurrencyTtlGraceSeconds := none
  limitsPositive := by decide
  windowPositive := by decide
  timingPositive := by decide

def demoWait : LazyWait where
  initialContext := ⟨1,demoWaitPolicy,10⟩
  estimatedTokens := 10
  maxWaitSeconds := 1
  maxWaitingRequests := 5
  maxWaitingTotal := 50
  leaseTtlSeconds := 60
  requestId := "req_1"
  limiterFailClosed := true
  admissionFailClosed := true

theorem demoAdmission : ∃ r v w,
    (waitForRateLimitAdmission demoWait 1).Ends (Custodial demoWait (Unstranded demoWait)) none (.start 0) r v w ∧
      w.slot = some 1 := by
  exact ⟨_,_,_,.ask ⟨.clock (t := 0) (by decide),trivial⟩ (.ask ⟨.budget (t := 0) _ (by decide),nofun⟩
    (.ask ⟨.leased _ _ _ true,trivial⟩ (.ask ⟨.budget (t := 0) _ (by decide),nofun⟩
    (.ask ⟨.probed _ (.returned false),trivial⟩ (.ask ⟨.clock (t := 0) (by decide),trivial⟩
    (.ask ⟨.budget (t := 0) _ (by decide),nofun⟩ (.ask ⟨.revalidated _ rfl,trivial⟩
    (.ask ⟨.clock (t := 0) (by decide),trivial⟩ (.ask ⟨.budget (t := 0) _ (by decide),nofun⟩
    (.ask ⟨.reserved _ _ .empty 0,trivial⟩ (.ask ⟨.budget (t := 0) _ (by decide),fun _ => by decide⟩
    (.ask ⟨.probed _ (.returned false),trivial⟩ (.ask ⟨.clock (t := 0) (by decide),trivial⟩
    (.ask ⟨.leaseReleased _ _ (.returned ()),trivial⟩ (.ret _ _))))))))))))))),rfl⟩

theorem slotNeverLeaksDemo : ∃ r v w,
    (waitForRateLimitAdmission demoWait 1).Ends (Custodial demoWait (Unstranded demoWait)) none (.start 0) r v w ∧
      w.slot = some 1 ∧ Settled r w := by
  obtain ⟨r,v,w,run,held⟩ := demoAdmission
  exact ⟨r,v,w,run,held,slotNeverLeaks demoWait 1 0 run⟩

-- The reservation comes through just before the deadline and the budget is read just after it.
theorem strandedSlot : ∃ r v w,
    (waitForRateLimitAdmission demoWait 1).Ends (Custodial demoWait fun _ _ _ _ => True) none (.start 0) r v w ∧
      r = .error .lazyThrottlingDeadlineExceeded ∧ w.owed = some 1 ∧ ¬Settled r w := by
  refine ⟨_,_,_,.ask ⟨.clock (t := 0) (by decide),trivial⟩ (.ask ⟨.budget (t := 0) _ (by decide),trivial⟩
    (.ask ⟨.leased _ _ _ true,trivial⟩ (.ask ⟨.budget (t := 0) _ (by decide),trivial⟩
    (.ask ⟨.probed _ (.returned false),trivial⟩ (.ask ⟨.clock (t := 0) (by decide),trivial⟩
    (.ask ⟨.budget (t := 0) _ (by decide),trivial⟩ (.ask ⟨.revalidated _ rfl,trivial⟩
    (.ask ⟨.clock (t := 0) (by decide),trivial⟩ (.ask ⟨.budget (t := 0) _ (by decide),trivial⟩
    (.ask ⟨.reserved _ _ .empty 0,trivial⟩ (.ask ⟨.budget (t := 1000000000) _ (by decide),trivial⟩
    (.ask ⟨.leaseReleased _ _ (.returned ()),trivial⟩ (.ret _ _))))))))))))),rfl,rfl,fun settled => ?_⟩
  cases (settled.released _ rfl).1
end SlaifGateway.Traffic
