import SlaifGateway.Capture.CaptureRuns

/-! What the sessions of the capture store grant: as many claims as they were armed for and none more, whatever the
operator and the observers do in between, and none at all once a session is stopped, expired or exhausted. -/
namespace SlaifGateway.CaptureStore
open Library

section Claims
variable (c : CaptureFacilityConfig) {size : Manifest → ℕ}

-- The session whose claim a step granted.
def granted (t : Commit World Op) : Option Text :=
  match t.op with
  | .claim _ _ _ => t.after.holders.head?
  | _ => none

-- The session that a step armed, with the claims asked for.
def armed (t : Commit World Op) : Option (Text × ℤ) :=
  match t.op with
  | .arm sessionId _ _ count _ _ => some (sessionId,count.getD c.defaultCount)
  | _ => none

def grants (id : Text) (log : List (Commit World Op)) : ℕ := (log.filterMap granted).count id

def arms (log : List (Commit World Op)) : List (Text × ℤ) := log.filterMap (armed c)

def Finished (id : Text) (w : World) : Prop :=
  id ∈ w.issued ∧ ∀ s ∈ sessions w, s.sessionId = id → s.status w.clock ≠ .active

structure Follows (t : Commit World Op) (s s' : CaptureSession) : Prop where
  id : s'.sessionId = s.sessionId
  count : s'.count = s.count
  expires : s'.expiresAt = s.expiresAt
  stopped : s.stopped = true → s'.stopped = true
  claimed : s'.claimed = s.claimed + if granted t = some s.sessionId then 1 else 0

-- Where the sessions of a step come from, and what a claim takes.
structure Steps (t : Commit World Op) : Prop where
  origin : ∀ s' ∈ sessions t.after, (∃ s ∈ sessions t.before, Follows t s s') ∨
    armed c t = some (s'.sessionId,s'.count) ∧ s'.claimed = 0
  active : ∀ id, granted t = some id → ∃ s ∈ sessions t.before, s.sessionId = id ∧ s.status t.after.clock = .active
  issued : ∀ id, id ∈ t.after.issued ↔ id ∈ t.before.issued ∨ ∃ n, armed c t = some (id,n)
  fresh : ∀ a, armed c t = some a → a.1 ∉ t.before.issued ∧ 1 ≤ a.2
  clock : t.before.clock ≤ t.after.clock

variable {c} {w w' : World} {op : Op}

theorem followsSame {t : Commit World Op} {s : CaptureSession} (silent : granted t = none) : Follows t s s :=
  ⟨rfl,rfl,rfl,id,by rw [silent]; simp⟩

-- A step that neither arms nor claims, and keeps what the sessions were asked for.
theorem quietSteps (unarmed : armed c ⟨w,op,w'⟩ = none) (silent : granted ⟨w,op,w'⟩ = none)
    (origin : ∀ s' ∈ sessions w', ∃ s ∈ sessions w, Follows ⟨w,op,w'⟩ s s') (issued : w'.issued = w.issued)
    (clock : w'.clock = w.clock) : Steps c ⟨w,op,w'⟩ where
  origin s' here := .inl (origin s' here)
  active id claimed := by rw [silent] at claimed; cases claimed
  issued id := by simp [issued,unarmed]
  fresh a asked := by rw [unarmed] at asked; cases asked
  clock := clock.ge

theorem nextSteps (inv : StoreInv c w) (timely : Timely w op) (ok : next c size w op = some w') : Steps c ⟨w,op,w'⟩ := by
  cases op with
  | arm sessionId endpoint keyUuid count ttl now =>
    delta next at ok
    dsimp only at ok
    split at ok
    · next s d done =>
      cases ok
      obtain ⟨kept,pruning,room,rfl,lifetime,lasting,rfl,valid,uuid,least,most⟩ := armOk done
      obtain ⟨drawn,fresh,later⟩ := timely
      refine ⟨fun s' here => ?_,(fun id claimed => by cases claimed),fun id => ?_,?_,later⟩
      · rcases List.mem_append.mp here with old | new
        · rw [pruning] at old
          exact .inl ⟨s',pruned.1.subset old,followsSame rfl⟩
        · cases List.mem_singleton.mp new
          exact .inr ⟨rfl,rfl⟩
      · simp [armed,eq_comm,or_comm]
      · rintro a ⟨⟩
        exact ⟨fresh,least⟩
    · cases ok
  | claim endpoint keyUuid now =>
    delta next at ok
    dsimp only at ok
    split at ok
    · next s' d done =>
      cases ok
      obtain ⟨before,s,after,whole,rfl,active,room,rfl⟩ := claimOk done
      have here : s ∈ sessions w := by
        rw [sessions,whole]
        exact List.mem_append_right _ List.mem_cons_self
      have distinct := inv.distinct
      rw [sessions,whole,List.map_append,List.map_cons,List.nodup_middle,List.nodup_cons,← List.map_append] at distinct
      have untouched : ∀ x ∈ before ++ after, x ∈ sessions w ∧ some s.sessionId ≠ some x.sessionId := by
        intro x inside
        refine ⟨?_,fun same => distinct.1 (List.mem_map.mpr ⟨x,inside,(Option.some.inj same).symm⟩)⟩
        rw [sessions,whole,List.mem_append,List.mem_cons]
        rcases List.mem_append.mp inside with left | right
        · exact .inl left
        · exact .inr (.inr right)
      refine ⟨fun x mem => .inl ?_,fun id claimed => ?_,(fun id => by simp [armed]),(fun a asked => by cases asked),timely⟩
      · rcases List.mem_append.mp mem with left | right
        · obtain ⟨old,other⟩ := untouched x (List.mem_append_left _ left)
          exact ⟨x,old,rfl,rfl,rfl,id,((congrArg _ (if_neg other)).trans (add_zero _)).symm⟩
        · rcases List.mem_cons.mp right with rfl | right
          · exact ⟨s,here,rfl,rfl,rfl,id,(congrArg (s.claimed + ·) (if_pos rfl)).symm⟩
          · obtain ⟨old,other⟩ := untouched x (List.mem_append_right _ right)
            exact ⟨x,old,rfl,rfl,rfl,id,((congrArg _ (if_neg other)).trans (add_zero _)).symm⟩
      · cases claimed
        exact ⟨s,here,rfl,active⟩
    · cases ok
  | publish sessionId requestId capture record =>
    delta next at ok
    dsimp only at ok
    split at ok
    · split at ok
      · next d written =>
        cases ok
        obtain ⟨m,admitted,done⟩ := okBind written
        cases done
        obtain ⟨before,s,after,reserve,whole,rfl,unpublished,reserved,fits,within,rfl⟩ := admitOk admitted
        refine quietSteps rfl rfl (fun x mem => ?_) rfl rfl
        rw [sessions,whole]
        rcases List.mem_append.mp mem with left | right
        · exact ⟨x,List.mem_append_left _ left,followsSame rfl⟩
        · rcases List.mem_cons.mp right with rfl | right
          · exact ⟨s,List.mem_append_right _ List.mem_cons_self,rfl,rfl,rfl,id,(add_zero _).symm⟩
          · exact ⟨x,List.mem_append_right _ (List.mem_cons_of_mem _ right),followsSame rfl⟩
      · cases ok
        exact quietSteps rfl rfl (fun x mem => ⟨x,mem,followsSame rfl⟩) rfl rfl
    · cases ok
  | interrupt sessionId requestId capture record left =>
    delta next at ok
    dsimp only at ok
    split at ok
    · split at ok
      · next m admitted =>
        cases ok
        obtain ⟨before,s,after,reserve,whole,rfl,unpublished,reserved,fits,within,rfl⟩ := admitOk admitted
        refine quietSteps rfl rfl (fun x mem => ?_) rfl rfl
        unfold sessions at mem
        dsimp only at mem
        split at mem
        · rw [sessions,whole]
          rcases List.mem_append.mp mem with left | right
          · exact ⟨x,List.mem_append_left _ left,followsSame rfl⟩
          · rcases List.mem_cons.mp right with rfl | right
            · exact ⟨s,List.mem_append_right _ List.mem_cons_self,rfl,rfl,rfl,id,(add_zero _).symm⟩
            · exact ⟨x,List.mem_append_right _ (List.mem_cons_of_mem _ right),followsSame rfl⟩
        · exact ⟨x,mem,followsSame rfl⟩
      · cases ok
    · cases ok
  | abandon sessionId =>
    delta next at ok
    dsimp only at ok
    split at ok
    · cases ok
      exact quietSteps rfl rfl (fun x mem => ⟨x,mem,followsSame rfl⟩) rfl rfl
    · cases ok
  | stop selected =>
    delta next at ok
    dsimp only at ok
    split at ok
    · next n d stopped =>
      cases ok
      refine quietSteps rfl rfl (fun x mem => ?_) rfl rfl
      rcases stopOk stopped with rfl | rfl
      · exact ⟨x,mem,followsSame rfl⟩
      · obtain ⟨s,old,rfl⟩ := List.mem_map.mp mem
        refine ⟨s,old,?_⟩
        unfold stopSelected
        split
        · exact ⟨rfl,rfl,rfl,fun _ => rfl,(add_zero _).symm⟩
        · exact followsSame rfl
    · cases ok
  | cleanup selected stuck =>
    delta next at ok
    dsimp only at ok
    split at ok
    · next n d cleaned =>
      cases ok
      refine quietSteps rfl rfl (fun x mem => ?_) rfl rfl
      have kept : x ∈ d.manifest.sessions := mem
      rw [(cleanupOk cleaned).1] at kept
      exact ⟨x,(List.mem_filter.mp kept).1,followsSame rfl⟩
    · cases ok

end Claims

section Bounds
variable {c : CaptureFacilityConfig} {size : Manifest → ℕ} {w w' : World} {op : Op} {log : List (Commit World Op)}

structure ClaimInv (c : CaptureFacilityConfig) (w : World) (log : List (Commit World Op)) : Prop where
  store : StoreInv c w
  live : ∀ s ∈ sessions w, (grants s.sessionId log : ℤ) = s.claimed ∧ (s.sessionId,s.count) ∈ arms c log
  bound : ∀ a ∈ arms c log, (grants a.1 log : ℤ) ≤ a.2
  once : ∀ a ∈ arms c log, ∀ b ∈ arms c log, a.1 = b.1 → a = b
  drawn : ∀ a ∈ arms c log, a.1 ∈ w.issued
  unissued : ∀ id, id ∉ w.issued → grants id log = 0

theorem grantsSnoc {id : Text} {t : Commit World Op} :
    grants id (log ++ [t]) = grants id log + if granted t = some id then 1 else 0 := by
  unfold grants
  rw [List.filterMap_append,List.count_append]
  cases given : granted t with
  | none => simp [given]
  | some own => simp [given,List.count_singleton]

theorem armsSnoc {t : Commit World Op} : arms c (log ++ [t]) = arms c log ++ (armed c t).toList := by
  unfold arms
  rw [List.filterMap_append]
  cases asked : armed c t <;> simp [asked]

theorem claimInvStep (counts : c.maxCount ≤ maxCountHard) (inv : ClaimInv c w log) (timely : Timely w op)
    (ok : next c size w op = some w') : ClaimInv c w' (log ++ [⟨w,op,w'⟩]) := by
  have steps := nextSteps inv.store timely ok
  have store := nextInv counts inv.store timely ok
  have listed : ∀ a, a ∈ arms c (log ++ [⟨w,op,w'⟩]) ↔ a ∈ arms c log ∨ armed c ⟨w,op,w'⟩ = some a := by
    intro a
    rw [armsSnoc,List.mem_append,Option.mem_toList]
  have live : ∀ s ∈ sessions w', (grants s.sessionId (log ++ [⟨w,op,w'⟩]) : ℤ) = s.claimed ∧
      (s.sessionId,s.count) ∈ arms c (log ++ [⟨w,op,w'⟩]) := by
    intro s' here
    rw [grantsSnoc,listed]
    rcases steps.origin s' here with ⟨s,old,follows⟩ | ⟨asked,none⟩
    · obtain ⟨same,known⟩ := inv.live s old
      rw [follows.id,follows.count,follows.claimed,← same]
      exact ⟨by push_cast; rfl,.inl known⟩
    · have fresh := (steps.fresh _ asked).1
      have silent : granted ⟨w,op,w'⟩ ≠ some s'.sessionId := by
        intro given
        obtain ⟨s,old,named,-⟩ := steps.active _ given
        exact fresh (named ▸ inv.store.named s old)
      rw [inv.unissued _ fresh,none,if_neg silent]
      exact ⟨rfl,.inr asked⟩
  have once : ∀ a ∈ arms c (log ++ [⟨w,op,w'⟩]), ∀ b ∈ arms c (log ++ [⟨w,op,w'⟩]), a.1 = b.1 → a = b := by
    intro a left b right same
    rcases (listed a).mp left with old | new <;> rcases (listed b).mp right with old' | new'
    · exact inv.once a old b old' same
    · exact absurd (same ▸ inv.drawn a old) (steps.fresh b new').1
    · exact absurd (same.symm ▸ inv.drawn b old') (steps.fresh a new).1
    · exact Option.some.inj (new.symm.trans new')
  refine ⟨store,live,fun a mem => ?_,once,fun a mem => ?_,fun id absent => ?_⟩
  · by_cases given : granted ⟨w,op,w'⟩ = some a.1
    · -- the session that granted is still there, below its count
      obtain ⟨s,old,named,active⟩ := steps.active _ given
      obtain ⟨same,known⟩ := inv.live s old
      have one : (s.sessionId,s.count) = a := once _ ((listed _).mpr (.inl known)) _ mem named
      have below := (activeMeans active).2.2
      rw [grantsSnoc,if_pos given]
      subst one
      push_cast
      rw [same]
      exact below
    · rw [grantsSnoc,if_neg given,add_zero]
      rcases (listed a).mp mem with old | new
      · exact inv.bound a old
      · obtain ⟨fresh,least⟩ := steps.fresh a new
        rw [inv.unissued _ fresh]
        push_cast
        omega
  · rcases (listed a).mp mem with old | new
    · exact (steps.issued a.1).mpr (.inl (inv.drawn a old))
    · exact (steps.issued a.1).mpr (.inr ⟨a.2,new⟩)
  · rw [(steps.issued id).not,not_or] at absent
    rw [grantsSnoc,inv.unissued id absent.1,if_neg]
    intro given
    obtain ⟨s,old,named,-⟩ := steps.active _ given
    exact absent.1 (named ▸ inv.store.named s old)

theorem initialClaims {start : ℚ} (room : 0 ≤ c.totalStorageBytes) (started : 0 ≤ start) :
    ClaimInv c (World.initial start) [] := by
  refine ⟨initialInv room started,?_,?_,?_,?_,?_⟩ <;> simp [sessions,World.initial,emptyManifest,arms,grants]

theorem finishedStep {id : Text} (inv : StoreInv c w) (finished : Finished id w) (timely : Timely w op)
    (ok : next c size w op = some w') : Finished id w' ∧ granted ⟨w,op,w'⟩ ≠ some id := by
  have steps := nextSteps inv timely ok
  -- a later clock, more claims and another stop leave a finished session finished
  have lasting : ∀ s ∈ sessions w, s.sessionId = id → ∀ now, w.clock ≤ now → s.status now ≠ .active := by
    intro s here named now later active
    refine finished.2 s here named ?_
    obtain ⟨running,lives,left⟩ := activeMeans active
    unfold CaptureSession.status
    rw [if_neg (by simp [running]),if_neg (by linarith),if_neg (by omega)]
  refine ⟨⟨(steps.issued id).mpr (.inl finished.1),fun s' here named active => ?_⟩,fun given => ?_⟩
  · obtain ⟨running,lives,left⟩ := activeMeans active
    rcases steps.origin s' here with ⟨s,old,follows⟩ | ⟨asked,-⟩
    · refine lasting s old (follows.id.symm.trans named) w'.clock steps.clock ?_
      have claims := follows.claimed
      unfold CaptureSession.status
      have going : ¬s.stopped = true := fun stopped => by simp [follows.stopped stopped] at running
      rw [if_neg going,if_neg,if_neg]
      · rw [follows.count] at left
        split at claims <;> omega
      · rw [follows.expires] at lives
        exact not_le.mpr lives
    · exact (steps.fresh _ asked).1 (named ▸ finished.1)
  · obtain ⟨s,old,named,active⟩ := steps.active _ given
    exact lasting s old named _ steps.clock active

-- No session grants more claims than it was armed for, and a finished one never grants again.
theorem captureClaimsFinal {start : ℚ} {ops later : List Op} (counts : c.maxCount ≤ maxCountHard)
    (room : 0 ≤ c.totalStorageBytes) (started : 0 ≤ start)
    (timely : Runs.Along (next c size) Timely (World.initial start) (ops ++ later)) :
    (∀ a ∈ arms c (Runs.commits (next c size) (World.initial start) ops),
      grants a.1 (Runs.commits (next c size) (World.initial start) ops) ≤ a.2) ∧
    ∀ id, Finished id (Runs.run (next c size) (World.initial start) ops) →
      grants id (Runs.commits (next c size) (Runs.run (next c size) (World.initial start) ops) later) = 0 := by
  obtain ⟨first,second⟩ := Runs.alongAppend.mp timely
  have claims : ClaimInv c (Runs.run (next c size) (World.initial start) ops)
      (Runs.commits (next c size) (World.initial start) ops) :=
    Runs.historyRun (ClaimInv c) (fun _ _ _ _ inv here ok => claimInvStep counts inv here ok)
      (initialClaims room started) first
  refine ⟨claims.bound,fun id finished => List.count_eq_zero.mpr fun mem => ?_⟩
  obtain ⟨t,committed,given⟩ := List.mem_filterMap.mp mem
  have silent := Runs.commitsForall (fun w => StoreInv c w ∧ Finished id w) (fun t => granted t ≠ some id)
    (fun w op w' inv here ok => by
      obtain ⟨finished,silent⟩ := finishedStep inv.1 inv.2 here ok
      exact ⟨⟨nextInv counts inv.1 here ok,finished⟩,silent⟩) ⟨claims.store,finished⟩ second t committed
  exact silent given

-- The one claim of the demonstration exhausts its session, and a second request is not captured.
theorem captureClaimsFinalDemo :
    grants demoId (Runs.commits (next demoConfig fun _ => 0) (World.initial 0) demoOps) = 1 ∧
      grants demoId (Runs.commits (next demoConfig fun _ => 0)
        (Runs.run (next demoConfig fun _ => 0) (World.initial 0) demoOps) [.claim (text "/v1") none 2]) = 0 := by
  have timely : Runs.Along (next demoConfig fun _ => 0) Timely (World.initial 0) (demoOps ++ [.claim (text "/v1") none 2]) := by
    refine Runs.alongAppend.mpr ⟨demoTimely,?_,trivial⟩
    change (Runs.run (next demoConfig fun _ => 0) (World.initial 0) demoOps).clock ≤ 2
    decide +kernel
  have final := (captureClaimsFinal (by decide) (by decide) le_rfl timely).2 demoId
  refine ⟨by decide +kernel,final ⟨by decide +kernel,?_⟩⟩
  have checked : ((sessions (Runs.run (next demoConfig fun _ => 0) (World.initial 0) demoOps)).all fun s =>
      s.status (Runs.run (next demoConfig fun _ => 0) (World.initial 0) demoOps).clock ≠ .active) = true := by decide +kernel
  exact fun s here _ => of_decide_eq_true (List.all_eq_true.mp checked s here)

end Bounds

end SlaifGateway.CaptureStore
