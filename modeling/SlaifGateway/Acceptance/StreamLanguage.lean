import SlaifGateway.Acceptance.CompletedOutput

/-! The language of the exact profile's stream: a machine that follows the response and each item through its
stages, and what holds of all the events it takes. -/
namespace SlaifGateway.Responses
open Library

section Machine

inductive Act where
  | opened | partAdded
  | delta (t : Text) | textDone (t : Text) | partDone (t : Text) | closed (t : Text)

inductive Stage where
  | opened | parted
  | telling (t : Text) | told (t : Text) | shown (t : Text) | closed (t : Text)
  deriving DecidableEq

inductive StreamEvent where
  | created (id : Text) | inProgress (id : Text) | completed (id : Text)
  | on (item : Streamed) (act : Act)

def Stage.text : Stage → Text
  | .opened | .parted => []
  | .telling t | .told t | .shown t | .closed t => t

-- No more text follows.
def Stage.full : Stage → Bool
  | .told _ | .shown _ | .closed _ => true
  | _ => false

def Stage.isClosed : Stage → Bool
  | .closed _ => true
  | _ => false

def Act.said : Act → Text
  | .delta t => t
  | _ => []

def Act.final : Act → Option Text
  | .textDone t | .partDone t | .closed t => some t
  | _ => none

-- A function call has no part, and none of its text need be told when it has none.
def Stage.next (kind : ItemType) : Stage → Act → Option Stage
  | .opened,.partAdded => if kind = .functionCall then none else some .parted
  | .opened,.delta t => if kind = .functionCall then some (.telling t) else none
  | .opened,.closed t => if kind = .functionCall ∧ t = [] then some (.closed t) else none
  | .parted,.delta t => some (.telling t)
  | .telling t,.delta more => some (.telling (t ++ more))
  | .telling t,.textDone whole => if whole = t then some (.told t) else none
  | .told t,.partDone whole => if kind ≠ .functionCall ∧ whole = t then some (.shown t) else none
  | .told t,.closed whole => if kind = .functionCall ∧ whole = t then some (.closed t) else none
  | .shown t,.closed whole => if whole = t then some (.closed t) else none
  | _,_ => none

structure StreamState where
  last : Option ℕ := none
  response : Option Text := none
  completed : Bool := false
  items : List Streamed := []
  stage : Streamed → Option Stage := fun _ => none

namespace StreamState

def put (a : StreamState) (item : Streamed) (stage : Stage) : StreamState := { a with
  stage := fun other => if other = item then some stage else a.stage other }

def running (a : StreamState) : Bool := a.response.isSome && !a.completed

def opens (a : StreamState) (item : Streamed) : Option StreamState :=
  if item.itemId ∉ a.items.map Streamed.itemId ∧ a.items.length < maxResponseOutputItems ∧
      (item.kind = .functionCall → a.running = true ∧ ∀ other ∈ a.items, other.kind ≠ .functionCall) then
    some ({ a with items := a.items ++ [item] }.put item .opened)
  else none

def moves (a : StreamState) (item : Streamed) (act : Act) : Option StreamState := do
  let stage ← a.stage item
  let later ← stage.next item.kind act
  if item.kind = .functionCall → a.running = true then some (a.put item later) else none

def step (a : StreamState) : StreamEvent → Option StreamState
  | .created id => if a.response = none then some { a with response := some id } else none
  | .inProgress id => if a.response = some id then some a else none
  | .completed id =>
    if a.response = some id ∧ a.completed = false ∧ a.items ≠ [] ∧ ∀ item ∈ a.items, (a.stage item).any Stage.isClosed then
      some { a with completed := true }
    else none
  | .on item .opened => a.opens item
  | .on item act => a.moves item act

-- An event with its sequence number.
def hear (a : StreamState) (heard : ℕ × StreamEvent) : Option StreamState :=
  if a.last.all (· < heard.1) then ({ a with last := some heard.1 } : StreamState).step heard.2 else none

def run (a : StreamState) (events : List (ℕ × StreamEvent)) : Option StreamState := events.foldlM hear a

end StreamState

end Machine

section Reports
variable {e : ℕ × StreamEvent} {events : List (ℕ × StreamEvent)}

def StreamEvent.opened : StreamEvent → Option Streamed
  | .on item .opened => some item
  | _ => none

def StreamEvent.closed : StreamEvent → Option Streamed
  | .on item (.closed _) => some item
  | _ => none

def StreamEvent.createdId : StreamEvent → Option Text
  | .created id => some id
  | _ => none

def StreamEvent.completedId : StreamEvent → Option Text
  | .completed id => some id
  | _ => none

-- The text that an event adds to an item.
def StreamEvent.said (item : Streamed) : StreamEvent → Text
  | .on other act => if other = item then act.said else []
  | _ => []

def openedIn (events : List (ℕ × StreamEvent)) : List Streamed := events.filterMap fun e => e.2.opened

def closedIn (events : List (ℕ × StreamEvent)) : List Streamed := events.filterMap fun e => e.2.closed

def createdIn (events : List (ℕ × StreamEvent)) : List Text := events.filterMap fun e => e.2.createdId

def completedIn (events : List (ℕ × StreamEvent)) : List Text := events.filterMap fun e => e.2.completedId

-- All that was told of an item's text.
def saidOf (item : Streamed) (events : List (ℕ × StreamEvent)) : Text := (events.map fun e => e.2.said item).flatten

structure Spoken (events : List (ℕ × StreamEvent)) : Prop where
  ordered : (events.map Prod.fst).Pairwise (· < ·)
  createdOnce : (createdIn events).length ≤ 1
  completedOnce : (completedIn events).length ≤ 1
  few : (openedIn events).length ≤ maxResponseOutputItems
  oneCall : ((openedIn events).filter fun item => item.kind = .functionCall).length ≤ 1
  openedOnce : ((openedIn events).map Streamed.itemId).Nodup
  closedOnce : (closedIn events).Nodup
  closedOpened : ∀ item ∈ closedIn events, item ∈ openedIn events
  texts : ∀ n item act t, (n,.on item act) ∈ events → act.final = some t → t = saidOf item events

end Reports

section Stages
variable {kind : ItemType} {stage later : Stage} {act : Act} {t : Text}

theorem nextText (ok : stage.next kind act = some later) : later.text = stage.text ++ act.said := by
  cases stage <;> cases act <;> simp [Stage.next] at ok <;> simp_all [Stage.text,Act.said] <;> grind [Stage.text]

theorem nextFull (full : stage.full = true) (ok : stage.next kind act = some later) :
    later.full = true ∧ act.said = [] := by
  cases stage <;> cases act <;> simp [Stage.next,Stage.full] at ok full ⊢ <;> grind [Stage.full,Act.said]

theorem nextFinal (final : act.final = some t) (ok : stage.next kind act = some later) :
    later.full = true ∧ later.text = t := by
  cases stage <;> cases act <;> simp [Stage.next,Act.final] at ok final <;> grind [Stage.full,Stage.text]

theorem nextShut (ok : stage.next kind (.closed t) = some later) : later.isClosed = true ∧ stage.isClosed = false := by
  cases stage <;> simp [Stage.next] at ok <;> grind [Stage.isClosed]

theorem nextOpen (ok : stage.next kind act = some later) : stage.isClosed = false := by
  cases stage with
  | closed => cases act <;> cases ok
  | _ => rfl

end Stages

section Put
variable {a : StreamState} {item other : Streamed} {stage : Stage}

@[simp] theorem putLast : (a.put item stage).last = a.last := rfl

@[simp] theorem putResponse : (a.put item stage).response = a.response := rfl

@[simp] theorem putCompleted : (a.put item stage).completed = a.completed := rfl

@[simp] theorem putItems : (a.put item stage).items = a.items := rfl

@[simp] theorem putSelf : (a.put item stage).stage item = some stage := if_pos rfl

theorem putOther (apart : other ≠ item) : (a.put item stage).stage other = a.stage other := if_neg apart

end Put

section Chronicle
variable {a a' : StreamState} {events : List (ℕ × StreamEvent)} {n : ℕ} {e : StreamEvent} {item : Streamed} {act : Act}

theorem openedNext : openedIn (events ++ [(n,e)]) = openedIn events ++ e.opened.toList := by
  cases shown : e.opened <;> simp [openedIn,shown]

theorem closedNext : closedIn (events ++ [(n,e)]) = closedIn events ++ e.closed.toList := by
  cases shown : e.closed <;> simp [closedIn,shown]

theorem createdNext : createdIn (events ++ [(n,e)]) = createdIn events ++ e.createdId.toList := by
  cases shown : e.createdId <;> simp [createdIn,shown]

theorem completedNext : completedIn (events ++ [(n,e)]) = completedIn events ++ e.completedId.toList := by
  cases shown : e.completedId <;> simp [completedIn,shown]

theorem saidNext : saidOf item (events ++ [(n,e)]) = saidOf item events ++ e.said item := by
  simp [saidOf]

-- What a state of the machine says of the events it has taken.
structure Chronicle (a : StreamState) (events : List (ℕ × StreamEvent)) : Prop where
  created : createdIn events = a.response.toList
  completed : (completedIn events).length = a.completed.toNat
  opened : openedIn events = a.items
  few : a.items.length ≤ maxResponseOutputItems
  oneCall : (a.items.filter fun item => item.kind = .functionCall).length ≤ 1
  distinct : (a.items.map Streamed.itemId).Nodup
  known : ∀ item stage, a.stage item = some stage → item ∈ a.items
  closed : ∀ item ∈ closedIn events, (a.stage item).any Stage.isClosed = true
  closedOnce : (closedIn events).Nodup
  text : ∀ item, saidOf item events = ((a.stage item).map Stage.text).getD []
  texts : ∀ n item act t, (n,.on item act) ∈ events → act.final = some t →
    ∃ stage, a.stage item = some stage ∧ stage.full = true ∧ stage.text = t

theorem chronicleInitial : Chronicle {} [] := by
  constructor <;> simp [createdIn,completedIn,openedIn,closedIn,saidOf]

theorem chronicleOpens (held : Chronicle a events) (ok : a.opens item = some a') :
    Chronicle a' (events ++ [(n,.on item .opened)]) := by
  unfold StreamState.opens at ok
  split at ok
  · next can =>
    obtain rfl := Option.some.inj ok
    obtain ⟨fresh,room,call⟩ := can
    have unstaged : a.stage item = none := by
      by_contra staged
      obtain ⟨stage,found⟩ := Option.ne_none_iff_exists'.mp staged
      exact fresh (List.mem_map_of_mem (held.known item stage found))
    have differ : ∀ other stage, a.stage other = some stage → other ≠ item := by
      intro other stage found same
      rw [same,unstaged] at found
      cases found
    refine {
      created := by rw [createdNext,held.created]; simp [StreamEvent.createdId]
      completed := by rw [completedNext,List.length_append,held.completed]; simp [StreamEvent.completedId]
      opened := openedNext.trans (congrArg (· ++ [item]) held.opened)
      few := (List.length_append ..).trans_le room
      oneCall := ?_
      distinct := ?_
      known := fun other stage found => ?_
      closed := ?_
      closedOnce := by rw [closedNext]; simpa [StreamEvent.closed] using held.closedOnce
      text := fun other => ?_
      texts := fun m other act t said final => ?_ }
    · by_cases function : item.kind = .functionCall
      · have none : a.items.filter (fun item => item.kind = .functionCall) = [] := by
          simpa using (call function).2
        simp [List.filter_append,none,function]
      · simpa [List.filter_append,function] using held.oneCall
    · rw [putItems,List.map_append,List.map_singleton]
      exact List.nodup_append.mpr ⟨held.distinct,List.nodup_singleton _,
        fun id listed other one same => fresh (List.mem_singleton.mp one ▸ same ▸ listed)⟩
    · by_cases same : other = item
      · simp [same]
      · rw [putOther same] at found
        exact List.mem_append_left _ (held.known other stage found)
    · intro other listed
      rw [closedNext] at listed
      have before := held.closed other (by simpa [StreamEvent.closed] using listed)
      have same : other ≠ item := by
        rintro rfl
        simp [unstaged] at before
      rwa [putOther same]
    · rw [saidNext,held.text other]
      by_cases same : other = item
      · simp [same,unstaged,StreamEvent.said,Act.said,Stage.text]
      · simp [putOther same,StreamEvent.said,Ne.symm same]
    · rcases List.mem_append.mp said with before | now
      · obtain ⟨stage,found,rest⟩ := held.texts m other act t before final
        exact ⟨stage,by rwa [putOther (differ other stage found)],rest⟩
      · simp only [List.mem_singleton,Prod.mk.injEq,StreamEvent.on.injEq] at now
        rw [now.2.2] at final
        cases final
  · cases ok

theorem chronicleMoves (held : Chronicle a events) (later : act ≠ .opened) (ok : a.moves item act = some a') :
    Chronicle a' (events ++ [(n,.on item act)]) := by
  unfold StreamState.moves at ok
  obtain ⟨stage,found,ok⟩ := Option.bind_eq_some_iff.mp ok
  obtain ⟨next,moved,ok⟩ := Option.bind_eq_some_iff.mp ok
  split at ok
  · obtain rfl := Option.some.inj ok
    have unclosed : item ∉ closedIn events := by
      intro listed
      have closed := held.closed item listed
      rw [found,Option.any_some,nextOpen moved] at closed
      cases closed
    have untold : (StreamEvent.on item act).opened = none := by
      cases act with
      | opened => exact absurd rfl later
      | _ => rfl
    refine { held with
      created := by rw [createdNext,held.created]; simp [StreamEvent.createdId]
      completed := by rw [completedNext,List.length_append,held.completed]; simp [StreamEvent.completedId]
      opened := by rw [openedNext,held.opened,untold]; simp
      known := fun other known said => ?_
      closed := fun other listed => ?_
      closedOnce := ?_
      text := fun other => ?_
      texts := fun m other said t mem final => ?_ }
    · by_cases same : other = item
      · exact same ▸ held.known item stage found
      · rw [putOther same] at said
        exact held.known other known said
    · rw [closedNext] at listed
      rcases List.mem_append.mp listed with before | now
      · have same : other ≠ item := fun same => unclosed (same ▸ before)
        rw [putOther same]
        exact held.closed other before
      · cases act with
        | closed t =>
          obtain rfl := List.mem_singleton.mp now
          rw [putSelf,Option.any_some]
          exact (nextShut moved).1
        | _ => cases now
    · rw [closedNext]
      cases act with
      | closed t =>
        exact List.nodup_append.mpr ⟨held.closedOnce,List.nodup_singleton _,
          fun old before other one same => unclosed (List.mem_singleton.mp one ▸ same ▸ before)⟩
      | _ => simpa [StreamEvent.closed] using held.closedOnce
    · rw [saidNext,held.text other]
      by_cases same : other = item
      · rw [same,putSelf,found]
        simp [StreamEvent.said,nextText moved]
      · simp [putOther same,StreamEvent.said,Ne.symm same]
    · rcases List.mem_append.mp mem with before | now
      · obtain ⟨old,known,full,whole⟩ := held.texts m other said t before final
        by_cases same : other = item
        · obtain rfl := Option.some.inj (found.symm.trans (same ▸ known))
          obtain ⟨still,silent⟩ := nextFull full moved
          exact ⟨next,by rw [same,putSelf],still,by rw [nextText moved,silent,List.append_nil,whole]⟩
        · exact ⟨old,by rwa [putOther same],full,whole⟩
      · simp only [List.mem_singleton,Prod.mk.injEq,StreamEvent.on.injEq] at now
        obtain ⟨-,rfl,rfl⟩ := now
        exact ⟨next,putSelf,nextFinal final moved⟩
  · cases ok

-- What is said of the response leaves the items alone.
theorem chronicleResponse (held : Chronicle a events) (response : Option Text) (completed : Bool)
    (untold : ∀ item act, e ≠ .on item act) (created : a.response.toList ++ e.createdId.toList = response.toList)
    (done : a.completed.toNat + e.completedId.toList.length = completed.toNat) :
    Chronicle { a with response := response, completed := completed } (events ++ [(n,e)]) := by
  have unopened : e.opened = none := by
    cases e with
    | on item act => exact absurd rfl (untold item act)
    | _ => rfl
  have unclosed : e.closed = none := by
    cases e with
    | on item act => exact absurd rfl (untold item act)
    | _ => rfl
  have silent : ∀ item, e.said item = [] := by
    intro item
    cases e with
    | on item act => exact absurd rfl (untold item act)
    | _ => rfl
  refine { held with
    created := by rw [createdNext,held.created,created]
    completed := by rw [completedNext,List.length_append,held.completed,done]
    opened := by rw [openedNext,held.opened,unopened]; simp
    closed := by rw [closedNext,unclosed]; simpa using held.closed
    closedOnce := by rw [closedNext,unclosed]; simpa using held.closedOnce
    text := fun item => by rw [saidNext,silent,List.append_nil,held.text item]
    texts := fun m item act t mem final => ?_ }
  rcases List.mem_append.mp mem with before | now
  · exact held.texts m item act t before final
  · exact absurd (Prod.mk.inj (List.mem_singleton.mp now)).2.symm (untold item act)

theorem chronicleStep (held : Chronicle a events) (ok : a.step e = some a') : Chronicle a' (events ++ [(n,e)]) := by
  cases e with
  | created id =>
    simp only [StreamState.step] at ok
    split at ok
    · next unset =>
      obtain rfl := Option.some.inj ok
      exact chronicleResponse held (some id) a.completed (by simp) (by simp [unset,StreamEvent.createdId])
        (by simp [StreamEvent.completedId])
    · cases ok
  | inProgress id =>
    simp only [StreamState.step] at ok
    split at ok
    · obtain rfl := Option.some.inj ok
      exact chronicleResponse held a.response a.completed (by simp) (by simp [StreamEvent.createdId])
        (by simp [StreamEvent.completedId])
    · cases ok
  | completed id =>
    simp only [StreamState.step] at ok
    split at ok
    · next can =>
      obtain rfl := Option.some.inj ok
      exact chronicleResponse held a.response true (by simp) (by simp [StreamEvent.createdId])
        (by simp [StreamEvent.completedId,can.2.1])
    · cases ok
  | on item act =>
    cases act with
    | opened => exact chronicleOpens held ok
    | _ => exact chronicleMoves held (by simp) ok

theorem stepLast (ok : a.step e = some a') : a'.last = a.last := by
  cases e with
  | on item act =>
    cases act with
    | opened =>
      simp only [StreamState.step,StreamState.opens] at ok
      split at ok <;> cases ok
      rfl
    | _ =>
      simp only [StreamState.step,StreamState.moves,Option.bind_eq_bind,Option.bind_eq_some_iff] at ok
      obtain ⟨stage,-,next,-,ok⟩ := ok
      split at ok <;> cases ok
      rfl
  | _ =>
    simp only [StreamState.step] at ok
    split at ok <;> cases ok
    rfl

def Ordered (last : Option ℕ) (events : List (ℕ × StreamEvent)) : Prop :=
  (events.map Prod.fst).Pairwise (· < ·) ∧ ∀ n ∈ events.map Prod.fst, last.any (n ≤ ·) = true

theorem orderedHear (ordered : Ordered a.last events) (ok : a.hear (n,e) = some a') :
    Ordered a'.last (events ++ [(n,e)]) := by
  unfold StreamState.hear at ok
  split at ok
  · next above =>
    have last : a'.last = some n := stepLast ok
    have below : ∀ m ∈ events.map Prod.fst, m < n := by
      intro m listed
      obtain ⟨l,known,under⟩ := (Option.any_eq_true _ _).mp (ordered.2 m listed)
      rw [known,Option.all_some] at above
      exact lt_of_le_of_lt (of_decide_eq_true under) (of_decide_eq_true above)
    rw [last]
    refine ⟨?_,fun m listed => ?_⟩
    · rw [List.map_append,List.pairwise_append]
      exact ⟨ordered.1,List.pairwise_singleton _ _,fun m listed k one => List.mem_singleton.mp one ▸ below m listed⟩
    · rw [List.map_append,List.mem_append] at listed
      rcases listed with before | now
      · exact decide_eq_true (below m before).le
      · exact decide_eq_true (List.mem_singleton.mp now).le
  · cases ok

theorem chronicleHear (held : Chronicle a events) (ok : a.hear (n,e) = some a') : Chronicle a' (events ++ [(n,e)]) := by
  unfold StreamState.hear at ok
  split at ok
  · exact chronicleStep (a := { a with last := some n }) { held with } ok
  · cases ok

theorem chronicleRun {later : List (ℕ × StreamEvent)} (held : Chronicle a events) (ordered : Ordered a.last events)
    (ok : a.run later = some a') : Chronicle a' (events ++ later) ∧ Ordered a'.last (events ++ later) := by
  induction later generalizing a events with
  | nil =>
    obtain rfl := Option.some.inj ok
    simpa using ⟨held,ordered⟩
  | cons e rest ih =>
    obtain ⟨middle,first,rest⟩ := Option.bind_eq_some_iff.mp ok
    have last := ih (chronicleHear (n := e.1) (e := e.2) held first) (orderedHear ordered first) rest
    rwa [List.append_assoc] at last

theorem spokenRun (ok : ({} : StreamState).run events = some a) : Spoken events := by
  obtain ⟨held,ordered⟩ := chronicleRun chronicleInitial ⟨List.Pairwise.nil,by simp⟩ ok
  rw [List.nil_append] at held ordered
  refine {
    ordered := ordered.1
    createdOnce := by rw [held.created]; cases a.response <;> simp
    completedOnce := by rw [held.completed]; exact Bool.toNat_le _
    few := held.opened ▸ held.few
    oneCall := held.opened ▸ held.oneCall
    openedOnce := held.opened ▸ held.distinct
    closedOnce := held.closedOnce
    closedOpened := fun item listed => ?_
    texts := fun n item act t mem final => ?_ }
  · obtain ⟨stage,found,-⟩ := (Option.any_eq_true _ _).mp (held.closed item listed)
    exact held.opened ▸ held.known item stage found
  · obtain ⟨stage,found,-,rfl⟩ := held.texts n item act t mem final
    rw [held.text item,found]
    rfl

end Chronicle

end SlaifGateway.Responses
