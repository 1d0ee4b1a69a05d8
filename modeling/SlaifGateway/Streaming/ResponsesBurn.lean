import SlaifGateway.Streaming.ChunkEstimate
import Mathlib.Algebra.BigOperators.Group.Finset.Piecewise

/-! The live-burn monitor of a Responses stream. Deltas are counted as they come; a done event is counted
unless its key was seen before, where the key is made of the event's category, item id and index. -/
namespace SlaifGateway.Streaming
open Library

section Monitor

inductive Category where
  | outputText | functionArguments | customInput | reasoningSummary | reasoningText
  deriving DecidableEq, Repr

def Category.deltaType : Category → String
  | .outputText => "response.output_text.delta"
  | .functionArguments => "response.function_call_arguments.delta"
  | .customInput => "response.custom_tool_call_input.delta"
  | .reasoningSummary => "response.reasoning_summary_text.delta"
  | .reasoningText => "response.reasoning_text.delta"

def Category.all : List Category := [.outputText,.functionArguments,.customInput,.reasoningSummary,.reasoningText]

def Category.indexField : Category → Option String
  | .reasoningSummary => some "summary_index"
  | .outputText | .reasoningText => some "content_index"
  | .functionArguments | .customInput => none

structure Key where
  category : Category
  itemId : Text
  index : ℕ
  deriving DecidableEq

structure ResponsesMonitor where
  estimatedOutputTokens : ℕ := 0
  deltaKeys : List Key := []
  doneKeys : List Key := []

def idText : Document → Text
  | .str t => t
  | _ => []

def indexOf (value : Document) : ℕ :=
  match value with
  | .int n => n.toNat
  | _ => 0

def generatedKey (chunk : Document) (category : Category) : Key :=
  ⟨category,idText (member chunk "item_id"),(category.indexField.map fun field => indexOf (member chunk field)).getD 0⟩

-- The monitor with its keys, and the texts to be counted.
abbrev Counted := ResponsesMonitor × List Text

def countDoneText (s : ResponsesMonitor) (key : Key) (value : Document) : Counted :=
  if key ∈ s.doneKeys then (s,[])
  else
    let marked := { s with doneKeys := key :: s.doneKeys }
    if key ∈ s.deltaKeys ∨ key.itemId ≠ [] ∧ { key with itemId := [] } ∈ s.deltaKeys then (marked,[])
    else (marked,(fragment value).filter fun t => t ≠ [])

def countParts (category : Category) (itemId : Text) (expectedPartType : String) :
    ResponsesMonitor → ℕ → List Document → Counted
  | s,_,[] => (s,[])
  | s,index,part :: rest =>
    match member part "type" with
    | .str t =>
      if t = text expectedPartType then
        let first := countDoneText s ⟨category,itemId,index⟩ (member part "text")
        let later := countParts category itemId expectedPartType first.1 (index + 1) rest
        (later.1,first.2 ++ later.2)
      else countParts category itemId expectedPartType s (index + 1) rest
    | _ => countParts category itemId expectedPartType s (index + 1) rest

def countItem (s : ResponsesMonitor) (item : Document) : Counted :=
  let itemId := idText (member item "id")
  match member item "type" with
  | .str t =>
    if t = text "function_call" then countDoneText s ⟨.functionArguments,itemId,0⟩ (member item "arguments")
    else if t = text "custom_tool_call" then countDoneText s ⟨.customInput,itemId,0⟩ (member item "input")
    else if t = text "message" then countParts .outputText itemId "output_text" s 0 (items (member item "content"))
    else if t = text "reasoning" then
      let summary := countParts .reasoningSummary itemId "summary_text" s 0 (items (member item "summary"))
      let content := countParts .reasoningText itemId "reasoning_text" summary.1 0 (items (member item "content"))
      (content.1,summary.2 ++ content.2)
    else (s,[])
  | _ => (s,[])

def countDelta (s : ResponsesMonitor) (chunk : Document) (category : Category) : Counted :=
  match member chunk "delta" with
  | .str [] => (s,[])
  | .str delta => ({ s with deltaKeys := generatedKey chunk category :: s.deltaKeys },[delta])
  | _ => (s,[])

def countTyped (s : ResponsesMonitor) (chunk : Document) (eventType : Text) : Counted :=
  match Category.all.find? fun c => eventType = text c.deltaType with
  | some category => countDelta s chunk category
  | none =>
    if eventType = text "response.reasoning_summary_text.done" then
      countDoneText s (generatedKey chunk .reasoningSummary) (member chunk "text")
    else if eventType = text "response.output_item.done" then countItem s (member chunk "item")
    else (s,[])

-- A list or an object as the event type cannot be looked up.
def generatedTextSegments (s : ResponsesMonitor) (chunk : Document) : Option Counted :=
  match member chunk "type" with
  | .str eventType => some (countTyped s chunk eventType)
  | .arr _ | .obj _ => none
  | _ => some (s,[])

def observeResponses (b : LiveBurnBudget) (s : ResponsesMonitor) (chunk : Document) :
    Option (ResponsesMonitor × Option LiveBurnEstimate) := do
  let counted ← generatedTextSegments s chunk
  let tokens ← counted.2.mapM (deltaTokens b.estimateMultiplier)
  let total := s.estimatedOutputTokens + tokens.sum
  some ({ counted.1 with estimatedOutputTokens := total },b.check total)

def observeResponsesAll (b : LiveBurnBudget) : ResponsesMonitor → List Document → Option ResponsesMonitor
  | s,[] => some s
  | s,chunk :: rest => do
    let next ← observeResponses b s chunk
    observeResponsesAll b next.1 rest

end Monitor

section Deliveries

inductive ItemValue where
  | functionCall (arguments : Text)
  | customToolCall (input : Text)
  | message (parts : List (Option Text))
  | reasoning (summary content : List (Option Text))
  | other

-- One event of the stream: what it delivers for which item, and the item id it shows (empty when it shows none).
inductive TextEvent where
  | delta (item : ℕ) (id : Text) (category : Category) (index : ℕ) (delta : Text)
  | summaryDone (item : ℕ) (id : Text) (index : ℕ) (value : Text)
  | itemDone (item : ℕ) (id : Text) (value : ItemValue)
  | silent

-- The parts of an item in their places; a place without a text holds a part of another type.
inductive Parts (partType : String) : List (Option Text) → List Document → Prop
  | nil : Parts partType [] []
  | counted {part : Document} {t : Text} {texts : List (Option Text)} {parts : List Document}
      (type : member part "type" = .str (text partType)) (value : member part "text" = .str t)
      (rest : Parts partType texts parts) : Parts partType (some t :: texts) (part :: parts)
  | other {part : Document} {texts : List (Option Text)} {parts : List Document}
      (type : member part "type" ≠ .str (text partType)) (rest : Parts partType texts parts) :
      Parts partType (none :: texts) (part :: parts)

def countedItems : List String := ["function_call","custom_tool_call","message","reasoning"]

inductive HoldsItem (item : Document) : ItemValue → Prop
  | functionCall {arguments : Text} (type : member item "type" = .str (text "function_call"))
      (value : member item "arguments" = .str arguments) : HoldsItem item (.functionCall arguments)
  | customToolCall {input : Text} (type : member item "type" = .str (text "custom_tool_call"))
      (value : member item "input" = .str input) : HoldsItem item (.customToolCall input)
  | message {parts : List (Option Text)} (type : member item "type" = .str (text "message"))
      (content : Parts "output_text" parts (items (member item "content"))) : HoldsItem item (.message parts)
  | reasoning {summary content : List (Option Text)} (type : member item "type" = .str (text "reasoning"))
      (summaries : Parts "summary_text" summary (items (member item "summary")))
      (contents : Parts "reasoning_text" content (items (member item "content"))) :
      HoldsItem item (.reasoning summary content)
  | other {type : Text} (shown : member item "type" = .str type) (other : type ∉ countedItems.map text) :
      HoldsItem item .other

def countedTypes : List String :=
  Category.all.map Category.deltaType ++ ["response.reasoning_summary_text.done","response.output_item.done"]

-- The event as the wire has it; every other member of the chunk is free.
inductive Carries : TextEvent → Document → Prop
  | delta {item : ℕ} {id : Text} {category : Category} {index : ℕ} {delta : Text} {chunk : Document}
      (type : member chunk "type" = .str (text category.deltaType)) (value : member chunk "delta" = .str delta)
      (key : generatedKey chunk category = ⟨category,id,index⟩) : Carries (.delta item id category index delta) chunk
  | summaryDone {item : ℕ} {id : Text} {index : ℕ} {value : Text} {chunk : Document}
      (type : member chunk "type" = .str (text "response.reasoning_summary_text.done"))
      (held : member chunk "text" = .str value)
      (key : generatedKey chunk .reasoningSummary = ⟨.reasoningSummary,id,index⟩) :
      Carries (.summaryDone item id index value) chunk
  | itemDone {item : ℕ} {id : Text} {value : ItemValue} {chunk : Document}
      (type : member chunk "type" = .str (text "response.output_item.done"))
      (shown : idText (member (member chunk "item") "id") = id) (held : HoldsItem (member chunk "item") value) :
      Carries (.itemDone item id value) chunk
  | silent {eventType : Text} {chunk : Document} (type : member chunk "type" = .str eventType)
      (other : eventType ∉ countedTypes.map text) : Carries .silent chunk

structure Field where
  item : ℕ
  category : Category
  index : ℕ
  deriving DecidableEq

-- A text delivered for a field, under the item id that is shown.
structure Op where
  field : Field
  id : Text
  done : Bool
  value : Text

def Op.key (op : Op) : Key := ⟨op.field.category,op.id,op.field.index⟩

def partOps (item : ℕ) (id : Text) (category : Category) : ℕ → List (Option Text) → List Op
  | _,[] => []
  | index,some t :: rest => ⟨⟨item,category,index⟩,id,true,t⟩ :: partOps item id category (index + 1) rest
  | index,none :: rest => partOps item id category (index + 1) rest

def TextEvent.ops : TextEvent → List Op
  | .delta item id category index value => [⟨⟨item,category,index⟩,id,false,value⟩]
  | .summaryDone item id index value => [⟨⟨item,.reasoningSummary,index⟩,id,true,value⟩]
  | .itemDone item id (.functionCall arguments) => [⟨⟨item,.functionArguments,0⟩,id,true,arguments⟩]
  | .itemDone item id (.customToolCall input) => [⟨⟨item,.customInput,0⟩,id,true,input⟩]
  | .itemDone item id (.message parts) => partOps item id .outputText 0 parts
  | .itemDone item id (.reasoning summary content) =>
    partOps item id .reasoningSummary 0 summary ++ partOps item id .reasoningText 0 content
  | .itemDone _ _ .other | .silent => []

def countOp (s : ResponsesMonitor) (op : Op) : Counted :=
  if op.done then countDoneText s op.key (.str op.value)
  else if op.value = [] then (s,[])
  else ({ s with deltaKeys := op.key :: s.deltaKeys },[op.value])

def countOps : ResponsesMonitor → List Op → Counted
  | s,[] => (s,[])
  | s,op :: rest =>
    let first := countOp s op
    let later := countOps first.1 rest
    (later.1,first.2 ++ later.2)

theorem countOpsCons (s : ResponsesMonitor) (op : Op) (rest : List Op) : countOps s (op :: rest) =
    ((countOps (countOp s op).1 rest).1,(countOp s op).2 ++ (countOps (countOp s op).1 rest).2) := rfl

theorem countOpsAppend (s : ResponsesMonitor) (first second : List Op) :
    countOps s (first ++ second) =
      ((countOps (countOps s first).1 second).1,(countOps s first).2 ++ (countOps (countOps s first).1 second).2) := by
  induction first generalizing s with
  | nil => rfl
  | cons op rest ih =>
    rw [List.cons_append,countOpsCons,countOpsCons,ih]
    simp only [List.append_assoc]

theorem countOpsSingle (s : ResponsesMonitor) (op : Op) : countOps s [op] = countOp s op := by
  rw [countOpsCons]
  simp [countOps]

theorem partsCount {partType : String} {texts : List (Option Text)} {parts : List Document}
    (held : Parts partType texts parts) (s : ResponsesMonitor) (item index : ℕ) (id : Text) (category : Category) :
    countParts category id partType s index parts = countOps s (partOps item id category index texts) := by
  induction held generalizing s index with
  | nil => rfl
  | counted type value rest ih =>
    unfold countParts partOps countOps
    rw [type,value]
    dsimp only
    rw [if_pos rfl,ih]
    rfl
  | @other part texts parts type rest ih =>
    unfold countParts partOps
    rw [← ih]
    split
    · next t shown =>
      rw [if_neg (fun same => type (by rw [shown,same]))]
    · rfl

theorem itemCount {item : Document} {value : ItemValue} (held : HoldsItem item value) (s : ResponsesMonitor) (n : ℕ) :
    countItem s item = countOps s (TextEvent.itemDone n (idText (member item "id")) value).ops := by
  have apart : text "custom_tool_call" ≠ text "function_call" ∧ text "message" ≠ text "function_call" ∧
      text "message" ≠ text "custom_tool_call" ∧ text "reasoning" ≠ text "function_call" ∧
      text "reasoning" ≠ text "custom_tool_call" ∧ text "reasoning" ≠ text "message" := by
    decide +kernel
  obtain ⟨one,two,three,four,five,six⟩ := apart
  unfold countItem
  cases held with
  | functionCall type held =>
    rw [type]
    dsimp only
    rw [if_pos rfl,held,TextEvent.ops,countOpsSingle]
    rfl
  | customToolCall type held =>
    rw [type]
    dsimp only
    rw [if_neg one,if_pos rfl,held,TextEvent.ops,countOpsSingle]
    rfl
  | message type content =>
    rw [type]
    dsimp only
    rw [if_neg two,if_neg three,if_pos rfl]
    exact partsCount content s n 0 _ _
  | reasoning type summaries contents =>
    rw [type]
    dsimp only
    rw [if_neg four,if_neg five,if_neg six,if_pos rfl,partsCount summaries s n 0 _ _,partsCount contents _ n 0 _ _]
    exact (countOpsAppend s _ _).symm
  | @other type shown other =>
    have apart (name : String) (mem : name ∈ countedItems) : type ≠ text name := by
      rintro rfl
      exact other (List.mem_map_of_mem mem)
    rw [shown]
    dsimp only
    rw [if_neg (apart _ (by simp [countedItems])),if_neg (apart _ (by simp [countedItems])),
      if_neg (apart _ (by simp [countedItems])),if_neg (apart _ (by simp [countedItems]))]
    rfl

theorem deltaFound (category : Category) :
    (Category.all.find? fun c => text category.deltaType = text c.deltaType) = some category := by
  cases category <;> decide +kernel

theorem doneNotFound : ∀ t ∈ ["response.reasoning_summary_text.done","response.output_item.done"],
    (Category.all.find? fun c => text t = text c.deltaType) = none := by
  decide +kernel

-- An event on the wire is counted as what it delivers.
theorem carriedCount {e : TextEvent} {chunk : Document} (carried : Carries e chunk) (s : ResponsesMonitor) :
    generatedTextSegments s chunk = some (countOps s e.ops) := by
  unfold generatedTextSegments
  cases carried with
  | @delta item id category index delta chunk type value key =>
    rw [type]
    dsimp only
    unfold countTyped
    rw [deltaFound]
    dsimp only
    unfold countDelta
    rw [value,key,TextEvent.ops,countOpsSingle]
    cases delta with
    | nil => rfl
    | cons c rest => rfl
  | summaryDone type held key =>
    rw [type]
    dsimp only
    unfold countTyped
    rw [doneNotFound _ (by simp)]
    dsimp only
    rw [if_pos rfl,held,key,TextEvent.ops,countOpsSingle]
    rfl
  | @itemDone item id value chunk type shown held =>
    have apart : text "response.output_item.done" ≠ text "response.reasoning_summary_text.done" := by decide +kernel
    rw [type]
    dsimp only
    unfold countTyped
    rw [doneNotFound _ (by simp)]
    dsimp only
    rw [if_neg apart,if_pos rfl,itemCount held s item,shown]
  | @silent eventType chunk type other =>
    rw [type]
    dsimp only
    unfold countTyped
    have unknown : (Category.all.find? fun c => eventType = text c.deltaType) = none := by
      rw [List.find?_eq_none]
      intro c mem same
      refine other (List.mem_map.mpr ⟨c.deltaType,?_,(of_decide_eq_true same).symm⟩)
      exact List.mem_append_left _ (List.mem_map_of_mem mem)
    have summary : eventType ≠ text "response.reasoning_summary_text.done" := by
      rintro rfl
      exact other (List.mem_map_of_mem (by simp [countedTypes]))
    have item : eventType ≠ text "response.output_item.done" := by
      rintro rfl
      exact other (List.mem_map_of_mem (by simp [countedTypes]))
    rw [unknown]
    dsimp only
    rw [if_neg summary,if_neg item]
    rfl

end Deliveries

section Fields
variable {b : LiveBurnBudget} {s : ResponsesMonitor} {earlier : List Op} {op : Op} {field : Field}

def textEstimate (b : LiveBurnBudget) (t : Text) : ℕ := (deltaTokens b.estimateMultiplier t).getD 0

-- An empty delta leaves no trace.
def Op.Registered (op : Op) : Prop := op.done = true ∨ op.value ≠ []

instance : DecidablePred Op.Registered := fun op => inferInstanceAs (Decidable (op.done = true ∨ op.value ≠ []))

def Delivered (earlier : List Op) (field : Field) : Prop := ∃ e ∈ earlier, e.Registered ∧ e.field = field

instance : Decidable (Delivered earlier field) :=
  inferInstanceAs (Decidable (∃ e ∈ earlier, e.Registered ∧ e.field = field))

-- What a done event finds: its own key, or a delta without an item id at its place.
def Op.Finds (op e : Op) : Prop :=
  e.key = op.key ∨ e.done = false ∧ op.id ≠ [] ∧ e.key = { op.key with itemId := [] }

def Op.Found (op : Op) (earlier : List Op) : Prop := ∃ e ∈ earlier, e.Registered ∧ op.Finds e

def deltasOf (ops : List Op) (field : Field) : List Op :=
  ops.filter fun op => op.field = field ∧ op.done = false ∧ op.value ≠ []

def donesOf (ops : List Op) (field : Field) : List Op := ops.filter fun op => op.field = field ∧ op.done = true

-- The estimate of what was delivered for a field: its deltas, or its first done text when there are none.
def fieldEstimate (b : LiveBurnBudget) (ops : List Op) (field : Field) : ℕ :=
  if deltasOf ops field = [] then ((donesOf ops field).head?.map fun op => textEstimate b op.value).getD 0
  else ((deltasOf ops field).map fun op => textEstimate b op.value).sum

def addedEstimate (b : LiveBurnBudget) (earlier : List Op) (op : Op) : ℕ :=
  if op.done = true ∧ Delivered earlier op.field then 0 else textEstimate b op.value

theorem emptyEstimate : textEstimate b [] = 0 := rfl

theorem deltasSnoc : deltasOf (earlier ++ [op]) field =
    deltasOf earlier field ++ if op.field = field ∧ op.done = false ∧ op.value ≠ [] then [op] else [] := by
  unfold deltasOf
  rw [List.filter_append]
  congr 1
  rw [List.filter_cons,List.filter_nil]
  simp only [decide_eq_true_eq]

theorem donesSnoc : donesOf (earlier ++ [op]) field =
    donesOf earlier field ++ if op.field = field ∧ op.done = true then [op] else [] := by
  unfold donesOf
  rw [List.filter_append]
  congr 1
  rw [List.filter_cons,List.filter_nil]
  simp only [decide_eq_true_eq]

theorem memDeltas {e : Op} : e ∈ deltasOf earlier field ↔ e ∈ earlier ∧ e.field = field ∧ e.done = false ∧ e.value ≠ [] := by
  unfold deltasOf
  rw [List.mem_filter,decide_eq_true_eq]

theorem memDones {e : Op} : e ∈ donesOf earlier field ↔ e ∈ earlier ∧ e.field = field ∧ e.done = true := by
  unfold donesOf
  rw [List.mem_filter,decide_eq_true_eq]

theorem deliveredIff : Delivered earlier field ↔ ¬(deltasOf earlier field = [] ∧ donesOf earlier field = []) := by
  constructor
  · rintro ⟨e,mem,registered,same⟩ ⟨deltas,dones⟩
    cases done : e.done with
    | true => exact List.ne_nil_of_mem (memDones.mpr ⟨mem,same,done⟩) dones
    | false =>
      have held : e.value ≠ [] := registered.resolve_left (by simp [done])
      exact List.ne_nil_of_mem (memDeltas.mpr ⟨mem,same,done,held⟩) deltas
  · intro some
    by_cases deltas : deltasOf earlier field = []
    · obtain ⟨e,inside⟩ := List.exists_mem_of_ne_nil _ fun dones => some ⟨deltas,dones⟩
      obtain ⟨mem,same,done⟩ := memDones.mp inside
      exact ⟨e,mem,.inl done,same⟩
    · obtain ⟨e,inside⟩ := List.exists_mem_of_ne_nil _ deltas
      obtain ⟨mem,same,_,held⟩ := memDeltas.mp inside
      exact ⟨e,mem,.inr held,same⟩

theorem doneSnoc (done : op.done = true) :
    fieldEstimate b (earlier ++ [op]) op.field = fieldEstimate b earlier op.field + addedEstimate b earlier op := by
  have deltas : deltasOf (earlier ++ [op]) op.field = deltasOf earlier op.field := by
    rw [deltasSnoc,if_neg (by simp [done]),List.append_nil]
  have dones : donesOf (earlier ++ [op]) op.field = donesOf earlier op.field ++ [op] := by
    rw [donesSnoc,if_pos ⟨rfl,done⟩]
  unfold fieldEstimate addedEstimate
  rw [deltas,dones]
  by_cases fresh : deltasOf earlier op.field = []
  · rw [if_pos fresh,if_pos fresh]
    cases first : donesOf earlier op.field with
    | nil =>
      rw [if_neg (fun held => deliveredIff.mp held.2 ⟨fresh,first⟩)]
      simp
    | cons e rest =>
      rw [if_pos ⟨done,deliveredIff.mpr fun none => by cases first.symm.trans none.2⟩]
      rfl
  · rw [if_neg fresh,if_neg fresh,if_pos ⟨done,deliveredIff.mpr fun none => fresh none.1⟩]
    rfl

theorem deltaSnoc (done : op.done = false) (ordered : ∀ e ∈ earlier, e.field = op.field → e.done = false) :
    fieldEstimate b (earlier ++ [op]) op.field = fieldEstimate b earlier op.field + addedEstimate b earlier op := by
  have none : donesOf earlier op.field = [] := by
    refine List.eq_nil_iff_forall_not_mem.mpr fun e inside => ?_
    obtain ⟨mem,same,finished⟩ := memDones.mp inside
    rw [ordered e mem same] at finished
    cases finished
  have dones : donesOf (earlier ++ [op]) op.field = [] := by
    rw [donesSnoc,if_neg (by simp [done]),none,List.append_nil]
  have added : addedEstimate b earlier op = textEstimate b op.value := by
    unfold addedEstimate
    rw [if_neg (by simp [done])]
  unfold fieldEstimate
  rw [dones,none,added]
  by_cases empty : op.value = []
  · have deltas : deltasOf (earlier ++ [op]) op.field = deltasOf earlier op.field := by
      rw [deltasSnoc,if_neg (fun held => held.2.2 empty),List.append_nil]
    rw [deltas,empty,emptyEstimate,add_zero]
  · have deltas : deltasOf (earlier ++ [op]) op.field = deltasOf earlier op.field ++ [op] := by
      rw [deltasSnoc,if_pos ⟨rfl,done,empty⟩]
    rw [deltas,if_neg (by simp),List.map_append,List.sum_append]
    congr 1
    split
    · next fresh =>
      rw [fresh]
      rfl
    · rfl

theorem otherSnoc (apart : op.field ≠ field) : fieldEstimate b (earlier ++ [op]) field = fieldEstimate b earlier field := by
  have deltas : deltasOf (earlier ++ [op]) field = deltasOf earlier field := by
    rw [deltasSnoc,if_neg (fun held => apart held.1),List.append_nil]
  have dones : donesOf (earlier ++ [op]) field = donesOf earlier field := by
    rw [donesSnoc,if_neg (fun held => apart held.1),List.append_nil]
  unfold fieldEstimate
  rw [deltas,dones]

-- One more delivery adds to its own field, and to no other.
theorem fieldEstimateSnoc (ordered : op.done = false → ∀ e ∈ earlier, e.field = op.field → e.done = false) (field : Field) :
    fieldEstimate b (earlier ++ [op]) field =
      fieldEstimate b earlier field + if field = op.field then addedEstimate b earlier op else 0 := by
  by_cases same : field = op.field
  · subst same
    rw [if_pos rfl]
    cases done : op.done with
    | true => exact doneSnoc done
    | false => exact deltaSnoc done (ordered done)
  · rw [if_neg same,add_zero]
    exact otherSnoc fun other => same other.symm

end Fields

section Runs
variable {b : LiveBurnBudget} {s : ResponsesMonitor} {earlier ops : List Op} {op : Op} {events : List TextEvent}
  {chunks : List Document}

-- The keys held are those of the deltas that carried text and of the done events so far.
structure Holds (earlier : List Op) (s : ResponsesMonitor) : Prop where
  deltas : ∀ key, key ∈ s.deltaKeys ↔ ∃ e ∈ earlier, e.done = false ∧ e.value ≠ [] ∧ e.key = key
  dones : ∀ key, key ∈ s.doneKeys ↔ ∃ e ∈ earlier, e.done = true ∧ e.key = key

-- The deltas of a field come before its done events.
def Ordered (earlier : List Op) (op : Op) : Prop := op.done = false → ∀ e ∈ earlier, e.field = op.field → e.done = false

-- A done event with a text finds something exactly if something was delivered for its field.
def Keyed (earlier : List Op) (op : Op) : Prop :=
  op.done = true → op.value ≠ [] → (op.Found earlier ↔ Delivered earlier op.field)

def Along (p : List Op → Op → Prop) : List Op → List Op → Prop
  | _,[] => True
  | earlier,op :: rest => p earlier op ∧ Along p (earlier ++ [op]) rest

theorem alongAppend {p : List Op → Op → Prop} (first second : List Op) :
    Along p earlier (first ++ second) ↔ Along p earlier first ∧ Along p (earlier ++ first) second := by
  induction first generalizing earlier with
  | nil => simp [Along]
  | cons op rest ih =>
    rw [List.cons_append,Along,Along,ih,and_assoc,List.append_assoc]
    rfl

theorem foundIff (holds : Holds earlier s) : op.Found earlier ↔
    op.key ∈ s.doneKeys ∨ op.key ∈ s.deltaKeys ∨ op.key.itemId ≠ [] ∧ { op.key with itemId := [] } ∈ s.deltaKeys := by
  rw [holds.dones,holds.deltas,holds.deltas]
  constructor
  · rintro ⟨e,mem,registered,same | ⟨streamed,shown,bare⟩⟩
    · cases finished : e.done with
      | true => exact .inl ⟨e,mem,finished,same⟩
      | false => exact .inr (.inl ⟨e,mem,finished,registered.resolve_left (by simp [finished]),same⟩)
    · exact .inr (.inr ⟨shown,e,mem,streamed,registered.resolve_left (by simp [streamed]),bare⟩)
  · rintro (⟨e,mem,finished,same⟩ | ⟨e,mem,_,held,same⟩ | ⟨shown,e,mem,streamed,held,bare⟩)
    · exact ⟨e,mem,.inl finished,.inl same⟩
    · exact ⟨e,mem,.inr held,.inl same⟩
    · exact ⟨e,mem,.inr held,.inr ⟨streamed,shown,bare⟩⟩

theorem existsSnoc {p : Op → Prop} : (∃ e ∈ earlier ++ [op], p e) ↔ (∃ e ∈ earlier, p e) ∨ p op := by
  constructor
  · rintro ⟨e,mem,held⟩
    rcases List.mem_append.mp mem with inside | last
    · exact .inl ⟨e,inside,held⟩
    · rw [List.mem_singleton.mp last] at held
      exact .inr held
  · rintro (⟨e,mem,held⟩ | held)
    · exact ⟨e,List.mem_append_left _ mem,held⟩
    · exact ⟨op,List.mem_append_right _ (List.mem_singleton_self op),held⟩

theorem holdsDone (holds : Holds earlier s) (done : op.done = true) {s' : ResponsesMonitor}
    (deltas : s'.deltaKeys = s.deltaKeys) (dones : ∀ key, key ∈ s'.doneKeys ↔ key ∈ s.doneKeys ∨ op.key = key) :
    Holds (earlier ++ [op]) s' := by
  constructor
  · intro key
    rw [deltas,holds.deltas,existsSnoc,or_iff_left (fun last => by simp [done] at last)]
  · intro key
    rw [dones,holds.dones,existsSnoc,and_iff_right done]

theorem holdsDelta (holds : Holds earlier s) (done : op.done = false) (held : op.value ≠ []) :
    Holds (earlier ++ [op]) { s with deltaKeys := op.key :: s.deltaKeys } := by
  constructor
  · intro key
    rw [List.mem_cons,holds.deltas,existsSnoc,and_iff_right done,and_iff_right held,or_comm,eq_comm]
  · intro key
    rw [holds.dones,existsSnoc,or_iff_left (fun last => by simp [done] at last)]

theorem holdsEmpty (holds : Holds earlier s) (done : op.done = false) (empty : op.value = []) : Holds (earlier ++ [op]) s := by
  constructor
  · intro key
    rw [holds.deltas,existsSnoc,or_iff_left (fun last => last.2.1 empty)]
  · intro key
    rw [holds.dones,existsSnoc,or_iff_left (fun last => by simp [done] at last)]

theorem addedFound (keyed : Keyed earlier op) (done : op.done = true) (found : op.Found earlier) :
    addedEstimate b earlier op = 0 := by
  unfold addedEstimate
  by_cases empty : op.value = []
  · rw [empty,emptyEstimate,ite_self]
  · rw [if_pos ⟨done,(keyed done empty).mp found⟩]

theorem addedFresh (keyed : Keyed earlier op) (done : op.done = true) (fresh : ¬op.Found earlier) :
    addedEstimate b earlier op = textEstimate b op.value := by
  unfold addedEstimate
  by_cases empty : op.value = []
  · rw [empty,emptyEstimate,ite_self]
  · rw [if_neg (fun held => fresh ((keyed done empty).mpr held.2))]

-- One delivery: the keys stay right, and what is counted is what it adds to its field.
theorem countOpAdds (holds : Holds earlier s) (keyed : Keyed earlier op) :
    Holds (earlier ++ [op]) (countOp s op).1 ∧
      ((countOp s op).2.map (textEstimate b)).sum = addedEstimate b earlier op ∧
      ∀ t ∈ (countOp s op).2, t = op.value := by
  have found : op.Found earlier ↔ _ := foundIff holds
  cases done : op.done with
  | true =>
    unfold countOp countDoneText
    rw [if_pos done]
    by_cases before : op.key ∈ s.doneKeys
    · rw [if_pos before]
      refine ⟨holdsDone holds done rfl fun key => ?_,(addedFound keyed done (found.mpr (.inl before))).symm,
        List.forall_mem_nil _⟩
      exact (or_iff_left_of_imp fun same => same ▸ before).symm
    · rw [if_neg before]
      dsimp only
      have marked : ∀ key, key ∈ op.key :: s.doneKeys ↔ key ∈ s.doneKeys ∨ op.key = key := by
        intro key
        rw [List.mem_cons,or_comm,eq_comm]
      split
      · next streamed =>
        exact ⟨holdsDone holds done rfl marked,(addedFound keyed done (found.mpr (.inr streamed))).symm,
          List.forall_mem_nil _⟩
      · next fresh =>
        refine ⟨holdsDone holds done rfl marked,?_,fun t mem => List.mem_singleton.mp (List.mem_filter.mp mem).1⟩
        rw [addedFresh keyed done (fun held => (found.mp held).elim before fresh)]
        cases value : op.value with
        | nil => rfl
        | cons c rest => rfl
  | false =>
    have added : addedEstimate b earlier op = textEstimate b op.value := by
      unfold addedEstimate
      rw [if_neg (by simp [done])]
    unfold countOp
    rw [if_neg (by simp [done]),added]
    split
    · next empty => exact ⟨holdsEmpty holds done empty,by rw [empty]; rfl,List.forall_mem_nil _⟩
    · next held => exact ⟨holdsDelta holds done held,rfl,fun t mem => List.mem_singleton.mp mem⟩

theorem countOpsAdds (fields : Finset Field) (inside : ∀ op ∈ ops, op.field ∈ fields) (holds : Holds earlier s)
    (ordered : Along Ordered earlier ops) (keyed : Along Keyed earlier ops) :
    Holds (earlier ++ ops) (countOps s ops).1 ∧
      ((countOps s ops).2.map (textEstimate b)).sum + ∑ field ∈ fields, fieldEstimate b earlier field =
        ∑ field ∈ fields, fieldEstimate b (earlier ++ ops) field ∧
      ∀ t ∈ (countOps s ops).2, ∃ op ∈ ops, t = op.value := by
  induction ops generalizing s earlier with
  | nil =>
    rw [List.append_nil]
    exact ⟨holds,Nat.zero_add _,List.forall_mem_nil _⟩
  | cons op rest ih =>
    obtain ⟨next,adds,counted⟩ := countOpAdds (b := b) holds keyed.1
    obtain ⟨last,sums,others⟩ := ih (fun e mem => inside e (List.mem_cons_of_mem _ mem)) next ordered.2 keyed.2
    have step : ∑ field ∈ fields, fieldEstimate b (earlier ++ [op]) field =
        ∑ field ∈ fields, fieldEstimate b earlier field + addedEstimate b earlier op := by
      rw [Finset.sum_congr rfl fun field _ => fieldEstimateSnoc ordered.1 field,Finset.sum_add_distrib,Finset.sum_ite_eq',
        if_pos (inside op (List.mem_cons_self ..))]
    rw [List.append_assoc,List.singleton_append] at last sums
    refine ⟨last,?_,?_⟩
    · rw [← sums,step,countOpsCons,List.map_append,List.sum_append,adds]
      omega
    · intro t mem
      rcases List.mem_append.mp mem with first | later
      · exact ⟨op,List.mem_cons_self ..,counted t first⟩
      · obtain ⟨e,inside,same⟩ := others t later
        exact ⟨e,List.mem_cons_of_mem _ inside,same⟩

theorem tokensOf {texts : List Text} (plain : ∀ t ∈ texts, ∀ c ∈ t, isSurrogate c = false) :
    texts.mapM (deltaTokens b.estimateMultiplier) = some (texts.map (textEstimate b)) := by
  induction texts with
  | nil => rfl
  | cons t rest ih =>
    obtain ⟨tokens,counted⟩ := deltaTokensSome (plain t (List.mem_cons_self ..)) b.estimateMultiplier
    have estimate : textEstimate b t = tokens := by
      unfold textEstimate
      rw [counted]
      rfl
    rw [List.mapM_cons,counted,ih fun u mem => plain u (List.mem_cons_of_mem _ mem),List.map_cons,estimate]
    rfl

def deliveries (events : List TextEvent) : List Op := events.flatMap TextEvent.ops

theorem observedAll (fields : Finset Field) (carried : List.Forall₂ Carries events chunks)
    (inside : ∀ op ∈ deliveries events, op.field ∈ fields)
    (plain : ∀ op ∈ deliveries events, ∀ c ∈ op.value, isSurrogate c = false) (holds : Holds earlier s)
    (ordered : Along Ordered earlier (deliveries events)) (keyed : Along Keyed earlier (deliveries events)) :
    ∃ last, observeResponsesAll b s chunks = some last ∧
      last.estimatedOutputTokens + ∑ field ∈ fields, fieldEstimate b earlier field =
        s.estimatedOutputTokens + ∑ field ∈ fields, fieldEstimate b (earlier ++ deliveries events) field := by
  induction carried generalizing s earlier with
  | nil =>
    refine ⟨s,rfl,?_⟩
    rw [deliveries,List.flatMap_nil,List.append_nil]
  | @cons e chunk events chunks first rest ih =>
    have split : deliveries (e :: events) = e.ops ++ deliveries events := List.flatMap_cons
    rw [split] at inside plain ordered keyed
    have ordered := (alongAppend _ _).mp ordered
    have keyed := (alongAppend _ _).mp keyed
    obtain ⟨next,sums,counted⟩ := countOpsAdds (b := b) fields
      (fun op mem => inside op (List.mem_append_left _ mem)) holds ordered.1 keyed.1
    have texts : ∀ t ∈ (countOps s e.ops).2, ∀ c ∈ t, isSurrogate c = false := by
      intro t mem
      obtain ⟨op,held,rfl⟩ := counted t mem
      exact plain op (List.mem_append_left _ held)
    have seen : observeResponses b s chunk = some
        ({ (countOps s e.ops).1 with
            estimatedOutputTokens := s.estimatedOutputTokens + ((countOps s e.ops).2.map (textEstimate b)).sum },
          b.check (s.estimatedOutputTokens + ((countOps s e.ops).2.map (textEstimate b)).sum)) := by
      unfold observeResponses
      rw [carriedCount first]
      change ((countOps s e.ops).2.mapM (deltaTokens b.estimateMultiplier)).bind _ = _
      rw [tokensOf texts]
      rfl
    obtain ⟨last,others,total⟩ := @ih { (countOps s e.ops).1 with
        estimatedOutputTokens := s.estimatedOutputTokens + ((countOps s e.ops).2.map (textEstimate b)).sum }
      (earlier ++ e.ops) (fun op mem => inside op (List.mem_append_right _ mem))
      (fun op mem => plain op (List.mem_append_right _ mem)) ⟨next.deltas,next.dones⟩ ordered.2 keyed.2
    refine ⟨last,?_,?_⟩
    · unfold observeResponsesAll
      rw [seen]
      exact others
    · rw [split,← List.append_assoc]
      dsimp only at total
      omega

theorem sameKeyIff {e d : Op} : e.key = d.key ∧ e.field ≠ d.field ↔
    e.field.item ≠ d.field.item ∧ e.id = d.id ∧ e.field.category = d.field.category ∧ e.field.index = d.field.index := by
  obtain ⟨⟨item,category,index⟩,id,done,value⟩ := e
  obtain ⟨⟨item',category',index'⟩,id',done',value'⟩ := d
  simp only [Op.key,Key.mk.injEq,Field.mk.injEq,ne_eq]
  tauto

-- Where every event shows an item id, and different items show different ids, the keys do their work.
theorem idsKey (ids : ∀ e ∈ earlier ++ ops, ∀ d ∈ earlier ++ ops, e.id ≠ [] ∧ (e.id = d.id ↔ e.field.item = d.field.item)) :
    Along Keyed earlier ops := by
  induction ops generalizing earlier with
  | nil => trivial
  | cons op rest ih =>
    have here : op ∈ earlier ++ op :: rest := List.mem_append_right _ (List.mem_cons_self ..)
    refine ⟨fun _ _ => ?_,ih ?_⟩
    · have finds : ∀ e ∈ earlier, op.Finds e ↔ e.field = op.field := by
        intro e mem
        obtain ⟨shown,same⟩ := ids e (List.mem_append_left _ mem) op here
        have keys : e.key = op.key ↔ e.field = op.field := by
          obtain ⟨⟨item,category,index⟩,id,done,value⟩ := e
          obtain ⟨⟨item',category',index'⟩,id',done',value'⟩ := op
          simp only [Op.key,Key.mk.injEq,Field.mk.injEq] at same ⊢
          tauto
        unfold Op.Finds
        rw [keys,or_iff_left]
        rintro ⟨_,_,bare⟩
        exact shown (congrArg Key.itemId bare)
      constructor
      · rintro ⟨e,mem,registered,found⟩
        exact ⟨e,mem,registered,(finds e mem).mp found⟩
      · rintro ⟨e,mem,registered,same⟩
        exact ⟨e,mem,registered,(finds e mem).mpr same⟩
    · rw [List.append_assoc]
      exact ids

def textDelta (id value : String) : Document :=
  .obj [(text "type",.str (text "response.output_text.delta")),(text "item_id",.str (text id)),
    (text "content_index",.int 0),(text "delta",.str (text value))]

def messageDone (id value : String) : Document :=
  .obj [(text "type",.str (text "response.output_item.done")),(text "item",.obj [(text "id",.str (text id)),
    (text "type",.str (text "message")),(text "content",.arr [.obj [(text "type",.str (text "output_text")),
      (text "text",.str (text value))]])])]

def callDone (arguments : String) : Document :=
  .obj [(text "type",.str (text "response.output_item.done")),(text "item",.obj [
    (text "type",.str (text "function_call")),(text "arguments",.str (text arguments))])]

def twoMessages : List TextEvent :=
  [.delta 0 (text "m") .outputText 0 (text "abcd"),.itemDone 0 (text "m") (.message [some (text "abcd")]),
    .itemDone 1 (text "n") (.message [some (text "ab")])]

def namelessCalls : List TextEvent :=
  [.itemDone 0 [] (.functionCall (text "abcd")),.itemDone 1 [] (.functionCall (text "abcdefg"))]

end Runs

end SlaifGateway.Streaming
