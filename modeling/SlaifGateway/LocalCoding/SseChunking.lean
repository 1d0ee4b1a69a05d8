import SlaifGateway.LocalCoding.SseFraming

/-! The framer against the grammar of event streams: every cut of a stream into chunks is fed as
its single bytes are, the events of a successful run are those of the grammar, and every state on
the way keeps within the limits. -/
namespace SlaifGateway.LocalCoding
open Library

section Comparison

-- Equal up to which limit or check a failing run names.
def Same (a b : Fed) : Prop := a.events = b.events ∧ a.result.toOption = b.result.toOption

theorem sameRefl (a : Fed) : Same a a := ⟨rfl,rfl⟩

theorem sameSymm {a b : Fed} (h : Same a b) : Same b a := ⟨h.1.symm,h.2.symm⟩

theorem sameTrans {a b c : Fed} (h : Same a b) (g : Same b c) : Same a c := ⟨h.1.trans g.1,h.2.trans g.2⟩

theorem sameThen {a b : Fed} {f g : Framer → Fed} (h : Same a b) (next : ∀ s, Same (f s) (g s)) :
    Same (a.andThen f) (b.andThen g) := by
  obtain ⟨events,result⟩ := h
  unfold Fed.andThen
  cases first : a.result with
  | error e =>
    cases second : b.result with
    | error e' => exact ⟨events,by simp [first,second,Except.toOption]⟩
    | ok s => simp [first,second,Except.toOption] at result
  | ok s =>
    cases second : b.result with
    | error e' => simp [first,second,Except.toOption] at result
    | ok s' =>
      simp only [first,second,Except.toOption,Option.some.injEq] at result
      subst result
      exact ⟨by dsimp only; rw [events,(next s).1],(next s).2⟩

theorem thenAssoc (a : Fed) (f g : Framer → Fed) :
    (a.andThen f).andThen g = a.andThen fun s => (f s).andThen g := by
  unfold Fed.andThen
  cases first : a.result with
  | error e => simp only [first]
  | ok s =>
    dsimp only
    cases second : (f s).result with
    | error e => simp [second]
    | ok s' => simp

theorem thenNone (a : Fed) : a.andThen (fun s => ⟨[],[],.ok s⟩) = a := by
  unfold Fed.andThen
  cases first : a.result with
  | error e => rfl
  | ok s => simp [← first]

theorem noneThen (s : Framer) (f : Framer → Fed) : Fed.andThen ⟨[],[],.ok s⟩ f = f s := by
  simp [Fed.andThen]

end Comparison

section Chunks
variable (parseFloat : Text → Document) (limits : Limits)

def feedByte (b : UInt8) (s : Framer) : Fed :=
  if b = 10 then (retainSegment limits [] 1 s).andThen (completeLine parseFloat limits)
  else retainSegment limits [b] 1 s

def feedBytes : Bytes → Framer → Fed
  | [],s => ⟨[],[],.ok s⟩
  | b :: rest,s => (feedByte parseFloat limits b s).andThen (feedBytes rest)

theorem feedBytesAppend (a b : Bytes) (s : Framer) :
    feedBytes parseFloat limits (a ++ b) s =
      (feedBytes parseFloat limits a s).andThen (feedBytes parseFloat limits b) := by
  induction a generalizing s with
  | nil => rw [List.nil_append,feedBytes,noneThen]
  | cons head rest ih =>
    simp only [List.cons_append,feedBytes,thenAssoc]
    congr 1
    funext s'
    exact ih s'

-- Retaining a segment in two parts, the frame counter growing by the same amount.
theorem retainSplit (x y : Bytes) (n : Nat) (room : y.length ≤ n) (s : Framer) :
    Same (retainSegment limits (x ++ y) (x.length + n) s)
      ((retainSegment limits x x.length s).andThen (retainSegment limits y n)) := by
  unfold retainSegment
  rw [List.length_append]
  by_cases line : limits.maxLineBytes < s.line.length + x.length
  · rw [if_pos line,if_pos (by omega)]
    exact ⟨rfl,rfl⟩
  · rw [if_neg line]
    by_cases frame : limits.maxFrameBytes < s.frameBytes + x.length
    · rw [if_pos frame]
      split
      · exact ⟨rfl,rfl⟩
      · rw [if_pos (by omega)]
        exact ⟨rfl,rfl⟩
    · rw [if_neg frame]
      simp only [Fed.done,Fed.andThen,List.length_append]
      by_cases whole : limits.maxLineBytes < s.line.length + x.length + y.length
      · rw [if_pos whole,if_pos (by omega)]
        exact ⟨rfl,rfl⟩
      · rw [if_neg whole,if_neg (by omega : ¬ limits.maxLineBytes < s.line.length + (x.length + y.length))]
        by_cases more : limits.maxFrameBytes < s.frameBytes + x.length + n
        · rw [if_pos more,if_pos (by omega)]
          exact ⟨rfl,rfl⟩
        · rw [if_neg more,if_neg (by omega)]
          refine ⟨rfl,?_⟩
          simp only [Except.toOption,Option.some.injEq,Framer.mk.injEq,List.append_assoc]
          exact ⟨trivial,trivial,by omega,trivial,trivial,by omega,by omega,trivial,trivial⟩

theorem retainBytes (segment : Bytes) (plain : (10 : UInt8) ∉ segment) (next : Framer → Fed) (n : Nat) (s : Framer) :
    Same ((retainSegment limits segment (segment.length + n) s).andThen next)
      ((feedBytes parseFloat limits segment s).andThen fun s => (retainSegment limits [] n s).andThen next) := by
  induction segment generalizing s with
  | nil =>
    rw [feedBytes,noneThen,List.length_nil,Nat.zero_add]
    exact sameRefl _
  | cons b rest ih =>
    have other : ¬ b = 10 := fun same => plain (same ▸ List.mem_cons_self)
    have tail : (10 : UInt8) ∉ rest := fun mem => plain (List.mem_cons_of_mem _ mem)
    have parts := retainSplit limits [b] rest (rest.length + n) (by omega) s
    simp only [List.length_singleton,List.singleton_append] at parts
    have count : (b :: rest).length + n = 1 + (rest.length + n) := by
      rw [List.length_cons]
      omega
    rw [count]
    refine sameTrans (sameThen parts fun _ => sameRefl _) ?_
    rw [thenAssoc,feedBytes,thenAssoc]
    simp only [feedByte,if_neg other]
    exact sameThen (sameRefl _) fun s' => ih tail s'

theorem feedTail (tail : Bytes) (plain : (10 : UInt8) ∉ tail) (s : Framer) :
    Same (if tail = [] then ⟨[],[],.ok s⟩ else retainSegment limits tail tail.length s)
      (feedBytes parseFloat limits tail s) := by
  induction tail generalizing s with
  | nil => exact sameRefl _
  | cons b rest ih =>
    have other : ¬ b = 10 := fun same => plain (same ▸ List.mem_cons_self)
    have tail : (10 : UInt8) ∉ rest := fun mem => plain (List.mem_cons_of_mem _ mem)
    rw [if_neg (List.cons_ne_nil _ _),feedBytes,feedByte,if_neg other]
    by_cases last : rest = []
    · subst last
      rw [show feedBytes parseFloat limits [] = fun s => ⟨[],[],.ok s⟩ from by funext s; rfl,thenNone]
      exact sameRefl _
    · have parts := retainSplit limits [b] rest rest.length (Nat.le_refl _) s
      simp only [List.length_singleton,List.singleton_append] at parts
      rw [List.length_cons,Nat.add_comm]
      refine sameTrans parts (sameThen (sameRefl _) fun s' => ?_)
      have later := ih tail s'
      rwa [if_neg last] at later

theorem cutLinesShape (chunk : Bytes) :
    chunk = ((cutLines chunk).1.flatMap fun line => line ++ [10]) ++ (cutLines chunk).2 ∧
      (∀ line ∈ (cutLines chunk).1, (10 : UInt8) ∉ line) ∧ (10 : UInt8) ∉ (cutLines chunk).2 := by
  induction chunk with
  | nil => simp [cutLines]
  | cons b rest ih =>
    obtain ⟨shape,plain,tail⟩ := ih
    rw [cutLines]
    by_cases feed : b = 10
    · simp only [feed,if_true]
      refine ⟨?_,?_,tail⟩
      · rw [List.flatMap_cons,List.append_assoc,← shape]
        rfl
      · intro line mem
        obtain rfl | mem := List.mem_cons.mp mem
        · simp
        · exact plain line mem
    · simp only [feed,if_false]
      cases lines : (cutLines rest).1 with
      | nil =>
        rw [lines] at shape
        refine ⟨by simpa using shape,by simp,?_⟩
        intro mem
        obtain same | mem := List.mem_cons.mp mem
        · exact feed same.symm
        · exact tail mem
      | cons line more =>
        rw [lines] at shape plain
        refine ⟨?_,?_,tail⟩
        · rw [List.flatMap_cons] at shape ⊢
          simpa using shape
        · intro l mem inside
          obtain rfl | mem := List.mem_cons.mp mem
          · obtain same | inside := List.mem_cons.mp inside
            · exact feed same.symm
            · exact plain line (by simp) inside
          · exact plain l (List.mem_cons_of_mem _ mem) inside

theorem feedLinesBytes (lines : List Bytes) (plain : ∀ line ∈ lines, (10 : UInt8) ∉ line) (s : Framer) :
    Same (feedLines parseFloat limits lines s)
      (feedBytes parseFloat limits (lines.flatMap fun line => line ++ [10]) s) := by
  induction lines generalizing s with
  | nil => exact sameRefl _
  | cons line rest ih =>
    have retained := retainBytes parseFloat limits line (plain line (by simp)) (completeLine parseFloat limits) 1 s
    rw [feedLines,List.flatMap_cons,List.append_assoc,feedBytesAppend,List.singleton_append]
    refine sameTrans (sameThen retained fun s' => ih (fun l mem => plain l (List.mem_cons_of_mem _ mem)) s') ?_
    rw [thenAssoc]
    refine sameThen (sameRefl _) fun s' => ?_
    rw [feedBytes,feedByte,if_pos rfl]
    exact sameRefl _

theorem feedChunkBytes (chunk : Bytes) (s : Framer) :
    Same (feedChunk parseFloat limits chunk s) (feedBytes parseFloat limits chunk s) := by
  obtain ⟨shape,plain,tail⟩ := cutLinesShape chunk
  have whole : feedBytes parseFloat limits chunk s =
      (feedBytes parseFloat limits ((cutLines chunk).1.flatMap fun line => line ++ [10]) s).andThen
        (feedBytes parseFloat limits (cutLines chunk).2) := by
    rw [← feedBytesAppend,← shape]
  rw [whole]
  exact sameThen (feedLinesBytes parseFloat limits _ plain s) fun s' => feedTail parseFloat limits _ tail s'

theorem feedChunksBytes (chunks : List Bytes) (s : Framer) :
    Same (feedChunks parseFloat limits chunks s) (feedBytes parseFloat limits chunks.flatten s) := by
  induction chunks generalizing s with
  | nil => exact sameRefl _
  | cons chunk rest ih =>
    rw [feedChunks,List.flatten_cons,feedBytesAppend]
    exact sameThen (feedChunkBytes parseFloat limits chunk s) ih

theorem iterEventsBytes (chunks : List Bytes) :
    Same (iterEvents parseFloat limits chunks)
      ((feedBytes parseFloat limits chunks.flatten {}).andThen (finishAtEof parseFloat limits)) :=
  sameThen (feedChunksBytes parseFloat limits chunks {}) fun _ => sameRefl _

end Chunks

section Bounds
variable (parseFloat : Text → Document) (limits : Limits)

structure Bounded (s : Framer) : Prop where
  line : s.line.length ≤ limits.maxLineBytes
  frame : s.frameBytes ≤ limits.maxFrameBytes
  joined : s.joinedDataBytes ≤ limits.maxJoinedDataBytes
  counted : ([10].intercalate s.dataSegments).length = s.joinedDataBytes
  segments : s.dataSegments.length ≤ limits.maxDataSegments
  mostLine : s.mostLineBytes ≤ limits.maxLineBytes
  mostFrame : s.mostFrameBytes ≤ limits.maxFrameBytes
  mostJoined : s.mostJoinedDataBytes ≤ limits.maxJoinedDataBytes
  mostSegments : s.mostDataSegments ≤ limits.maxDataSegments

structure Within (a : Fed) : Prop where
  visited : ∀ s ∈ a.visited, Bounded limits s
  result : ∀ s, a.result = .ok s → Bounded limits s

def Keeps (f : Framer → Fed) : Prop := ∀ s, Bounded limits s → Within limits (f s)

theorem intercalateLength (l : List Bytes) (v : Bytes) :
    ([10].intercalate (l ++ [v])).length =
      ([10].intercalate l).length + v.length + if l = [] then 0 else 1 := by
  induction l with
  | nil => simp [List.intercalate]
  | cons a rest ih =>
    cases rest with
    | nil =>
      simp [List.intercalate]
      omega
    | cons b more =>
      simp only [List.intercalate,List.cons_append,List.intersperse_cons_cons,List.flatten_cons,List.length_append,
        List.length_cons,List.nil_append,reduceCtorEq,if_false] at ih ⊢
      omega

variable {limits}

theorem withinDone {s : Framer} (bounded : Bounded limits s) : Within limits (.done s) :=
  ⟨by simpa [Fed.done] using bounded,by rintro _ ⟨⟩; exact bounded⟩

theorem withinRaise (e : FramingError) : Within limits (.raise e) := ⟨by simp [Fed.raise],by rintro _ ⟨⟩⟩

theorem withinEmit {event : ParsedEvent} {s : Framer} (bounded : Bounded limits s) : Within limits (.emit event s) :=
  ⟨by simpa [Fed.emit] using bounded,by rintro _ ⟨⟩; exact bounded⟩

theorem withinNone {s : Framer} (bounded : Bounded limits s) : Within limits ⟨[],[],.ok s⟩ :=
  ⟨by simp,by rintro _ ⟨⟩; exact bounded⟩

theorem withinThen {a : Fed} {f : Framer → Fed} (first : Within limits a) (next : Keeps limits f) :
    Within limits (a.andThen f) := by
  unfold Fed.andThen
  split
  · exact first
  · next s ended =>
    have later := next s (first.result s ended)
    refine ⟨?_,later.result⟩
    intro t mem
    obtain mem | mem := List.mem_append.mp mem
    · exact first.visited t mem
    · exact later.visited t mem

theorem resetBounded {s : Framer} (h : Bounded limits s) (n : Nat) :
    Bounded limits (resetEvent { s with eventsEmitted := n }) where
  line := h.line
  frame := Nat.zero_le _
  joined := Nat.zero_le _
  counted := rfl
  segments := Nat.zero_le _
  mostLine := h.mostLine
  mostFrame := h.mostFrame
  mostJoined := h.mostJoined
  mostSegments := h.mostSegments

theorem dispatchKeeps : Keeps limits (dispatchEvent parseFloat) := by
  intro s h
  unfold dispatchEvent
  split
  · exact withinDone (resetBounded h s.eventsEmitted)
  · split
    · exact withinRaise _
    · exact withinEmit (resetBounded h _)

theorem retainKeeps (segment : Bytes) (n : Nat) : Keeps limits (retainSegment limits segment n) := by
  intro s h
  unfold retainSegment
  split
  · exact withinRaise _
  · split
    · exact withinRaise _
    · next short small =>
      have line : (s.line ++ segment).length ≤ limits.maxLineBytes := by
        rw [List.length_append]
        omega
      exact withinDone ⟨line,by dsimp only; omega,h.joined,h.counted,h.segments,Nat.max_le.mpr ⟨h.mostLine,line⟩,
        Nat.max_le.mpr ⟨h.mostFrame,by omega⟩,h.mostJoined,h.mostSegments⟩

theorem keepDataKeeps (value : Bytes) : Keeps limits (keepData limits value) := by
  intro s h
  unfold keepData
  split
  · exact withinRaise _
  · next few =>
    dsimp only
    by_cases large : limits.maxJoinedDataBytes <
        s.joinedDataBytes + value.length + if s.dataSegments = [] then 0 else 1
    · rw [if_pos large]
      exact withinRaise _
    · rw [if_neg large]
      have counted := intercalateLength s.dataSegments value
      rw [h.counted] at counted
      have segments : (s.dataSegments ++ [value]).length ≤ limits.maxDataSegments := by
        rw [List.length_append,List.length_singleton]
        omega
      exact withinDone ⟨h.line,h.frame,by dsimp only; omega,counted,segments,h.mostLine,h.mostFrame,
        Nat.max_le.mpr ⟨h.mostJoined,by omega⟩,Nat.max_le.mpr ⟨h.mostSegments,segments⟩⟩

theorem completeKeeps : Keeps limits (completeLine parseFloat limits) := by
  intro s h
  have cleared : Bounded limits { s with line := [] } :=
    ⟨Nat.zero_le _,h.frame,h.joined,h.counted,h.segments,h.mostLine,h.mostFrame,h.mostJoined,h.mostSegments⟩
  unfold completeLine
  dsimp only
  split
  · exact withinRaise _
  · split
    · exact dispatchKeeps parseFloat _ cleared
    · split
      · exact withinDone cleared
      · exact keepDataKeeps _ _ cleared

theorem feedLinesKeeps (lines : List Bytes) : Keeps limits (feedLines parseFloat limits lines) := by
  induction lines with
  | nil => exact fun s h => withinNone h
  | cons line rest ih =>
    intro s h
    exact withinThen (withinThen (retainKeeps _ _ s h) (completeKeeps parseFloat)) ih

theorem feedChunkKeeps (chunk : Bytes) : Keeps limits (feedChunk parseFloat limits chunk) := by
  intro s h
  refine withinThen (feedLinesKeeps parseFloat _ s h) fun s' h' => ?_
  split
  · exact withinNone h'
  · exact retainKeeps _ _ s' h'

theorem feedChunksKeeps (chunks : List Bytes) : Keeps limits (feedChunks parseFloat limits chunks) := by
  induction chunks with
  | nil => exact fun s h => withinNone h
  | cons chunk rest ih => exact fun s h => withinThen (feedChunkKeeps parseFloat chunk s h) ih

theorem finishKeeps : Keeps limits (finishAtEof parseFloat limits) := by
  intro s h
  unfold finishAtEof
  split
  · exact dispatchKeeps parseFloat s h
  · exact withinThen (completeKeeps parseFloat s h) (dispatchKeeps parseFloat)

theorem iterEventsWithin (chunks : List Bytes) : Within limits (iterEvents parseFloat limits chunks) := by
  have start : Bounded limits {} := by
    constructor <;> simp [List.intercalate]
  exact withinThen (feedChunksKeeps parseFloat chunks _ start) (finishKeeps parseFloat)

end Bounds

section Grammar
variable (parseFloat : Text → Document) (limits : Limits)

-- A line ends at a line feed or at the end of the input and loses one trailing carriage return.
def streamLines (stream : Bytes) : List Bytes :=
  ((cutLines stream).1 ++ if (cutLines stream).2 = [] then [] else [(cutLines stream).2]).map withoutReturn

def dataField (line : Bytes) : Option Bytes := if dataMark.isPrefixOf line then some (dataValue line) else none

def frames (lines : List Bytes) : List (List Bytes) :=
  ((lines.splitOnP (·.isEmpty)).map (·.filterMap dataField)).filter (· ≠ [])

def grammarEvents (stream : Bytes) : Option (List ParsedEvent) :=
  (frames (streamLines stream)).mapM fun segments => (readEvent parseFloat ([10].intercalate segments)).toOption

-- The grammar line by line: the frames that end so far, and the segments of the open one.
def advance (pending : List Bytes) (line : Bytes) : List (List Bytes) × List Bytes :=
  if line = [] then (if pending = [] then [] else [pending],[])
  else ([],pending ++ (dataField line).toList)

def advanceAll : List Bytes → List Bytes → List (List Bytes) × List Bytes
  | pending,[] => ([],pending)
  | pending,line :: rest =>
    let (ended,open') := advance pending line
    let (later,last) := advanceAll open' rest
    (ended ++ later,last)

theorem advanceAppend (pending : List Bytes) (a b : List Bytes) :
    advanceAll pending (a ++ b) =
      ((advanceAll pending a).1 ++ (advanceAll (advanceAll pending a).2 b).1,
        (advanceAll (advanceAll pending a).2 b).2) := by
  induction a generalizing pending with
  | nil => simp [advanceAll]
  | cons line rest ih => simp [advanceAll,ih]

theorem advanceFrames (pending : List Bytes) (lines : List Bytes) :
    (advanceAll pending (lines ++ [[]])).1 =
      ((((lines.splitOnP (·.isEmpty)).map (·.filterMap dataField)).modifyHead (pending ++ ·)).filter (· ≠ [])) := by
  induction lines generalizing pending with
  | nil =>
    by_cases none : pending = [] <;> simp [advanceAll,advance,none]
  | cons line rest ih =>
    obtain ⟨first,others,shape⟩ := List.exists_cons_of_ne_nil (List.splitOnP_ne_nil (fun l : Bytes => l.isEmpty) rest)
    rw [List.splitOnP_cons_eq_if_modifyHead,List.cons_append,advanceAll]
    by_cases blank : line = []
    · subst blank
      have later := ih []
      rw [shape] at later
      simp only [advance,if_true,List.isEmpty_nil]
      rw [later,shape]
      by_cases none : pending = [] <;> simp [none]
    · have later := ih (pending ++ (dataField line).toList)
      have full : line.isEmpty = false := by simpa using blank
      simp only [advance,if_neg blank,full,Bool.false_eq_true,if_false,List.nil_append]
      rw [later,shape]
      cases field : dataField line <;> simp [field]

def Parses (found : List (List Bytes)) (events : List ParsedEvent) : Prop :=
  (found.mapM fun segments => (readEvent parseFloat ([10].intercalate segments)).toOption) = some events

variable {parseFloat limits}

theorem parsesAppend {a b : List (List Bytes)} {x y : List ParsedEvent} (first : Parses parseFloat a x)
    (second : Parses parseFloat b y) : Parses parseFloat (a ++ b) (x ++ y) := by
  unfold Parses at *
  rw [List.mapM_append,first,second]
  rfl

theorem dispatchMeans {s s' : Framer} (ended : (dispatchEvent parseFloat s).result = .ok s') :
    Parses parseFloat (advance s.dataSegments []).1 (dispatchEvent parseFloat s).events ∧
      s'.dataSegments = [] ∧ s'.line = s.line := by
  unfold dispatchEvent at ended ⊢
  split at ended
  · next none =>
    cases ended
    simp [advance,none,Parses,Fed.done,resetEvent]
  · next some =>
    rw [if_neg some]
    cases read : readEvent parseFloat ([10].intercalate s.dataSegments) with
    | error e => simp [read,Fed.raise] at ended
    | ok event =>
      rw [read] at ended
      cases ended
      simp [advance,some,Parses,Fed.emit,resetEvent,read,Except.toOption]

theorem completeMeans {s s' : Framer} (ended : (completeLine parseFloat limits s).result = .ok s') :
    Parses parseFloat (advance s.dataSegments (withoutReturn s.line)).1 (completeLine parseFloat limits s).events ∧
      s'.dataSegments = (advance s.dataSegments (withoutReturn s.line)).2 ∧ s'.line = [] := by
  unfold completeLine at ended ⊢
  dsimp only at ended ⊢
  split at ended
  · cases ended
  · next valid =>
    rw [if_neg valid]
    by_cases blank : withoutReturn s.line = []
    · rw [if_pos blank] at ended ⊢
      obtain ⟨parses,empty,line⟩ := dispatchMeans ended
      rw [blank]
      exact ⟨parses,by rw [empty]; rfl,line⟩
    · rw [if_neg blank] at ended ⊢
      by_cases other : ((withoutReturn s.line).head? = some 58 || !dataMark.isPrefixOf (withoutReturn s.line)) = true
      · rw [if_pos other] at ended ⊢
        cases ended
        have unmarked : dataField (withoutReturn s.line) = none := by
          unfold dataField
          rw [if_neg]
          intro marked
          obtain ⟨rest,shape⟩ := List.isPrefixOf_iff_prefix.mp marked
          simp [← shape,dataMark] at other
        simp [advance,blank,unmarked,Parses,Fed.done]
      · rw [if_neg other] at ended ⊢
        have marked : dataField (withoutReturn s.line) = some (dataValue (withoutReturn s.line)) := by
          unfold dataField
          rw [if_pos]
          simp only [Bool.or_eq_true,Bool.not_eq_true',not_or,Bool.not_eq_false] at other
          exact other.2
        unfold keepData at ended ⊢
        split at ended
        · cases ended
        · next few =>
          rw [if_neg few]
          dsimp only at ended ⊢
          by_cases large : limits.maxJoinedDataBytes < s.joinedDataBytes + (dataValue (withoutReturn s.line)).length +
              if s.dataSegments = [] then 0 else 1
          · rw [if_pos large] at ended
            cases ended
          · rw [if_neg large] at ended ⊢
            cases ended
            simp [advance,blank,marked,Parses,Fed.done]

theorem thenMeans {a : Fed} {f : Framer → Fed} {s' : Framer} (ended : (a.andThen f).result = .ok s') :
    ∃ s, a.result = .ok s ∧ (f s).result = .ok s' ∧ (a.andThen f).events = a.events ++ (f s).events := by
  unfold Fed.andThen at ended ⊢
  cases first : a.result with
  | error e => simp [first] at ended
  | ok s => exact ⟨s,rfl,by simpa [first] using ended,rfl⟩

theorem retainMeans {segment : Bytes} {n : Nat} {s s' : Framer}
    (ended : (retainSegment limits segment n s).result = .ok s') :
    s'.line = s.line ++ segment ∧ s'.dataSegments = s.dataSegments ∧
      (retainSegment limits segment n s).events = [] := by
  unfold retainSegment at ended ⊢
  split at ended
  · cases ended
  · next short =>
    split at ended
    · cases ended
    · next small =>
      rw [if_neg short,if_neg small]
      cases ended
      exact ⟨rfl,rfl,rfl⟩

theorem feedLinesMeans (lines : List Bytes) {s s' : Framer} (clear : s.line = [])
    (ended : (feedLines parseFloat limits lines s).result = .ok s') :
    Parses parseFloat (advanceAll s.dataSegments (lines.map withoutReturn)).1
        (feedLines parseFloat limits lines s).events ∧
      s'.dataSegments = (advanceAll s.dataSegments (lines.map withoutReturn)).2 ∧ s'.line = [] := by
  induction lines generalizing s with
  | nil =>
    cases ended
    exact ⟨rfl,rfl,clear⟩
  | cons line rest ih =>
    rw [feedLines] at ended ⊢
    obtain ⟨s₂,first,last,events⟩ := thenMeans ended
    obtain ⟨s₁,kept,completed,events'⟩ := thenMeans first
    obtain ⟨held,same,silent⟩ := retainMeans kept
    obtain ⟨parses,pending,emptied⟩ := completeMeans completed
    rw [clear,List.nil_append] at held
    rw [held,same] at parses pending
    obtain ⟨later,final,blank⟩ := ih emptied last
    rw [pending] at later final
    rw [events,events',silent,List.nil_append]
    exact ⟨parsesAppend parses later,final,blank⟩

theorem finishMeans {s s' : Framer} (ended : (finishAtEof parseFloat limits s).result = .ok s') :
    Parses parseFloat (advanceAll s.dataSegments
        ((if s.line = [] then [] else [withoutReturn s.line]) ++ [[]])).1 (finishAtEof parseFloat limits s).events := by
  unfold finishAtEof at ended ⊢
  by_cases clear : s.line = []
  · rw [if_pos clear] at ended
    rw [if_pos clear,if_pos clear]
    simpa [advanceAll] using (dispatchMeans ended).1
  · rw [if_neg clear] at ended
    rw [if_neg clear,if_neg clear]
    obtain ⟨s₁,completed,last,events⟩ := thenMeans ended
    obtain ⟨parses,pending,_⟩ := completeMeans completed
    have final := (dispatchMeans last).1
    rw [pending] at final
    rw [events,List.singleton_append]
    simpa [advanceAll] using parsesAppend parses final

theorem tailMeans {tail : Bytes} {s s' : Framer} (clear : s.line = [])
    (ended : (if tail = [] then (⟨[],[],.ok s⟩ : Fed) else retainSegment limits tail tail.length s).result = .ok s') :
    s'.line = tail ∧ s'.dataSegments = s.dataSegments ∧
      (if tail = [] then (⟨[],[],.ok s⟩ : Fed) else retainSegment limits tail tail.length s).events = [] := by
  by_cases none : tail = []
  · rw [if_pos none] at ended ⊢
    cases ended
    exact ⟨by rw [clear,none],rfl,rfl⟩
  · rw [if_neg none] at ended ⊢
    have facts := retainMeans ended
    rwa [clear,List.nil_append] at facts

theorem wholeMeans {stream : Bytes} {s' : Framer} (ended : (iterEvents parseFloat limits [stream]).result = .ok s') :
    grammarEvents parseFloat stream = some (iterEvents parseFloat limits [stream]).events := by
  unfold iterEvents at ended ⊢
  have single : feedChunks parseFloat limits [stream] {} = feedChunk parseFloat limits stream {} := thenNone _
  rw [single] at ended ⊢
  obtain ⟨s₂,fed,finished,events⟩ := thenMeans ended
  obtain ⟨s₁,lines,tail,events'⟩ := thenMeans fed
  obtain ⟨parses,pending,clear⟩ := feedLinesMeans _ rfl lines
  obtain ⟨held,same,silent⟩ := tailMeans clear tail
  have final := finishMeans finished
  rw [held,same,pending] at final
  have whole := parsesAppend parses final
  have linesSplit : (cutLines stream).1.map withoutReturn ++
      ((if (cutLines stream).2 = [] then [] else [withoutReturn (cutLines stream).2]) ++ [[]]) =
      streamLines stream ++ [[]] := by
    unfold streamLines
    split <;> simp
  have joined := advanceAppend [] ((cutLines stream).1.map withoutReturn)
    ((if (cutLines stream).2 = [] then [] else [withoutReturn (cutLines stream).2]) ++ [[]])
  rw [linesSplit] at joined
  have found : frames (streamLines stream) = (advanceAll [] (streamLines stream ++ [[]])).1 := by
    rw [advanceFrames,frames]
    congr 1
    cases (List.map (List.filterMap dataField) (List.splitOnP List.isEmpty (streamLines stream))) <;> rfl
  have emitted : (feedChunk parseFloat limits stream {}).events =
      (feedLines parseFloat limits (cutLines stream).1 {}).events := by
    rw [silent,List.append_nil] at events'
    exact events'
  unfold grammarEvents
  rw [found,joined,events,emitted]
  exact whole

end Grammar

theorem framingChunkIndependent (parseFloat : Text → Document) (limits : Limits) (chunks : List Bytes) :
    (iterEvents parseFloat limits chunks).events = (iterEvents parseFloat limits [chunks.flatten]).events ∧
    ((iterEvents parseFloat limits chunks).result.isOk =
      (iterEvents parseFloat limits [chunks.flatten]).result.isOk) ∧
    ((iterEvents parseFloat limits chunks).result.isOk →
      grammarEvents parseFloat chunks.flatten = some (iterEvents parseFloat limits chunks).events) ∧
    ∀ s ∈ (iterEvents parseFloat limits chunks).visited, Bounded limits s := by
  have cut := iterEventsBytes parseFloat limits chunks
  have whole := iterEventsBytes parseFloat limits [chunks.flatten]
  rw [List.flatten_singleton] at whole
  obtain ⟨events,result⟩ := sameTrans cut (sameSymm whole)
  have outcome : (iterEvents parseFloat limits chunks).result.isOk =
      (iterEvents parseFloat limits [chunks.flatten]).result.isOk := by
    revert result
    cases (iterEvents parseFloat limits chunks).result <;>
      cases (iterEvents parseFloat limits [chunks.flatten]).result <;>
      simp [Except.toOption,Except.isOk,Except.toBool]
  refine ⟨events,outcome,?_,(iterEventsWithin parseFloat chunks).visited⟩
  intro success
  rw [outcome] at success
  rw [events]
  cases ended : (iterEvents parseFloat limits [chunks.flatten]).result with
  | error e => simp [ended,Except.isOk,Except.toBool] at success
  | ok s => exact wholeMeans ended

end SlaifGateway.LocalCoding
