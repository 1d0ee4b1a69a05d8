import SlaifGateway.LocalCoding.CodecStream

/-! Whole runs of the codec. The invariant ties the state of each call to the events the client
has seen of it: one step lemma from the effects, then induction over the native stream. -/
namespace SlaifGateway.LocalCoding
open Library

section Chunks

theorem chunksFlatten (fuel : Nat) (value : Text) (enough : value.length ≤ fuel) :
    (chunks fuel value).flatten = value := by
  induction fuel generalizing value with
  | zero =>
    have empty : value = [] := List.length_eq_zero_iff.mp (Nat.le_zero.mp enough)
    rw [empty]
    rfl
  | succ fuel ih =>
    rw [chunks]
    split
    · next empty =>
      rw [empty]
      rfl
    · next full =>
      have positive : 0 < value.length := List.length_pos_iff.mpr full
      have rest : (value.drop chunkLength).length ≤ fuel := by
        rw [List.length_drop,chunkLength]
        omega
      rw [List.flatten_cons,ih _ rest,List.take_append_drop]

theorem chunksBounded {fuel : Nat} {value part : Text} (mem : part ∈ chunks fuel value) :
    part.length ≤ chunkLength ∧ ∀ c ∈ part, c ∈ value := by
  induction fuel generalizing value with
  | zero => cases mem
  | succ fuel ih =>
    rw [chunks] at mem
    split at mem
    · cases mem
    · rcases List.mem_cons.mp mem with rfl | later
      · exact ⟨by rw [List.length_take]; exact Nat.min_le_left _ _,fun c inside => List.mem_of_mem_take inside⟩
      · obtain ⟨short,inside⟩ := ih later
        exact ⟨short,fun c held => List.mem_of_mem_drop (inside c held)⟩

theorem encodePointShort {c : CodePoint} {bytes : List UInt8} (encoded : encodePoint c = some bytes) :
    bytes.length ≤ 4 := by
  unfold encodePoint at encoded
  split_ifs at encoded <;> cases encoded <;> simp

theorem encodeShort {t : Text} {bytes : List UInt8} (encoded : encode t = some bytes) :
    bytes.length ≤ 4 * t.length := by
  induction t generalizing bytes with
  | nil =>
    cases encoded
    exact Nat.le_refl _
  | cons c rest ih =>
    obtain ⟨head,first,encoded⟩ := Option.bind_eq_some_iff.mp encoded
    obtain ⟨tail,second,encoded⟩ := Option.bind_eq_some_iff.mp encoded
    cases encoded
    have here := encodePointShort first
    have later := ih second
    rw [List.length_append,List.length_cons]
    omega

theorem chunksSmall {fuel : Nat} {value : Text} (plain : (encode value).isSome) :
    ∀ part ∈ chunks fuel value, Small part := by
  intro part mem
  obtain ⟨short,inside⟩ := chunksBounded mem
  have encodable : (encode part).isSome :=
    encodeIsSome.mpr fun c held => encodeIsSome.mp plain c (inside c held)
  obtain ⟨bytes,encoded⟩ := Option.isSome_iff_exists.mp encodable
  have bound := encodeShort encoded
  rw [chunkLength] at short
  exact ⟨bytes,encoded,by rw [maxDeltaBytes]; omega⟩

theorem jsonInputMeans {arguments value : Text} (read : jsonInput arguments = .ok value) :
    JsonText.loads uniqueHooks arguments = some (.obj [(text "input",.str value)]) ∧ (encode value).isSome := by
  unfold jsonInput at read
  split at read
  · cases read
  · next decoded loaded =>
    obtain ⟨input,held,read⟩ := okBind read
    obtain ⟨bytes,sized,read⟩ := okBind read
    obtain ⟨_,_,read⟩ := okBind read
    cases read
    obtain ⟨encoded,isEncoded,_⟩ := sizeMeans sized
    refine ⟨?_,by rw [isEncoded]; rfl⟩
    unfold inputOf at held
    split at held
    · split at held
      · next same =>
        cases held
        rw [loaded,same]
      · cases held
    · cases held

end Chunks

section Calls
variable {calls : List (Text × Call)} {id : Text} {c c' : Call}

theorem heldUnique (keys : (calls.map Prod.fst).Nodup) (held : calls.lookup id = some c) {entry : Text × Call}
    (mem : entry ∈ calls) (same : entry.1 = id) : entry = (id,c) :=
  List.inj_on_of_nodup_map keys mem (lookupMem held) same

theorem setCallMem {entry : Text × Call} (mem : entry ∈ setCall calls id c') :
    entry = (id,c') ∨ entry ∈ calls ∧ entry.1 ≠ id := by
  obtain ⟨old,here,rfl⟩ := List.mem_map.mp mem
  by_cases same : old.1 = id
  · rw [if_pos same]
    exact .inl rfl
  · rw [if_neg same]
    exact .inr ⟨here,same⟩

theorem setCallKeys : (setCall calls id c').map Prod.fst = calls.map Prod.fst := by
  rw [setCall,List.map_map]
  apply List.map_congr_left
  intro entry _
  by_cases same : entry.1 = id
  · simp [same]
  · simp [same]

theorem setCallIndices (keys : (calls.map Prod.fst).Nodup) (held : calls.lookup id = some c)
    (index : c'.index = c.index) :
    (setCall calls id c').map (fun entry => entry.2.index) = calls.map fun entry => entry.2.index := by
  rw [setCall,List.map_map]
  apply List.map_congr_left
  intro entry mem
  by_cases same : entry.1 = id
  · have here := heldUnique keys held mem same
    simp [here,index]
  · simp [same]

end Calls

section Traces

def parts (kind : Kind) (deltas : List Text) : List CallEvent := deltas.map fun part => .delta kind (some part)

def opening (c : Call) : CallEvent := .added (some c.index) (some c.callId) c.kind

-- A custom call ends with its last input delta.
def doneMark : Kind → List CallEvent
  | .function => [.argumentsDone .function]
  | .custom => []

def closing (c : Call) (payload : Text) : List CallEvent :=
  if c.closed then [.closed (some c.index) (some c.callId) c.kind (some payload)] else []

def published (c : Call) : List Text :=
  match c.kind with
  | .function => c.deltas
  | .custom => []

-- What the client has seen of a call in the given state.
inductive Traced (c : Call) : List CallEvent → Prop
  | running (live : c.done = false) (unclosed : c.closed = false) (small : ∀ part ∈ c.deltas, Small part) :
      Traced c (opening c :: parts c.kind (published c))
  | ended {deltas payload} (done : c.done = true) (paid : Payload c payload) (whole : deltas.flatten = payload)
      (small : ∀ part ∈ deltas, Small part) :
      Traced c (opening c :: (parts c.kind deltas ++ doneMark c.kind ++ closing c payload))

def OnlyOf (id : Text) (out : List Fields) : Prop :=
  ∀ event ∈ out, ∀ said, callEvent event = some said → said.1 = some id

theorem onlyOfSingle {id : Text} {event : Fields} {said : CallEvent} (spoken : callEvent event = some (some id,said)) :
    OnlyOf id [event] := by
  intro e mem s given
  rw [List.mem_singleton.mp mem,spoken] at given
  cases given
  rfl

theorem onlyOfOther {id other : Text} {out : List Fields} (only : OnlyOf id out) (apart : other ≠ id) :
    callEvents other out = [] := by
  rw [callEvents,List.filterMap_eq_nil_iff]
  intro event mem
  cases spoken : callEvent event with
  | none => rfl
  | some said =>
    have whose := only event mem said spoken
    rw [Option.bind_some,whose,if_neg]
    intro same
    exact apart (Option.some.inj same).symm

structure Rewrites (native : Fields) (id : Text) (c c' : Call) (more : List CallEvent) : Prop where
  name : c'.name = c.name
  index : c'.index = c.index
  kind : c'.kind = c.kind
  follows : ∀ before, Traced c before → Traced c' (before ++ more)
  closes : ∀ before, Traced c before → c'.closed = true →
    c.closed = true ∧ c'.arguments = c.arguments ∨ NativeCloses native id c'.arguments

inductive Change (tools : List (Text × Declaration)) (calls : List (Text × Call)) (native : Fields) :
    List (Text × Call) → List Fields → Prop
  | none {out} (silent : ∀ event ∈ out, callEvent event = none) : Change tools calls native calls out
  | opened {id c out} (fresh : Fresh tools calls id c) (only : OnlyOf id out) (traced : Traced c (callEvents id out)) :
      Change tools calls native (calls ++ [(id,c)]) out
  | moved {id c c' out} (held : calls.lookup id = some c) (only : OnlyOf id out)
      (rewrites : Rewrites native id c c' (callEvents id out)) : Change tools calls native (setCall calls id c') out

theorem tracedLive {c : Call} {seen : List CallEvent} (traced : Traced c seen) (live : c.done = false) :
    seen = opening c :: parts c.kind (published c) ∧ c.closed = false ∧ ∀ part ∈ c.deltas, Small part := by
  cases traced with
  | running _ unclosed small => exact ⟨rfl,unclosed,small⟩
  | ended done _ _ _ => rw [live] at done; cases done

theorem callEventsOwn {id : Text} {out : List Fields} {said : List CallEvent}
    (spoken : out.map callEvent = said.map fun s => some (some id,s)) : callEvents id out = said := by
  induction out generalizing said with
  | nil =>
    cases said with
    | nil => rfl
    | cons s rest => cases spoken
  | cons event out ih =>
    cases said with
    | nil => cases spoken
    | cons s rest =>
      rw [List.map_cons,List.map_cons,List.cons.injEq] at spoken
      have tail := ih spoken.2
      rw [callEvents] at tail ⊢
      rw [List.filterMap_cons,spoken.1,Option.bind_some,if_pos rfl,tail]

theorem onlyOfOwn {id : Text} {out : List Fields} {said : List CallEvent}
    (spoken : out.map callEvent = said.map fun s => some (some id,s)) : OnlyOf id out := by
  intro event mem s given
  have inside : callEvent event ∈ said.map fun s => some (some id,s) := by
    rw [← spoken]
    exact List.mem_map_of_mem mem
  obtain ⟨t,_,same⟩ := List.mem_map.mp inside
  rw [given] at same
  cases same
  rfl

end Traces

section Changes
variable {tools : List (Text × Declaration)} {calls calls' : List (Text × Call)} {native : Fields} {out : List Fields}

theorem partsAppend (kind : Kind) (a b : List Text) : parts kind (a ++ b) = parts kind a ++ parts kind b := by
  rw [parts,List.map_append]
  rfl

theorem publishedFunction {c : Call} (kind : c.kind = .function) : published c = c.deltas := by
  rw [published,kind]

theorem publishedCustom {c : Call} (kind : c.kind = .custom) : published c = [] := by
  rw [published,kind]

theorem functionDeltaRewrites {id : Text} {c : Call} {part : Text} {n : Nat} (live : c.done = false)
    (kind : c.kind = .function) (small : Small part) :
    Rewrites native id c { c with argumentBytes := n, deltas := c.deltas ++ [part] } [.delta .function (some part)] := by
  refine ⟨rfl,rfl,rfl,?_,fun _ _ closed => .inl ⟨closed,rfl⟩⟩
  intro before traced
  obtain ⟨rfl,unclosed,smalls⟩ := tracedLive traced live
  have grown : opening c :: parts c.kind (published c) ++ [.delta .function (some part)] =
      opening { c with argumentBytes := n, deltas := c.deltas ++ [part] } ::
        parts c.kind (published { c with argumentBytes := n, deltas := c.deltas ++ [part] }) := by
    rw [publishedFunction kind,publishedFunction (by exact kind),partsAppend,parts.eq_def _ [part],kind]
    simp [opening,kind]
  rw [grown]
  refine .running live unclosed ?_
  intro p mem
  rcases List.mem_append.mp mem with old | new
  · exact smalls p old
  · rw [List.mem_singleton.mp new]
    exact small

theorem customDeltaRewrites {id : Text} {c : Call} {part : Text} {n : Nat} (live : c.done = false)
    (kind : c.kind = .custom) (small : Small part) :
    Rewrites native id c { c with argumentBytes := n, deltas := c.deltas ++ [part] } [] := by
  refine ⟨rfl,rfl,rfl,?_,fun _ _ closed => .inl ⟨closed,rfl⟩⟩
  intro before traced
  obtain ⟨rfl,unclosed,smalls⟩ := tracedLive traced live
  have same : opening c :: parts c.kind (published c) ++ [] =
      opening { c with argumentBytes := n, deltas := c.deltas ++ [part] } ::
        parts c.kind (published { c with argumentBytes := n, deltas := c.deltas ++ [part] }) := by
    rw [publishedCustom kind,publishedCustom (by exact kind),List.append_nil]
    rfl
  rw [same]
  refine .running live unclosed ?_
  intro p mem
  rcases List.mem_append.mp mem with old | new
  · exact smalls p old
  · rw [List.mem_singleton.mp new]
    exact small

theorem doneRewrites {id : Text} {c : Call} {more : List Text} {payload : Text} (live : c.done = false)
    (paid : Payload { c with arguments := c.deltas.flatten, deltas := [], done := true } payload)
    (whole : (published c ++ more).flatten = payload) (small : ∀ part ∈ more, Small part) :
    Rewrites native id c { c with arguments := c.deltas.flatten, deltas := [], done := true }
      (parts c.kind more ++ doneMark c.kind) := by
  refine ⟨rfl,rfl,rfl,?_,?_⟩
  · intro before traced
    obtain ⟨rfl,unclosed,smalls⟩ := tracedLive traced live
    have shape : opening c :: parts c.kind (published c) ++ (parts c.kind more ++ doneMark c.kind) =
        opening { c with arguments := c.deltas.flatten, deltas := [], done := true } ::
          (parts c.kind (published c ++ more) ++ doneMark c.kind ++
            closing { c with arguments := c.deltas.flatten, deltas := [], done := true } payload) := by
      rw [closing,if_neg (by simp [unclosed]),partsAppend,List.append_nil,List.cons_append,List.append_assoc]
      rfl
    rw [shape]
    refine .ended rfl paid whole ?_
    intro part mem
    rcases List.mem_append.mp mem with old | new
    · have kept : part ∈ c.deltas := by
        unfold published at old
        split at old
        · exact old
        · cases old
      exact smalls part kept
    · exact small part new
  · intro before traced closed
    obtain ⟨_,unclosed,_⟩ := tracedLive traced live
    rw [unclosed] at closed
    cases closed

theorem closedRewrites {id : Text} {c : Call} {payload : Text} (done : c.done = true) (unclosed : c.closed = false)
    (paid : Payload c payload) (closes : NativeCloses native id c.arguments) :
    Rewrites native id c { c with closed := true }
      [.closed (some c.index) (some c.callId) c.kind (some payload)] := by
  refine ⟨rfl,rfl,rfl,?_,fun _ _ _ => .inr closes⟩
  intro before traced
  cases traced with
  | running live _ _ =>
    rw [done] at live
    cases live
  | @ended deltas other _ otherPaid whole small =>
    have same : other = payload := by
      unfold Payload at paid otherPaid
      split at paid
      · next kind =>
        rw [kind] at otherPaid
        exact otherPaid.trans paid.symm
      · next kind =>
        rw [kind] at otherPaid
        exact Except.ok.inj (otherPaid.symm.trans paid)
    subst same
    have shape : opening c :: (parts c.kind deltas ++ doneMark c.kind ++ closing c other) ++
        [.closed (some c.index) (some c.callId) c.kind (some other)] =
        opening { c with closed := true } :: (parts c.kind deltas ++ doneMark c.kind ++
          closing { c with closed := true } other) := by
      rw [closing,if_neg (by simp [unclosed]),closing,if_pos rfl,List.append_nil]
      rfl
    rw [shape]
    exact .ended done paid whole small

theorem effectChanges (effect : Effect tools calls native calls' out) : Change tools calls native calls' out := by
  cases effect with
  | quiet silent =>
    refine .none ?_
    intro event mem
    rw [List.mem_singleton.mp mem]
    exact silent
  | @added id c event fresh spoken =>
    refine .opened fresh (onlyOfSingle spoken) ?_
    rw [callEventsSingle spoken,if_pos rfl]
    obtain ⟨empty,live,unclosed⟩ := fresh.blank
    have shape : [CallEvent.added (some c.index) (some c.callId) c.kind] = opening c :: parts c.kind (published c) := by
      have none : published c = [] := by
        unfold published
        split
        · exact empty
        · rfl
      rw [none]
      rfl
    rw [shape]
    exact .running live unclosed (by simp [empty])
  | closed held done unclosed paid closes spoken =>
    refine .moved held (onlyOfSingle spoken) ?_
    rw [callEventsSingle spoken,if_pos rfl]
    exact closedRewrites done unclosed paid closes
  | functionDelta held live kind small spoken =>
    refine .moved held (onlyOfSingle spoken) ?_
    rw [callEventsSingle spoken,if_pos rfl]
    exact functionDeltaRewrites live kind small
  | customDelta held live kind small =>
    exact .moved held (by simp [OnlyOf]) (customDeltaRewrites live kind small)
  | @functionDone id c event held live kind spoken =>
    refine .moved held (onlyOfSingle spoken) ?_
    rw [callEventsSingle spoken,if_pos rfl]
    have marks := @doneRewrites native id c [] c.deltas.flatten live (by simp [Payload,kind])
      (by rw [publishedFunction kind,List.append_nil]) (by simp)
    have shape : parts c.kind [] ++ doneMark c.kind = [.argumentsDone .function] := by
      rw [kind]
      rfl
    rwa [shape] at marks
  | @customDone id c value events held live kind read spoken =>
    have own : out.map callEvent = (parts .custom (chunks value.length value)).map fun s => some (some id,s) := by
      rw [spoken,parts,List.map_map]
      rfl
    refine .moved held (onlyOfOwn own) ?_
    rw [callEventsOwn own]
    have encodable := (jsonInputMeans read).2
    have marks := @doneRewrites native id c (chunks value.length value) value live
      (by simpa [Payload,kind] using read)
      (by rw [publishedCustom kind,List.nil_append,chunksFlatten _ _ (Nat.le_refl _)]) (chunksSmall encodable)
    have shape : parts c.kind (chunks value.length value) ++ doneMark c.kind =
        parts .custom (chunks value.length value) := by
      rw [kind,doneMark,List.append_nil]
    rwa [shape] at marks

end Changes

section Runs

structure Simulates (codec : Codec) (natives out : List Fields) : Prop where
  next : out.length = codec.outSequence
  numbered : ∀ (k : Nat) (event : Fields), out[k]? = some event → event.get (text "sequence_number") = .int (k : Int)
  keys : (codec.calls.map Prod.fst).Nodup
  indices : (codec.calls.map fun entry => entry.2.index).Nodup
  ranged : ∀ entry ∈ codec.calls, 0 ≤ entry.2.index ∧ entry.2.index < maxToolItems
  known : Known codec.tools codec.calls
  traced : ∀ entry ∈ codec.calls, Traced entry.2 (callEvents entry.1 out)
  others : ∀ id, id ∉ codec.calls.map Prod.fst → callEvents id out = []
  identified : ∀ event ∈ out, ∀ said, callEvent event = some said → ∃ id, said.1 = some id
  closes : ∀ entry ∈ codec.calls, entry.2.closed = true →
    ∃ native ∈ natives, NativeCloses native entry.1 entry.2.arguments

variable {codec codec' : Codec} {native : Fields} {natives out more : List Fields}

theorem numbersSimulate (sim : Simulates codec natives out) (numbers : Numbers codec codec' more) :
    (out ++ more).length = codec'.outSequence ∧ ∀ (k : Nat) (event : Fields), (out ++ more)[k]? = some event →
      event.get (text "sequence_number") = .int (k : Int) := by
  refine ⟨by rw [List.length_append,sim.next,numbers.next],?_⟩
  intro k event found
  by_cases old : k < out.length
  · rw [List.getElem?_append_left old] at found
    exact sim.numbered k event found
  · have later : out.length ≤ k := Nat.le_of_not_lt old
    rw [List.getElem?_append_right later] at found
    have count := numbers.numbered _ event found
    have place : codec.outSequence + (k - out.length) = k := by
      rw [sim.next] at later ⊢
      omega
    rw [place] at count
    exact count

theorem onlyIdentified (sim : Simulates codec natives out) {id : Text} (only : OnlyOf id more) :
    ∀ event ∈ out ++ more, ∀ said, callEvent event = some said → ∃ other, said.1 = some other := by
  intro event mem said spoken
  rcases List.mem_append.mp mem with old | new
  · exact sim.identified event old said spoken
  · exact ⟨id,only event new said spoken⟩

theorem closesLater {entry : Text × Call} (held : ∃ native ∈ natives, NativeCloses native entry.1 entry.2.arguments)
    (native : Fields) : ∃ n ∈ natives ++ [native], NativeCloses n entry.1 entry.2.arguments := by
  obtain ⟨n,mem,closes⟩ := held
  exact ⟨n,List.mem_append_left _ mem,closes⟩

theorem noneSimulates (sim : Simulates codec natives out) (numbers : Numbers codec codec' more)
    (same : codec'.calls = codec.calls) (silent : ∀ event ∈ more, callEvent event = none) :
    Simulates codec' (natives ++ [native]) (out ++ more) := by
  obtain ⟨next,numbered⟩ := numbersSimulate sim numbers
  have still : ∀ id, callEvents id (out ++ more) = callEvents id out := by
    intro id
    rw [callEventsAppend,callEventsQuiet silent,List.append_nil]
  refine ⟨next,numbered,?_,?_,?_,?_,?_,?_,?_,?_⟩
  · rw [same]; exact sim.keys
  · rw [same]; exact sim.indices
  · rw [same]; exact sim.ranged
  · rw [same,numbers.tools]; exact sim.known
  · intro entry mem
    rw [same] at mem
    rw [still]
    exact sim.traced entry mem
  · intro id absent
    rw [same] at absent
    rw [still]
    exact sim.others id absent
  · intro event mem said spoken
    rcases List.mem_append.mp mem with old | new
    · exact sim.identified event old said spoken
    · rw [silent event new] at spoken
      cases spoken
  · intro entry mem closed
    rw [same] at mem
    exact closesLater (sim.closes entry mem closed) native

theorem openedSimulates {id : Text} {c : Call} (sim : Simulates codec natives out) (numbers : Numbers codec codec' more)
    (calls : codec'.calls = codec.calls ++ [(id,c)]) (fresh : Fresh codec.tools codec.calls id c) (only : OnlyOf id more)
    (traced : Traced c (callEvents id more)) : Simulates codec' (natives ++ [native]) (out ++ more) := by
  obtain ⟨next,numbered⟩ := numbersSimulate sim numbers
  have before : callEvents id out = [] := sim.others id fresh.absent
  have split : ∀ entry ∈ codec'.calls, entry ∈ codec.calls ∧ entry.1 ≠ id ∨ entry = (id,c) := by
    intro entry mem
    rw [calls] at mem
    rcases List.mem_append.mp mem with old | new
    · exact .inl ⟨old,fun same => fresh.absent (same ▸ List.mem_map_of_mem old)⟩
    · exact .inr (List.mem_singleton.mp new)
  refine ⟨next,numbered,?_,?_,?_,?_,?_,?_,onlyIdentified sim only,?_⟩
  · rw [calls,List.map_append,List.nodup_append]
    refine ⟨sim.keys,by simp,?_⟩
    intro key held other mem
    rw [List.map_singleton,List.mem_singleton] at mem
    rw [mem]
    intro same
    rw [same] at held
    exact fresh.absent held
  · rw [calls,List.map_append,List.nodup_append]
    refine ⟨sim.indices,by simp,?_⟩
    intro index held other mem
    rw [List.map_singleton,List.mem_singleton] at mem
    obtain ⟨entry,inside,rfl⟩ := List.mem_map.mp held
    rw [mem]
    exact fresh.indexed entry inside
  · intro entry mem
    rcases split entry mem with ⟨old,_⟩ | rfl
    · exact sim.ranged entry old
    · exact fresh.ranged
  · intro entry mem
    rw [numbers.tools]
    rcases split entry mem with ⟨old,_⟩ | rfl
    · exact sim.known entry old
    · exact fresh.known
  · intro entry mem
    rw [callEventsAppend]
    rcases split entry mem with ⟨old,apart⟩ | rfl
    · rw [onlyOfOther only apart,List.append_nil]
      exact sim.traced entry old
    · rw [before]
      exact traced
  · intro other absent
    rw [calls,List.map_append,List.mem_append,not_or] at absent
    have apart : other ≠ id := by
      intro same
      exact absent.2 (by simp [same])
    rw [callEventsAppend,onlyOfOther only apart,List.append_nil]
    exact sim.others other absent.1
  · intro entry mem closed
    rcases split entry mem with ⟨old,_⟩ | rfl
    · exact closesLater (sim.closes entry old closed) native
    · rw [fresh.blank.2.2] at closed
      cases closed

theorem movedSimulates {id : Text} {c c' : Call} (sim : Simulates codec natives out) (numbers : Numbers codec codec' more)
    (calls : codec'.calls = setCall codec.calls id c') (held : codec.calls.lookup id = some c) (only : OnlyOf id more)
    (rewrites : Rewrites native id c c' (callEvents id more)) :
    Simulates codec' (natives ++ [native]) (out ++ more) := by
  obtain ⟨next,numbered⟩ := numbersSimulate sim numbers
  have member := lookupMem held
  have split : ∀ entry ∈ codec'.calls, entry = (id,c') ∨ entry ∈ codec.calls ∧ entry.1 ≠ id := by
    intro entry mem
    rw [calls] at mem
    exact setCallMem mem
  refine ⟨next,numbered,?_,?_,?_,?_,?_,?_,onlyIdentified sim only,?_⟩
  · rw [calls,setCallKeys]
    exact sim.keys
  · rw [calls,setCallIndices sim.keys held rewrites.index]
    exact sim.indices
  · intro entry mem
    rcases split entry mem with rfl | ⟨old,_⟩
    · change 0 ≤ c'.index ∧ c'.index < maxToolItems
      rw [rewrites.index]
      exact sim.ranged _ member
    · exact sim.ranged entry old
  · intro entry mem
    rw [numbers.tools]
    rcases split entry mem with rfl | ⟨old,_⟩
    · change ∃ d, codec.tools.lookup c'.name = some d ∧ d.kind = c'.kind
      rw [rewrites.name,rewrites.kind]
      exact sim.known _ member
    · exact sim.known entry old
  · intro entry mem
    rw [callEventsAppend]
    rcases split entry mem with rfl | ⟨old,apart⟩
    · exact rewrites.follows _ (sim.traced _ member)
    · rw [onlyOfOther only apart,List.append_nil]
      exact sim.traced entry old
  · intro other absent
    rw [calls,setCallKeys] at absent
    have apart : other ≠ id := by
      intro same
      exact absent (same ▸ List.mem_map_of_mem member)
    rw [callEventsAppend,onlyOfOther only apart,List.append_nil]
    exact sim.others other absent
  · intro entry mem closed
    rcases split entry mem with rfl | ⟨old,_⟩
    · rcases rewrites.closes _ (sim.traced _ member) closed with ⟨before,same⟩ | here
      · have earlier := closesLater (sim.closes _ member before) native
        change ∃ n ∈ natives ++ [native], NativeCloses n id c'.arguments
        rw [same]
        exact earlier
      · exact ⟨native,by simp,here⟩
    · exact closesLater (sim.closes entry old closed) native

theorem stepSimulates (sim : Simulates codec natives out) (plain : PlainCalls codec.calls native)
    (ok : codec.events native = .ok (codec',more)) : Simulates codec' (natives ++ [native]) (out ++ more) := by
  obtain ⟨effect,numbers⟩ := eventsEffect plain sim.known ok
  generalize same : codec'.calls = calls at effect
  cases effectChanges effect with
  | none silent => exact noneSimulates sim numbers same silent
  | opened fresh only traced => exact openedSimulates sim numbers same fresh only traced
  | moved held only rewrites => exact movedSimulates sim numbers same held only rewrites

theorem startSimulates {body : Fields} (ok : construct body = .ok codec) : Simulates codec [] [] := by
  obtain ⟨_,_,ok⟩ := okBind ok
  obtain ⟨⟨tools,flat⟩,_,ok⟩ := okBind ok
  obtain ⟨_,_,ok⟩ := okBind ok
  cases ok
  exact ⟨rfl,by simp,by simp,by simp,by simp,by simp [Known],by simp,fun _ _ => rfl,by simp,by simp⟩

-- Every event of the run is plain in the state it meets.
def PlainRun (codec : Codec) : List Fields → Prop
  | [] => True
  | native :: rest => PlainCalls codec.calls native ∧
      ∀ codec' out, codec.events native = .ok (codec',out) → PlainRun codec' rest

theorem runSimulates {rest : List Fields} (sim : Simulates codec natives out) (plain : PlainRun codec rest)
    (ok : codec.stream rest = .ok (codec',more)) : Simulates codec' (natives ++ rest) (out ++ more) := by
  induction rest generalizing codec natives out more with
  | nil =>
    cases ok
    simpa using sim
  | cons native rest ih =>
    obtain ⟨⟨mid,first⟩,step,ok⟩ := okBind ok
    obtain ⟨⟨last,later⟩,run,ok⟩ := okBind ok
    cases ok
    have here := stepSimulates sim plain.1 step
    have final := ih here (plain.2 mid first step) run
    simpa using final

end Runs

section Checks

theorem checkedAny {α : Type} {x : Checked α} {p : α → Bool} (checked : x.toOption.any p = true) :
    ∃ a, x = .ok a ∧ p a = true := by
  cases x with
  | error e => cases checked
  | ok a => exact ⟨a,rfl,checked⟩

def plainItem (native : Fields) (type : Text) : Bool :=
  !(type = text itemAdded || type = text itemDone) || callKind (native.get (text "item")) ≠ some .custom

def plainArgument (calls : List (Text × Call)) (native : Fields) (type : Text) : Bool :=
  !(type = text argumentsDelta || type = text argumentsDone) ||
    match native.get (text "item_id") with
    | .str id => (calls.map Prod.fst).contains id
    | _ => true

def plainCalls (calls : List (Text × Call)) (native : Fields) : Bool :=
  match native.get (text "type") with
  | .str type => plainItem native type && plainArgument calls native type && type ≠ text inputDelta && type ≠ text inputDone
  | _ => true

theorem plainCallsSound {calls : List (Text × Call)} {native : Fields} (checked : plainCalls calls native = true) :
    PlainCalls calls native := by
  unfold plainCalls at checked
  split at checked
  · next type typed =>
    simp only [Bool.and_eq_true,decide_eq_true_eq] at checked
    obtain ⟨⟨⟨item,argument⟩,notInput⟩,notDone⟩ := checked
    refine ⟨?_,?_,?_⟩
    · intro other held is
      rw [typed] at held
      cases held
      rcases is with is | is <;> simpa [plainItem,is] using item
    · intro other id held is identified
      rw [typed] at held
      cases held
      unfold plainArgument at argument
      rw [identified] at argument
      rcases is with is | is <;> simpa [is] using argument
    · intro other held
      rw [typed] at held
      cases held
      exact ⟨notInput,notDone⟩
  · next noType =>
    exact ⟨fun type held _ => absurd held (noType type),fun type _ held _ _ => absurd held (noType type),
      fun type held => absurd held (noType type)⟩

def plainRun (codec : Codec) : List Fields → Bool
  | [] => true
  | native :: rest => plainCalls codec.calls native &&
      match codec.events native with
      | .ok (next,_) => plainRun next rest
      | .error _ => true

theorem plainRunSound {codec : Codec} {natives : List Fields} (checked : plainRun codec natives = true) :
    PlainRun codec natives := by
  induction natives generalizing codec with
  | nil => trivial
  | cons native rest ih =>
    rw [plainRun,Bool.and_eq_true] at checked
    refine ⟨plainCallsSound checked.1,?_⟩
    intro next out step
    rw [step] at checked
    exact ih checked.2

end Checks

end SlaifGateway.LocalCoding
