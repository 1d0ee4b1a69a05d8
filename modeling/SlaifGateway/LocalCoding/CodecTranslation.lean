import SlaifGateway.LocalCoding.CodecConfinement

/-! The translated stream is faithful: up to a completed response every call is opened once, told in
deltas that join to its payload, closed once, and stands in the output at its index under its ids. -/
namespace SlaifGateway.LocalCoding
open Library

structure CallItem (item : Document) (id callId : Text) (kind : Kind) (payload : Text) : Prop where
  called : callKind item = some kind
  id : item.fields.get (text "id") = .str id
  callId : item.fields.get (text "call_id") = .str callId
  payload : item.fields.get (payloadField kind) = .str payload

-- The whole story of a call, from its opening to its place in the output.
def Delivered (natives out : List Fields) (output : List Document) (id : Text) : Prop :=
  ∃ (index : Nat) (callId : Text) (kind : Kind) (deltas : List Text) (payload : Text),
    callEvents id out = .added (some index) (some callId) kind ::
      (parts kind deltas ++ doneMark kind ++ [.closed (some index) (some callId) kind (some payload)]) ∧
    deltas.flatten = payload ∧ (∀ part ∈ deltas, Small part) ∧
    (kind = .custom → ∃ native ∈ natives, ∃ arguments, NativeCloses native id arguments ∧
      JsonText.loads uniqueHooks arguments = some (.obj [(text "input",.str payload)])) ∧
    ∃ item, output[index]? = some item ∧ CallItem item id callId kind payload

structure Faithful (natives out : List Fields) (output : List Document) : Prop where
  numbered : ∀ (k : Nat) (event : Fields), out[k]? = some event → event.get (text "sequence_number") = .int (k : Int)
  told : ∀ event ∈ out, ∀ who said, callEvent event = some (who,said) →
    ∃ id, who = some id ∧ Delivered natives out output id
  only : ∀ (k : Nat) (item : Document) (kind : Kind), output[k]? = some item → callKind item = some kind →
    ∃ id callId payload, CallItem item id callId kind payload ∧
      .closed (some (k : Int)) (some callId) kind (some payload) ∈ callEvents id out

section Terminal
variable {codec codec' : Codec} {native : Fields} {natives out more : List Fields}

theorem callAtMeans {k : Nat} {entry : Text × Call} (ok : codec.callAt k = .ok entry) :
    entry ∈ codec.calls ∧ entry.2.index = (k : Int) := by
  unfold Codec.callAt at ok
  split at ok
  · next found single =>
    cases ok
    have mem : entry ∈ codec.calls.filter fun e => e.2.index = (k : Int) := by
      rw [single]
      exact List.mem_singleton.mpr rfl
    simpa using List.mem_filter.mp mem
  · cases ok

theorem boundCallItem (known : Known codec.tools codec.calls) {k : Nat} {raw item : Document}
    (converts : OutputItem codec true k raw item) : item = raw ∧ functionCall raw = false ∨
    ∃ entry, codec.callAt k = .ok entry ∧ entry.2.closed = true ∧
      ∀ payload, Payload entry.2 payload → CallItem item entry.1 entry.2.callId entry.2.kind payload := by
  cases converts with
  | other notCall => exact .inl ⟨rfl,notCall⟩
  | call ongoing => cases ongoing
  | @bound fields out wire d entry _ _ translated placed closed stored named =>
    refine .inr ⟨entry,placed,closed,?_⟩
    intro payload paid
    obtain ⟨e,found,kind⟩ := known entry (callAtMeans placed).1
    have same : wire = entry.2.name := Document.str.inj (translated.named.symm.trans named)
    have kinds : d.kind = entry.2.kind := by
      rw [← same,translated.found] at found
      rw [Option.some.inj found,kind]
    refine ⟨by rw [boundKind,translated.kind,kinds],?_,?_,?_⟩
    · change (boundFields out entry).get (text "id") = _
      unfold boundFields
      rw [Fields.getPutOther _ (by decide),Fields.getPutOther _ (by decide),Fields.getPutSame]
    · change (boundFields out entry).get (text "call_id") = _
      unfold boundFields
      rw [Fields.getPutOther _ (by decide),Fields.getPutSame]
    · change (boundFields out entry).get (payloadField entry.2.kind) = _
      unfold Payload at paid
      cases which : entry.2.kind with
      | function =>
        rw [which] at paid kinds
        rw [boundGet out entry (by decide) (by decide) (by decide),paid,← stored]
        exact translated.arguments kinds
      | custom =>
        rw [which] at paid kinds
        obtain ⟨a,value,argued,read,input⟩ := translated.input kinds rfl
        have equal : a = entry.2.arguments := Document.str.inj (argued.symm.trans stored)
        rw [equal] at read
        have values : value = payload := Except.ok.inj (read.symm.trans paid)
        rw [boundGet out entry (by decide) (by decide) (by decide),← values]
        exact input

theorem tracedClosed {c : Call} {seen : List CallEvent} (traced : Traced c seen) (closed : c.closed = true) :
    ∃ deltas payload, seen = opening c :: (parts c.kind deltas ++ doneMark c.kind ++
        [.closed (some c.index) (some c.callId) c.kind (some payload)]) ∧
      Payload c payload ∧ deltas.flatten = payload ∧ ∀ part ∈ deltas, Small part := by
  cases traced with
  | running _ unclosed _ =>
    rw [closed] at unclosed
    cases unclosed
  | @ended deltas payload _ paid whole small =>
    refine ⟨deltas,payload,?_,paid,whole,small⟩
    rw [closing,if_pos closed]

theorem completedMeans {raw : Fields} (typed : native.get (text "type") = .str (text completed))
    (held : native.get (text "response") = .obj raw) (ok : codec.events native = .ok (codec',more)) :
    ∃ n response, Codec.response { codec with inSequence := n } raw true = .ok response ∧
      (∀ entry ∈ codec.calls, entry.2.closed = true) ∧ codec'.calls = codec.calls ∧
      more = [(native.put (text "response") (.obj response)).put (text "sequence_number") (.int codec.outSequence)] := by
  obtain ⟨n,type,isType,ok⟩ := eventsMeans ok
  rw [typed] at isType
  cases isType
  have ends : Codec.responseEvent { codec with inSequence := n } native true raw = .ok (codec',more) := by
    unfold Codec.dispatch at ok
    rw [if_neg (by decide),if_neg (by decide),if_neg (by decide),if_neg (by decide),held] at ok
    exact ok
  obtain ⟨_,all,ends⟩ := okBind ends
  obtain ⟨response,translated,ends⟩ := okBind ends
  cases ends
  have every := demandOk all
  rw [Bool.not_true,Bool.false_or,List.all_eq_true] at every
  exact ⟨n,response,translated,every,rfl,rfl⟩

theorem completedFaithful {base : Codec} {raw response : Fields} {seen : List Text} (sim : Simulates codec natives out)
    (calls : base.calls = codec.calls) (known : Known base.tools base.calls)
    (closed : ∀ entry ∈ codec.calls, entry.2.closed = true) (plain : ∀ item ∈ outputOf raw, callKind item ≠ some .custom)
    (outputs : Outputs base true 0 (outputOf raw) (outputOf response) seen)
    (all : ∀ id ∈ codec.calls.map Prod.fst, id ∈ seen) : Faithful natives out (outputOf response) := by
  refine ⟨sim.numbered,?_,?_⟩
  · intro event mem who said spoken
    obtain ⟨id,isWho⟩ := sim.identified event mem _ spoken
    have present : id ∈ codec.calls.map Prod.fst := by
      by_contra absent
      have silent := sim.others id absent
      rw [callEvents,List.filterMap_eq_nil_iff] at silent
      have here := silent event mem
      dsimp only at isWho
      rw [spoken,Option.bind_some,if_pos isWho] at here
      cases here
    obtain ⟨k,source,entry,placed,call,found,same⟩ := outputs.named id (all id present)
    rw [Nat.zero_add] at found
    obtain ⟨held,indexed⟩ := callAtMeans found
    rw [calls] at held
    obtain ⟨deltas,payload,shape,paid,whole,small⟩ := tracedClosed (sim.traced entry held) (closed entry held)
    have inside : k < (outputOf response).length := by
      rw [outputs.count]
      exact (List.getElem?_eq_some_iff.mp placed).1
    obtain ⟨item,shownAt⟩ : ∃ item, (outputOf response)[k]? = some item := ⟨_,List.getElem?_eq_getElem inside⟩
    obtain ⟨source',placed',converts⟩ := outputs.items k item shownAt
    rw [placed] at placed'
    cases placed'
    rw [Nat.zero_add] at converts
    have bound := (boundCallItem known converts).resolve_left fun other => by
      rw [call] at other
      cases other.2
    obtain ⟨entry',found',_,items⟩ := bound
    rw [found] at found'
    cases found'
    rw [same,opening,indexed] at shape
    refine ⟨id,isWho,k,entry.2.callId,entry.2.kind,deltas,payload,shape,whole,small,?_,item,shownAt,?_⟩
    · intro custom
      obtain ⟨native,inNatives,closes⟩ := sim.closes entry held (closed entry held)
      rw [same] at closes
      unfold Payload at paid
      rw [custom] at paid
      exact ⟨native,inNatives,entry.2.arguments,closes,(jsonInputMeans paid).1⟩
    · rw [← same]
      exact items payload paid
  · intro k item kind shownAt is
    obtain ⟨source,placed,converts⟩ := outputs.items k item shownAt
    rw [Nat.zero_add] at converts
    have bound := (boundCallItem known converts).resolve_left fun other => by
      obtain ⟨same,notCall⟩ := other
      rw [same,otherItemSilent notCall (plain source (List.mem_iff_getElem?.mpr ⟨k,placed⟩))] at is
      cases is
    obtain ⟨entry,found,_,items⟩ := bound
    obtain ⟨held,indexed⟩ := callAtMeans found
    rw [calls] at held
    obtain ⟨deltas,payload,shape,paid,whole,small⟩ := tracedClosed (sim.traced entry held) (closed entry held)
    have facts := items payload paid
    have kinds : kind = entry.2.kind := Option.some.inj (is.symm.trans facts.called)
    rw [kinds]
    refine ⟨entry.1,entry.2.callId,payload,facts,?_⟩
    rw [shape,← indexed]
    simp

theorem streamTranslated {body final raw : Fields} (built : construct body = .ok codec)
    (typed : final.get (text "type") = .str (text completed)) (held : final.get (text "response") = .obj raw)
    (ok : codec.stream (natives ++ [final]) = .ok (codec',out)) (plain : PlainRun codec (natives ++ [final]))
    (output : ∀ item ∈ outputOf raw, callKind item ≠ some .custom) :
    ∃ before last response, out = before ++ [last] ∧ last.get (text "type") = .str (text completed) ∧
      last.get (text "response") = .obj response ∧ Faithful (natives ++ [final]) out (outputOf response) := by
  have sim := runSimulates (startSimulates built) plain ok
  rw [List.nil_append,List.nil_append] at sim
  obtain ⟨mid,pre,rest,left,right,rfl⟩ := streamSplit ok
  have before := runSimulates (startSimulates built) (plainRunSplit plain left).1 left
  obtain ⟨⟨next,more⟩,step,right⟩ := okBind right
  cases right
  obtain ⟨n,response,translated,closed,calls,rfl⟩ := completedMeans typed held step
  obtain ⟨seen,outputs,all⟩ := responseMeans translated
  refine ⟨pre,_,response,by rw [List.append_nil],?_,?_,?_⟩
  · rw [Fields.getPutOther _ (by decide),Fields.getPutOther _ (by decide),typed]
  · rw [Fields.getPutOther _ (by decide),Fields.getPutSame]
  · have every : ∀ entry ∈ codec'.calls, entry.2.closed = true := by
      rw [calls]
      exact closed
    have named : ∀ id ∈ codec'.calls.map Prod.fst, id ∈ seen := by
      rw [calls]
      exact all rfl
    generalize reached : ({ mid with inSequence := n } : Codec) = base at outputs
    have same : base.calls = codec'.calls := by
      rw [calls,← reached]
    have known : Known base.tools base.calls := by
      rw [← reached]
      exact before.known
    exact completedFaithful sim same known every output outputs named

theorem streamTranslatedDemo : ∃ codec codec' out, construct demoTools = .ok codec ∧
    codec.stream (demoCalls ++ [demoCompleted]) = .ok (codec',out) ∧ out.length = 5 ∧
    ∃ before last response, out = before ++ [last] ∧ last.get (text "type") = .str (text completed) ∧
      last.get (text "response") = .obj response ∧ Faithful (demoCalls ++ [demoCompleted]) out (outputOf response) := by
  obtain ⟨codec,codec',out,built,run,count,plain⟩ := demoAccepted
  have quiet := (demoResponses demoCompleted (by simp)).output
  exact ⟨codec,codec',out,built,run,count,streamTranslated built rfl rfl run plain (quiet _ rfl)⟩

-- Argument deltas of an item that was never announced pass, and the output holds no call.
def strayDelta : Fields :=
  demoEvent argumentsDelta 0 [(text "output_index",.int 0),(text "item_id",.str (text "i1")),
    (text "delta",.str (text "x"))]

def emptyCompleted : Fields := demoEvent completed 1 [(text "response",.obj [(text "output",.arr [])])]

theorem strayDeltaUnfaithful : ∃ codec codec' out, construct [] = .ok codec ∧
    codec.stream [strayDelta,emptyCompleted] = .ok (codec',out) ∧
    ∀ output, ¬ Faithful [strayDelta,emptyCompleted] out output := by
  have run : ((construct []).toOption.any fun codec =>
      (codec.stream [strayDelta,emptyCompleted]).toOption.any fun step =>
        (step.2.any fun event => callEvent event = some (some (text "i1"),.delta .function (some (text "x")))) &&
        callEvents (text "i1") step.2 = [.delta .function (some (text "x"))]) = true := by
    decide +kernel
  obtain ⟨codec,built,checks⟩ := checkedAny run
  obtain ⟨⟨codec',out⟩,streamed,told⟩ := checkedAny checks
  rw [Bool.and_eq_true,List.any_eq_true] at told
  obtain ⟨⟨event,mem,spoken⟩,alone⟩ := told
  refine ⟨codec,codec',out,built,streamed,?_⟩
  intro output faithful
  obtain ⟨id,same,index,callId,kind,deltas,payload,shape,_⟩ :=
    faithful.told event mem _ _ (decide_eq_true_eq.mp spoken)
  cases same
  rw [decide_eq_true_eq.mp alone] at shape
  cases shape

end Terminal

end SlaifGateway.LocalCoding
