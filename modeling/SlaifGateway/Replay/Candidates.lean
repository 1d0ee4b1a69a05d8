import SlaifGateway.Replay.CodexReplayService

/-! What the candidate checks accept, and that the digested tokens of one kind can be read
back: equal tokens come from equal ids and, for a compaction, equal content. -/
namespace SlaifGateway.Replay
open Library Store

section Tokens

theorem appendCancel {a b c : String} (h : a ++ b = a ++ c) : b = c := by
  have lists := congrArg String.toList h
  rw [String.toList_append,String.toList_append] at lists
  exact String.toList_inj.mp (List.append_cancel_left lists)

theorem sizedSplit {a b c d : List Char} (h : a ++ b = c ++ d)
    (size : (a.map Char.utf8Size).sum = (c.map Char.utf8Size).sum) : a = c ∧ b = d := by
  induction a generalizing c with
  | nil =>
    cases c with
    | nil => exact ⟨rfl,h⟩
    | cons x rest =>
      have positive := Char.utf8Size_pos x
      simp only [List.map_nil,List.sum_nil,List.map_cons,List.sum_cons] at size
      omega
  | cons x rest ih =>
    cases c with
    | nil =>
      have positive := Char.utf8Size_pos x
      simp only [List.map_nil,List.sum_nil,List.map_cons,List.sum_cons] at size
      omega
    | cons y more =>
      simp only [List.cons_append,List.cons.injEq] at h
      obtain ⟨rfl,tails⟩ := h
      simp only [List.map_cons,List.sum_cons] at size
      obtain ⟨same,suffix⟩ := ih tails (by omega)
      exact ⟨by rw [same],suffix⟩

theorem delimitedSplit {a b c d : List Char} (left : ':' ∉ a) (right : ':' ∉ c) (h : a ++ ':' :: b = c ++ ':' :: d) :
    a = c ∧ b = d := by
  induction a generalizing c with
  | nil =>
    cases c with
    | nil => exact ⟨rfl,(List.cons.inj h).2⟩
    | cons y more =>
      have head := (List.cons.inj h).1
      exact absurd (head ▸ List.mem_cons_self) right
  | cons x rest ih =>
    cases c with
    | nil =>
      have head := (List.cons.inj h).1
      exact absurd (head ▸ List.mem_cons_self) left
    | cons y more =>
      obtain ⟨rfl,tails⟩ := List.cons.inj h
      obtain ⟨same,suffix⟩ := ih (fun mem => left (List.mem_cons_of_mem _ mem))
        (fun mem => right (List.mem_cons_of_mem _ mem)) tails
      exact ⟨by rw [same],suffix⟩

theorem colonNotDigit (n : Nat) : ':' ∉ n.repr.toList := by
  intro mem
  rw [Nat.toList_repr] at mem
  have digit := Nat.isDigit_of_mem_toDigits (by omega) (by omega) mem
  revert digit
  decide

-- A length, a colon and a text of that many bytes can be read back from whatever follows.
theorem framedSplit {a b c d : String}
    (h : (encodedLength a).repr ++ (":" ++ (a ++ b)) = (encodedLength c).repr ++ (":" ++ (c ++ d))) :
    a = c ∧ b = d := by
  have lists := congrArg String.toList h
  simp only [String.toList_append] at lists
  obtain ⟨lengths,rest⟩ := delimitedSplit (colonNotDigit _) (colonNotDigit _) lists
  have size : encodedLength a = encodedLength c := by
    have digits := congrArg (fun ds => Nat.ofDigitChars 10 ds 0) lengths
    simpa only [Nat.toList_repr,Nat.ofDigitChars_ten_toDigits] using digits
  obtain ⟨same,suffix⟩ := sizedSplit (a := a.toList) (c := c.toList) rest size
  exact ⟨String.toList_inj.mp same,String.toList_inj.mp suffix⟩

theorem itemTokenInj {c d : Candidate} (kind : c.itemKind = d.itemKind) (token : itemToken c = itemToken d) :
    c.itemId.getD "" = d.itemId.getD "" ∧
      (c.itemKind = .compaction → c.encryptedContent.getD "" = d.encryptedContent.getD "") := by
  unfold itemToken at token
  rw [kind] at token ⊢
  by_cases compaction : d.itemKind = .compaction
  · simp only [compaction,if_true,String.append_assoc] at token
    obtain ⟨ids,rest⟩ := framedSplit (appendCancel token)
    refine ⟨ids,fun _ => ?_⟩
    have inner := appendCancel rest
    have framed : ∀ s t : String, (encodedLength s).repr ++ (":" ++ s) = (encodedLength t).repr ++ (":" ++ t) → s = t := by
      intro s t same
      rw [← String.append_empty (s := ":" ++ s),← String.append_empty (s := ":" ++ t)] at same
      simp only [String.append_assoc] at same
      exact (framedSplit same).1
    exact framed _ _ inner
  · rw [if_neg compaction,if_neg compaction] at token
    exact ⟨appendCancel token,fun h => absurd h compaction⟩

theorem callTokenInj {kind call other} (token : callToken kind call = callToken kind other) : call = other :=
  appendCancel token
end Tokens

section Validated
variable {allow : Bool} {c : Candidate}

structure WellFormed (allow : Bool) (c : Candidate) : Prop where
  known : c.itemKind.isKnown = true
  idless : c.itemId = none → allow = true ∧ c.itemKind.isTool = true
  identifier : ∀ id ∈ c.itemId, isIdentifier id = true
  tool : c.itemKind.isTool = true → c.encryptedContent = none ∧ ∃ call tool name, c.callId = some call ∧
    c.toolNamespace = some tool ∧ c.toolName = some name ∧ isIdentifier call = true ∧
    boundedSafeToolName tool = true ∧ boundedSafeToolName name = true
  other : c.itemKind.isTool = false → c.callId = none ∧ c.toolNamespace = none ∧ c.toolName = none
  content : c.itemKind = .compaction → ∃ content, c.encryptedContent = some content ∧ content ≠ "" ∧
    encodedLength content ≤ 1048576
  plain : c.itemKind.isTool = false → c.itemKind ≠ .compaction → c.encryptedContent = none

def itemKeys (c : Candidate) : List (ItemKind × String) := (c.itemId.map fun id => (c.itemKind,id)).toList

def callKeys (c : Candidate) : List (ItemKind × String) :=
  if c.itemKind.isTool then (c.callId.map fun call => (c.itemKind,call)).toList else []

theorem checkItemIdIff {seen seen'} : checkItemId allow seen c = .ok seen' ↔
    (c.itemId = none → allow = true ∧ c.itemKind.isTool = true) ∧ (∀ id ∈ c.itemId, isIdentifier id = true) ∧
      (itemKeys c).Disjoint seen.items ∧ seen' = ⟨itemKeys c ++ seen.items,seen.calls⟩ := by
  unfold checkItemId itemKeys
  cases c.itemId with
  | none =>
    by_cases admitted : allow = true ∧ c.itemKind.isTool = true
    · simp only [admitted,Bool.and_self,if_true,Except.ok.injEq]
      simp [@eq_comm _ seen]
    · simp [admitted]
  | some id =>
    by_cases fine : isIdentifier id = true ∧ (c.itemKind,id) ∉ seen.items
    · simp only [fine,Bool.and_eq_true,not_false_eq_true,decide_true,and_self,if_true,Except.ok.injEq]
      simp [fine.1,fine.2,@eq_comm _ _ seen']
    · simp only [Bool.and_eq_true,decide_eq_true_eq,fine,if_false,reduceCtorEq,false_iff]
      rintro ⟨-,identifier,fresh,-⟩
      exact fine ⟨identifier id rfl,by simpa using fresh⟩

theorem checkShapeIff {seen seen'} : checkShape seen c = .ok seen' ↔
    (c.itemKind.isTool = true → c.encryptedContent = none ∧ ∃ call tool name, c.callId = some call ∧
      c.toolNamespace = some tool ∧ c.toolName = some name ∧ isIdentifier call = true ∧
      boundedSafeToolName tool = true ∧ boundedSafeToolName name = true) ∧
    (c.itemKind.isTool = false → c.callId = none ∧ c.toolNamespace = none ∧ c.toolName = none) ∧
    (c.itemKind = .compaction → ∃ content, c.encryptedContent = some content ∧ content ≠ "" ∧
      encodedLength content ≤ 1048576) ∧
    (c.itemKind.isTool = false → c.itemKind ≠ .compaction → c.encryptedContent = none) ∧
    (callKeys c).Disjoint seen.calls ∧ seen' = ⟨seen.items,callKeys c ++ seen.calls⟩ := by
  unfold checkShape callKeys
  by_cases tool : c.itemKind.isTool = true
  · have notCompaction : c.itemKind ≠ .compaction := by
      intro compaction
      rw [compaction] at tool
      cases tool
    simp only [tool,if_true,notCompaction,forall_const,reduceCtorEq,false_implies,true_and]
    cases c.callId with
    | none => simp
    | some call =>
      cases c.toolNamespace with
      | none => simp
      | some space =>
        cases c.toolName with
        | none => simp
        | some name =>
          by_cases fine : (c.encryptedContent = none ∧ isIdentifier call = true ∧ boundedSafeToolName space = true ∧
              boundedSafeToolName name = true) ∧ (c.itemKind,call) ∉ seen.calls
          · simp [fine,@eq_comm _ _ seen']
          · have refused : ¬(c.encryptedContent.isNone && isIdentifier call && boundedSafeToolName space &&
                boundedSafeToolName name && (c.itemKind,call) ∉ seen.calls) = true := by
              simpa [and_assoc] using fine
            simp only [refused,if_false,reduceCtorEq,false_iff]
            rintro ⟨⟨plain,_,_,_,sameCall,sameSpace,sameName,valid⟩,fresh,-⟩
            cases sameCall
            cases sameSpace
            cases sameName
            exact fine ⟨⟨plain,valid⟩,by simpa using fresh⟩
  · simp only [tool,Bool.false_eq_true,if_false,false_implies,forall_const,true_and,List.disjoint_nil_left,List.nil_append]
    by_cases compaction : c.itemKind = .compaction
    · simp only [compaction,if_true,ne_eq,not_true_eq_false,false_implies,forall_const,true_and]
      cases c.encryptedContent <;> split <;> simp_all [@eq_comm _ _ seen']
    · simp only [compaction,if_false,ne_eq,not_false_eq_true,false_implies,forall_const,true_and]
      split <;> simp_all [@eq_comm _ _ seen']

theorem checkCandidateIff {seen seen'} : checkCandidate allow seen c = .ok seen' ↔
    WellFormed allow c ∧ (itemKeys c).Disjoint seen.items ∧ (callKeys c).Disjoint seen.calls ∧
      seen' = ⟨itemKeys c ++ seen.items,callKeys c ++ seen.calls⟩ := by
  unfold checkCandidate
  by_cases known : c.itemKind.isKnown = true
  · rw [if_pos known]
    constructor
    · intro passed
      cases item : checkItemId allow seen c with
      | error e => simp [item,bind,Except.bind] at passed
      | ok middle =>
        rw [item] at passed
        obtain ⟨idless,identifier,freshItem,rfl⟩ := checkItemIdIff.mp item
        obtain ⟨tool,other,content,plain,freshCall,rfl⟩ := checkShapeIff.mp passed
        exact ⟨⟨known,idless,identifier,tool,other,content,plain⟩,freshItem,freshCall,rfl⟩
    · rintro ⟨⟨-,idless,identifier,tool,other,content,plain⟩,freshItem,freshCall,rfl⟩
      rw [checkItemIdIff.mpr ⟨idless,identifier,freshItem,rfl⟩]
      exact checkShapeIff.mpr ⟨tool,other,content,plain,freshCall,rfl⟩
  · simp only [known,Bool.false_eq_true,if_false,reduceCtorEq,false_iff]
    exact fun passed => known passed.1.known

theorem validatedFromIff {seen cs} : validatedFrom allow seen cs = .ok () ↔
    (∀ c ∈ cs, WellFormed allow c) ∧ ((cs.flatMap itemKeys).Nodup ∧ (cs.flatMap itemKeys).Disjoint seen.items) ∧
      (cs.flatMap callKeys).Nodup ∧ (cs.flatMap callKeys).Disjoint seen.calls := by
  induction cs generalizing seen with
  | nil => simp [validatedFrom]
  | cons c rest ih =>
    have itemsNodup : (itemKeys c).Nodup := by unfold itemKeys; cases c.itemId <;> simp
    have callsNodup : (callKeys c).Nodup := by unfold callKeys; split <;> cases c.callId <;> simp
    unfold validatedFrom
    simp only [List.flatMap_cons,List.nodup_append',List.disjoint_append_left,List.forall_mem_cons]
    constructor
    · intro passed
      cases head : checkCandidate allow seen c with
      | error e => simp [head,bind,Except.bind] at passed
      | ok seen' =>
        rw [head] at passed
        obtain ⟨formed,freshItem,freshCall,rfl⟩ := checkCandidateIff.mp head
        obtain ⟨others,⟨items,itemsApart⟩,calls,callsApart⟩ := ih.mp passed
        rw [List.disjoint_append_right] at itemsApart callsApart
        exact ⟨⟨formed,others⟩,⟨⟨itemsNodup,items,itemsApart.1.symm⟩,freshItem,itemsApart.2⟩,
          ⟨callsNodup,calls,callsApart.1.symm⟩,freshCall,callsApart.2⟩
    · rintro ⟨⟨formed,others⟩,⟨⟨-,items,itemsApart⟩,freshItem,itemsSeen⟩,⟨-,calls,callsApart⟩,freshCall,callsSeen⟩
      rw [checkCandidateIff.mpr ⟨formed,freshItem,freshCall,rfl⟩]
      refine ih.mpr ⟨others,⟨items,?_⟩,calls,?_⟩
      · exact List.disjoint_append_right.mpr ⟨itemsApart.symm,itemsSeen⟩
      · exact List.disjoint_append_right.mpr ⟨callsApart.symm,callsSeen⟩

theorem validatedIff {cs} : validatedCandidates allow cs = .ok () ↔
    (∀ c ∈ cs, WellFormed allow c) ∧ (cs.flatMap itemKeys).Nodup ∧ (cs.flatMap callKeys).Nodup := by
  simp [validatedCandidates,validatedFromIff]

theorem WellFormed.idSome (h : WellFormed false c) : ∃ id, c.itemId = some id := by
  cases found : c.itemId with
  | none => cases (h.idless found).1
  | some id => exact ⟨id,rfl⟩

theorem WellFormed.contentSome {allow} (h : WellFormed allow c) :
    c.encryptedContent.isSome = true ↔ c.itemKind = .compaction := by
  by_cases compaction : c.itemKind = .compaction
  · obtain ⟨content,stored,-⟩ := h.content compaction
    simp [compaction,stored]
  · have none : c.encryptedContent = none := by
      by_cases tool : c.itemKind.isTool = true
      · exact (h.tool tool).1
      · exact h.plain (by simpa using tool) compaction
    simp [compaction,none]

theorem WellFormed.callSome {allow} (h : WellFormed allow c) : c.callId.isSome = c.itemKind.isTool := by
  by_cases tool : c.itemKind.isTool = true
  · obtain ⟨-,call,_,_,stored,-⟩ := h.tool tool
    simp [stored,tool]
  · have notTool : c.itemKind.isTool = false := by simpa using tool
    simp [(h.other notTool).1,notTool]
end Validated
end SlaifGateway.Replay
