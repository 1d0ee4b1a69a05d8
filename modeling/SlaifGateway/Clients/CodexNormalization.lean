import SlaifGateway.Library.Outcome
import SlaifGateway.Clients.Codex0149

/-! Normalization confines the declarations it lets through, and the exact inputs on which it raises
anything but its selection error. -/
namespace SlaifGateway.Clients
open Library

section Raises
variable {α β : Type}

-- The computation fails, if at all, with the module's own error.
def Selects (x : Except Raised α) : Prop := ∀ e, x = .error e → ∃ message code, e = .selection message code

theorem selectsOk (a : α) : Selects (.ok a) := by
  rintro e ⟨⟩

theorem selectsError (message : String) (code : String) : Selects (.error (error message code) : Except Raised α) := by
  rintro e ⟨⟩
  exact ⟨message,code,rfl⟩

theorem selectsBind {x : Except Raised α} {f : α → Except Raised β} (first : Selects x)
    (next : ∀ a, x = .ok a → Selects (f a)) : Selects (x >>= f) := by
  cases done : x with
  | error e =>
    rintro _ ⟨⟩
    exact first e done
  | ok a => exact next a done

theorem checkAllMem {check : α → Except Raised Unit} {items : List α} (ok : checkAll check items = .ok ()) :
    ∀ a ∈ items, check a = .ok () := by
  induction items with
  | nil => simp
  | cons head rest ih =>
    obtain ⟨_,first,ok⟩ := okBind ok
    intro a mem
    obtain rfl | mem := List.mem_cons.mp mem
    · exact first
    · exact ih ok a mem

theorem checkAllSelects {check : α → Except Raised Unit} (each : ∀ a, Selects (check a)) (items : List α) :
    Selects (checkAll check items) := by
  induction items with
  | nil => exact selectsOk _
  | cons head rest ih => exact selectsBind (each head) fun _ _ => ih

end Raises

section Walk

variable {onField : Nat → Text × Document → Option Raised} {onText : Text → Option Raised}

theorem walkItemsMem {depth : Nat} {items : List Document} (ok : walkItems onField onText depth items = .ok ()) :
    ∀ d ∈ items, walk onField onText (depth + 1) d = .ok () := by
  induction items with
  | nil => simp
  | cons head rest ih =>
    obtain ⟨_,first,ok⟩ := okBind (by simpa only [walkItems] using ok)
    intro d mem
    obtain rfl | mem := List.mem_cons.mp mem
    · exact first
    · exact ih ok d mem

theorem settleOk {found : Option Raised} (ok : settle found = .ok ()) : found = none := by
  cases found with
  | none => rfl
  | some raised => cases ok

theorem walkFieldsMem {depth : Nat} {fields : List (Text × Document)}
    (ok : walkFields onField onText depth fields = .ok ()) :
    ∀ f ∈ fields, onField depth f = none ∧ walk onField onText (depth + 1) f.2 = .ok () := by
  induction fields with
  | nil => simp
  | cons head rest ih =>
    obtain ⟨key,child⟩ := head
    obtain ⟨_,checked,ok⟩ := okBind (by simpa only [walkFields] using ok)
    obtain ⟨_,walked,ok⟩ := okBind ok
    intro f mem
    obtain rfl | mem := List.mem_cons.mp mem
    · exact ⟨settleOk checked,walked⟩
    · exact ih ok f mem

theorem walkDepth {depth : Nat} {d : Document} (ok : walk onField onText depth d = .ok ()) :
    depth ≤ maxDeclarationDepth := by
  by_contra deep
  have below : maxDeclarationDepth < depth := Nat.not_le.mp deep
  cases d <;> simp [walk,below] at ok

theorem walkObj {depth : Nat} {fields : Fields} (ok : walk onField onText depth (.obj fields) = .ok ()) :
    ∀ f ∈ fields, onField depth f = none ∧ walk onField onText (depth + 1) f.2 = .ok () := by
  have shallow := walkDepth ok
  rw [walk,if_neg (Nat.not_lt.mpr shallow)] at ok
  exact walkFieldsMem ok

-- The values inside a document with their depth below it.
inductive Inside (root : Document) : Nat → Document → Prop
  | self : Inside root 0 root
  | item {n items d} (outer : Inside root n (.arr items)) (mem : d ∈ items) : Inside root (n + 1) d
  | field {n fields k d} (outer : Inside root n (.obj fields)) (mem : (k,d) ∈ fields) : Inside root (n + 1) d

theorem insideWalk {depth : Nat} {root : Document} (ok : walk onField onText depth root = .ok ()) {n : Nat}
    {d : Document} (inside : Inside root n d) : walk onField onText (depth + n) d = .ok () := by
  induction inside with
  | self => exact ok
  | item outer mem ih =>
    have shallow := walkDepth ih
    rw [walk,if_neg (Nat.not_lt.mpr shallow)] at ih
    exact walkItemsMem ih _ mem
  | field outer mem ih => exact (walkObj ih _ mem).2

theorem walkClears {depth : Nat} {root : Document} (ok : walk onField onText depth root = .ok ()) {n : Nat}
    {d : Document} (inside : Inside root n d) :
    depth + n ≤ maxDeclarationDepth ∧ ∀ f ∈ d.fields, onField (depth + n) f = none := by
  have walked := insideWalk ok inside
  refine ⟨walkDepth walked,?_⟩
  cases d with
  | obj fields => exact fun f mem => (walkObj walked f mem).1
  | _ => simp [Document.fields]

theorem settleSelects {found : Option Raised} (own : ∀ e, found = some e → ∃ m c, e = .selection m c) :
    Selects (settle found) := by
  cases found with
  | none => exact selectsOk _
  | some raised =>
    rintro e ⟨⟩
    exact own raised rfl

mutual
theorem walkSelects (ownField : ∀ n f e, onField n f = some e → ∃ m c, e = .selection m c)
    (ownText : ∀ t e, onText t = some e → ∃ m c, e = .selection m c) :
    ∀ (depth : Nat) (d : Document), Selects (walk onField onText depth d)
  | depth,.obj fields => by
    rw [walk]
    split
    · exact selectsError _ _
    · exact walkFieldsSelects ownField ownText depth fields
  | depth,.arr items => by
    rw [walk]
    split
    · exact selectsError _ _
    · exact walkItemsSelects ownField ownText depth items
  | depth,.str t => by
    rw [walk]
    split
    · exact selectsError _ _
    · exact settleSelects (ownText t)
  | depth,.null => by simp only [walk]; split; exacts [selectsError _ _,selectsOk _]
  | depth,.bool _ => by simp only [walk]; split; exacts [selectsError _ _,selectsOk _]
  | depth,.int _ => by simp only [walk]; split; exacts [selectsError _ _,selectsOk _]
  | depth,.float _ _ => by simp only [walk]; split; exacts [selectsError _ _,selectsOk _]

theorem walkFieldsSelects (ownField : ∀ n f e, onField n f = some e → ∃ m c, e = .selection m c)
    (ownText : ∀ t e, onText t = some e → ∃ m c, e = .selection m c) :
    ∀ (depth : Nat) (fields : List (Text × Document)), Selects (walkFields onField onText depth fields)
  | _,[] => selectsOk _
  | depth,(key,child) :: rest => by
    rw [walkFields]
    exact selectsBind (settleSelects (ownField depth (key,child))) fun _ _ =>
      selectsBind (walkSelects ownField ownText (depth + 1) child) fun _ _ =>
        walkFieldsSelects ownField ownText depth rest

theorem walkItemsSelects (ownField : ∀ n f e, onField n f = some e → ∃ m c, e = .selection m c)
    (ownText : ∀ t e, onText t = some e → ∃ m c, e = .selection m c) :
    ∀ (depth : Nat) (items : List Document), Selects (walkItems onField onText depth items)
  | _,[] => selectsOk _
  | depth,child :: rest => by
    rw [walkItems]
    exact selectsBind (walkSelects ownField ownText (depth + 1) child) fun _ _ =>
      walkItemsSelects ownField ownText depth rest
end

end Walk

section Walkers

theorem forbiddenSelects (value : Document) : Selects (walkForbiddenKeys value) := by
  refine walkSelects ?_ (by simp) 0 value
  intro n f e found
  unfold forbiddenField at found
  split_ifs at found <;> cases found <;> exact ⟨_,_,rfl⟩

theorem unsafeSelects (value : Document) : Selects (walkUnsafeCandidateValues value) := by
  refine walkSelects (by simp) ?_ 0 value
  intro t e found
  unfold unsafeValue at found
  split_ifs at found
  cases found
  exact ⟨_,_,rfl⟩

theorem nestedSelects (value : Document) : Selects (rejectNestedCandidateTypes value) := by
  refine walkSelects ?_ (by simp) 0 value
  intro n f e found
  unfold nestedCandidate at found
  split_ifs at found
  cases found
  exact ⟨_,_,rfl⟩

theorem forbiddenClears {value d : Document} {n : Nat} (ok : walkForbiddenKeys value = .ok ()) (inside : Inside value n d) :
    n ≤ maxDeclarationDepth ∧ ∀ f ∈ d.fields, within forbiddenAuthorityKeys (lower f.1) = false ∧
      (0 < n → typeWithin forbiddenAuthorityTypes f = false) := by
  have clear := walkClears ok inside
  rw [Nat.zero_add] at clear
  refine ⟨clear.1,?_⟩
  intro f mem
  have free := clear.2 f mem
  unfold forbiddenField at free
  split_ifs at free with key type
  refine ⟨by simpa using key,?_⟩
  intro positive
  simpa [positive] using type

theorem nestedClears {value d : Document} {n : Nat} (ok : rejectNestedCandidateTypes value = .ok ())
    (inside : Inside value (n + 1) d) : ∀ f ∈ d.fields, typeWithin candidateTypes f = false := by
  intro f mem
  have free := (walkClears ok inside).2 f mem
  unfold nestedCandidate at free
  split_ifs at free with type
  simpa using type

end Walkers

section Tools

theorem safeShapeSelects (value : Fields) (allowed : List String) (label : String) :
    Selects (safeShapeFields value allowed label) := by
  unfold safeShapeFields
  dsimp only
  split_ifs
  · exact selectsError _ _
  · exact selectsError _ _
  · exact selectsOk _

theorem validateCandidateSelects (kind : ToolType) (value : Fields) : Selects (validateCandidate kind value) := by
  unfold validateCandidate
  split_ifs
  all_goals first
    | exact selectsOk _
    | exact selectsError _ _

theorem onlyIfSelects (condition : Bool) {x : Except Raised Unit} (own : Selects x) : Selects (onlyIf condition x) := by
  unfold onlyIf
  split
  · exact own
  · exact selectsOk _

theorem toolTypeNameSelects (value : Fields) : Selects (toolTypeName value) := by
  unfold toolTypeName
  split
  · split
    · exact selectsOk _
    · exact selectsError _ _
  · exact selectsError _ _

theorem toolKindSelects (name : Text) : Selects (toolKind name) := by
  unfold toolKind
  split
  · exact selectsError _ _
  · split
    · exact selectsOk _
    · exact selectsError _ _

theorem validateShapeSelects (value : Fields) : Selects (validateShape value) :=
  selectsBind (toolTypeNameSelects value) fun name _ =>
    selectsBind (toolKindSelects name) fun _ _ =>
    selectsBind (safeShapeSelects _ _ _) fun _ _ =>
    selectsBind (onlyIfSelects _ (validateCandidateSelects _ _)) fun _ _ =>
    selectsBind (forbiddenSelects _) fun _ _ =>
    selectsBind (onlyIfSelects _ (unsafeSelects _)) fun _ _ => selectsOk _

mutual
theorem validateToolSelects : ∀ d : Document, Selects (validateTool d)
  | .obj value => by
    rw [validateTool]
    exact selectsBind (validateShapeSelects value) fun kind _ =>
      selectsBind (onlyIfSelects _ (validateNamespaceSelects value)) fun _ _ => selectsOk _
  | .null => by simp only [validateTool]; exact selectsError _ _
  | .bool _ => by simp only [validateTool]; exact selectsError _ _
  | .int _ => by simp only [validateTool]; exact selectsError _ _
  | .float _ _ => by simp only [validateTool]; exact selectsError _ _
  | .str _ => by simp only [validateTool]; exact selectsError _ _
  | .arr _ => by simp only [validateTool]; exact selectsError _ _

theorem validateNamespaceSelects : ∀ fields : List (Text × Document), Selects (validateNamespace fields)
  | [] => selectsError _ _
  | (key,.arr nested) :: rest => by
    rw [validateNamespace]
    split
    · split
      · exact selectsError _ _
      · exact validateNestedSelects nested
    · exact validateNamespaceSelects rest
  | (key,.obj _) :: rest => by
    simp only [validateNamespace]; split; exacts [selectsError _ _,validateNamespaceSelects rest]
  | (key,.null) :: rest => by
    simp only [validateNamespace]; split; exacts [selectsError _ _,validateNamespaceSelects rest]
  | (key,.bool _) :: rest => by
    simp only [validateNamespace]; split; exacts [selectsError _ _,validateNamespaceSelects rest]
  | (key,.int _) :: rest => by
    simp only [validateNamespace]; split; exacts [selectsError _ _,validateNamespaceSelects rest]
  | (key,.float _ _) :: rest => by
    simp only [validateNamespace]; split; exacts [selectsError _ _,validateNamespaceSelects rest]
  | (key,.str _) :: rest => by
    simp only [validateNamespace]; split; exacts [selectsError _ _,validateNamespaceSelects rest]

theorem validateNestedSelects : ∀ items : List Document, Selects (validateNested items)
  | [] => selectsOk _
  | child :: rest => by
    rw [validateNested]
    refine selectsBind (validateToolSelects child) fun candidate _ => ?_
    split
    · exact selectsError _ _
    · exact validateNestedSelects rest
end

theorem validateToolsSelects (tools : List Document) (candidates : List ToolType) :
    Selects (validateTools tools candidates) := by
  induction tools generalizing candidates with
  | nil => exact selectsOk _
  | cons tool rest ih =>
    refine selectsBind (validateToolSelects tool) fun found _ => ?_
    cases found with
    | none => exact ih _
    | some candidate => exact ih _

def Declares (tool : Document) (kind : ToolType) : Prop :=
  tool.fields.get (text "type") = .str (text kind.name)

theorem ofTextName {t : Text} {kind : ToolType} (found : ToolType.ofText t = some kind) : text kind.name = t := by
  simpa using List.find?_some found

theorem nameInjective {a b : ToolType} (same : text a.name = text b.name) : a = b := by
  revert same
  cases a <;> cases b <;> decide

theorem toolTypeNameOk {value : Fields} {name : Text} (ok : toolTypeName value = .ok name) :
    value.get (text "type") = .str name := by
  unfold toolTypeName at ok
  split at ok
  · next t stored =>
    split at ok
    · cases ok
      exact stored
    · cases ok
  · cases ok

theorem toolKindOk {name : Text} {kind : ToolType} (ok : toolKind name = .ok kind) : text kind.name = name := by
  unfold toolKind at ok
  split at ok
  · cases ok
  · split at ok
    · next known =>
      cases ok
      exact ofTextName known
    · cases ok

theorem validateToolKind {tool : Document} {found : Option ToolType} (ok : validateTool tool = .ok found) :
    ∃ kind, Declares tool kind ∧ found = if kind.isCandidate then some kind else none := by
  cases tool with
  | obj value =>
    rw [validateTool] at ok
    obtain ⟨kind,shaped,ok⟩ := okBind ok
    obtain ⟨_,_,ok⟩ := okBind ok
    refine ⟨kind,?_,(Except.ok.inj ok).symm⟩
    obtain ⟨name,named,shaped⟩ := okBind shaped
    obtain ⟨kind',typed,shaped⟩ := okBind shaped
    obtain ⟨_,_,shaped⟩ := okBind shaped
    obtain ⟨_,_,shaped⟩ := okBind shaped
    obtain ⟨_,_,shaped⟩ := okBind shaped
    obtain ⟨_,_,shaped⟩ := okBind shaped
    cases shaped
    unfold Declares Document.fields
    rw [toolTypeNameOk named,toolKindOk typed]
  | _ => simp [validateTool] at ok

theorem declaresUnique {tool : Document} {a b : ToolType} (first : Declares tool a) (second : Declares tool b) :
    a = b := by
  unfold Declares at first second
  rw [first] at second
  exact nameInjective (Document.str.inj second)

structure CandidatesOf (tools : List Document) (before after : List ToolType) : Prop where
  nodup : before.Nodup → after.Nodup
  exact : ∀ kind, kind ∈ after ↔ kind ∈ before ∨ (kind.isCandidate ∧ ∃ tool ∈ tools, Declares tool kind)
  known : ∀ tool ∈ tools, ∃ kind, Declares tool kind

theorem validateToolsCandidates {tools : List Document} {before after : List ToolType}
    (ok : validateTools tools before = .ok after) : CandidatesOf tools before after := by
  induction tools generalizing before with
  | nil =>
    cases ok
    exact ⟨id,by simp,by simp⟩
  | cons tool rest ih =>
    obtain ⟨found,checked,ok⟩ := okBind ok
    obtain ⟨kind,declared,shape⟩ := validateToolKind checked
    have step : ∃ middle, validateTools rest middle = .ok after ∧ (before.Nodup → middle.Nodup) ∧
        ∀ k, k ∈ middle ↔ k ∈ before ∨ (k.isCandidate ∧ k = kind) := by
      by_cases candidate : kind.isCandidate
      · rw [if_pos candidate] at shape
        subst shape
        refine ⟨_,ok,?_,?_⟩
        · intro nodup
          split
          · exact nodup
          · next absent =>
            rw [List.nodup_append]
            refine ⟨nodup,by simp,?_⟩
            rintro a mem b single rfl
            rw [List.mem_singleton] at single
            subst single
            exact absent (by simpa using mem)
        · intro k
          split
          · next present =>
            constructor
            · exact .inl
            · rintro (mem | ⟨_,rfl⟩)
              · exact mem
              · simpa using present
          · rw [List.mem_append,List.mem_singleton]
            constructor
            · rintro (mem | rfl)
              · exact .inl mem
              · exact .inr ⟨candidate,rfl⟩
            · rintro (mem | ⟨_,same⟩)
              · exact .inl mem
              · exact .inr same
      · rw [if_neg candidate] at shape
        subst shape
        refine ⟨before,ok,id,?_⟩
        intro k
        constructor
        · exact .inl
        · rintro (mem | ⟨is,rfl⟩)
          · exact mem
          · exact absurd is candidate
    obtain ⟨middle,later,keeps,members⟩ := step
    have facts := ih later
    refine ⟨fun nodup => facts.nodup (keeps nodup),?_,?_⟩
    · intro k
      rw [facts.exact,members,or_assoc]
      constructor
      · rintro (mem | ⟨is,rfl⟩ | ⟨is,t,mem,declares⟩)
        · exact .inl mem
        · exact .inr ⟨is,tool,by simp,declared⟩
        · exact .inr ⟨is,t,List.mem_cons_of_mem _ mem,declares⟩
      · rintro (mem | ⟨is,t,mem,declares⟩)
        · exact .inl mem
        · obtain rfl | mem := List.mem_cons.mp mem
          · exact .inr (.inl ⟨is,declaresUnique declares declared⟩)
          · exact .inr (.inr ⟨is,t,mem,declares⟩)
    · intro t mem
      obtain rfl | mem := List.mem_cons.mp mem
      · exact ⟨kind,declared⟩
      · exact facts.known t mem

theorem checkCapturedSelects (body : Fields) (entry : String × ValueClass) : Selects (checkCaptured body entry) := by
  unfold checkCaptured
  split
  · exact selectsOk _
  · split
    · exact selectsOk _
    · exact selectsError _ _

theorem taxonomySelects (tools : List Document) (declarations : List (Text × ToolType)) :
    Selects (declaredToolTaxonomy tools declarations) := by
  fun_induction declaredToolTaxonomy tools declarations
  all_goals first
    | exact selectsOk _
    | exact selectsError _ _
    | assumption

theorem zeroArgumentSelects (body : Fields) : Selects (zeroArgumentFunctionNames body) := by
  unfold zeroArgumentFunctionNames
  split
  · exact selectsBind (taxonomySelects _ _) fun _ _ => selectsOk _
  · exact selectsOk _

end Tools

section Strays

-- A structured choice of the admitted fields whose type is an array or an object.
def ChoiceUnhashable (choice : Document) : Prop :=
  ∃ fields : Fields, choice = .obj fields ∧ safeShapeFields fields ["type","name"] "tool choice" = .ok () ∧
    hashable (fields.get (text "type")) = false

theorem toolChoiceSelects {choice : Document} (candidates : List ToolType) (localTools : Bool)
    (hashes : ¬ ChoiceUnhashable choice) : Selects (validateToolChoice choice candidates localTools) := by
  unfold validateToolChoice
  split
  · exact selectsOk _
  · split_ifs
    all_goals first
      | exact selectsOk _
      | exact selectsError _ _
  · next fields =>
    refine selectsBind (safeShapeSelects _ _ _) fun _ shaped => ?_
    have hashed : hashable (Fields.get fields (text "type")) = true := by
      cases known : hashable (Fields.get fields (text "type")) with
      | true => rfl
      | false => exact absurd ⟨fields,rfl,shaped,known⟩ hashes
    dsimp only
    rw [hashed,Bool.not_true,if_neg Bool.false_ne_true]
    split
    · split_ifs
      all_goals first
        | exact selectsOk _
        | exact selectsError _ _
    · exact selectsError _ _
  · exact selectsError _ _

theorem toolChoiceStrays {choice : Document} (candidates : List ToolType) (localTools : Bool)
    (stray : ChoiceUnhashable choice) : validateToolChoice choice candidates localTools = .error .typeError := by
  obtain ⟨fields,rfl,shaped,unhashable⟩ := stray
  simp only [validateToolChoice,shaped]
  change (if (!hashable (Fields.get fields (text "type"))) = true then _ else _) = _
  rw [unhashable]
  rfl

-- Both aliases are texts, and the first that is not a canonical identifier holds a lone surrogate.
def AliasUnencodable (metadata : Option Document) : Prop :=
  ∃ fields : Fields, metadata = some (.obj fields) ∧ ∃ session thread,
    fields.get (text "session_id") = .str session ∧ fields.get (text "thread_id") = .str thread ∧
      (encode session = none ∨ canonicalUuid session ∧ encode session ≠ none ∧ encode thread = none)

theorem aliasSelects {item : Text} (encodes : encode item ≠ none) : Selects (checkAlias item) := by
  unfold checkAlias
  rw [if_neg (by simpa using encodes)]
  split
  · exact selectsOk _
  · exact selectsError _ _

theorem aliasOk {item : Text} (ok : checkAlias item = .ok ()) : canonicalUuid item ∧ encode item ≠ none := by
  unfold checkAlias at ok
  split at ok
  · cases ok
  · next encodes =>
    split at ok
    · next canonical => exact ⟨canonical,by simpa using encodes⟩
    · cases ok

theorem hintsSelects {metadata : Option Document} (encodes : ¬ AliasUnencodable metadata) :
    Selects (transientIdentityHints metadata) := by
  unfold transientIdentityHints
  split
  · exact selectsOk _
  · next fields =>
    split
    · next session thread first second =>
      have sessionEncodes : encode session ≠ none := fun none =>
        encodes ⟨fields,rfl,session,thread,first,second,.inl none⟩
      refine selectsBind (aliasSelects sessionEncodes) fun _ accepted => ?_
      have threadEncodes : encode thread ≠ none := fun none =>
        encodes ⟨fields,rfl,session,thread,first,second,.inr ⟨(aliasOk accepted).1,sessionEncodes,none⟩⟩
      refine selectsBind (aliasSelects threadEncodes) fun _ _ => ?_
      split
      · exact selectsOk _
      · exact selectsError _ _
    · exact selectsError _ _
  · exact selectsError _ _

theorem hintsStray {metadata : Option Document} (stray : AliasUnencodable metadata) :
    transientIdentityHints metadata = .error .unicodeEncodeError := by
  obtain ⟨fields,rfl,session,thread,first,second,cause⟩ := stray
  simp only [transientIdentityHints,first,second]
  obtain none | ⟨canonical,encodes,none⟩ := cause
  · have failed : checkAlias session = .error .unicodeEncodeError := by simp [checkAlias,none]
    rw [failed]
    rfl
  · have passed : checkAlias session = .ok () := by simp [checkAlias,encodes,canonical]
    have failed : checkAlias thread = .error .unicodeEncodeError := by simp [checkAlias,none]
    rw [passed,failed]
    rfl

-- What the checks before the tool choice have let through.
structure Screened (endpoint : String) (body : Fields) (tools : List Document) (candidates : List ToolType) : Prop where
  endpoint : endpoint = "/v1/responses"
  fields : body.keysWithin supportedFields = true
  classes : checkAll (checkCaptured body) capturedFieldValueClasses = .ok ()
  listed : toolList body = .ok tools
  validated : validateTools tools [] = .ok candidates

-- What the checks before the copy of the body have let through.
structure Walked (endpoint : String) (body : Fields) (tools : List Document) (candidates : List ToolType) : Prop
    extends Screened endpoint body tools candidates where
  chosen : validateToolChoice (body.get (text "tool_choice")) candidates (tools.any localTool) = .ok ()
  keys : walkForbiddenKeys (toolsOf body) = .ok ()
  nested : checkAll rejectNestedCandidateTypes tools = .ok ()

inductive Strays (room : Nat) (endpoint : String) (body : Fields) : Prop
  | choice {tools candidates} (screened : Screened endpoint body tools candidates)
      (unhashable : ChoiceUnhashable (body.get (text "tool_choice")))
  | copy {tools candidates} (walked : Walked endpoint body tools candidates)
      (deep : room < height (.obj body))
  | identity {tools candidates names} (walked : Walked endpoint body tools candidates)
      (shallow : height (.obj body) ≤ room) (named : zeroArgumentFunctionNames body = .ok names)
      (unencodable : AliasUnencodable (body.get? (text "client_metadata")))

theorem onlyIfOk {condition : Bool} {e : Raised} (ok : onlyIf condition (.error e) = .ok ()) : condition = false := by
  cases condition with
  | false => rfl
  | true => cases ok

theorem normalizeSelects {room : Nat} {endpoint : String} {body : Fields} (clean : ¬ Strays room endpoint body) :
    Selects (normalize room endpoint body) := by
  refine selectsBind (onlyIfSelects _ (selectsError _ _)) fun _ endpointOk => ?_
  refine selectsBind (onlyIfSelects _ (selectsError _ _)) fun _ fieldsOk => ?_
  refine selectsBind (checkAllSelects (checkCapturedSelects body) _) fun _ classes => ?_
  refine selectsBind (by unfold toolList; split; split; exacts [selectsError _ _,selectsOk _,selectsError _ _])
    fun tools listed => ?_
  refine selectsBind (validateToolsSelects tools []) fun candidates validated => ?_
  have screened : Screened endpoint body tools candidates :=
    ⟨by simpa using onlyIfOk endpointOk,by simpa using onlyIfOk fieldsOk,classes,listed,validated⟩
  refine selectsBind (toolChoiceSelects _ _ fun stray => clean (.choice screened stray)) fun _ chosen => ?_
  refine selectsBind (forbiddenSelects _) fun _ keys => ?_
  refine selectsBind (checkAllSelects nestedSelects _) fun _ nested => ?_
  have walked : Walked endpoint body tools candidates := ⟨screened,chosen,keys,nested⟩
  have shallow : height (.obj body) ≤ room := by
    by_contra deep
    exact clean (.copy walked (Nat.not_le.mp deep))
  refine selectsBind (by unfold deepCopy; rw [if_pos shallow]; exact selectsOk _) fun _ _ => ?_
  refine selectsBind (zeroArgumentSelects body) fun names named => ?_
  exact selectsBind (hintsSelects fun stray => clean (.identity walked shallow named stray)) fun _ _ => selectsOk _

theorem screenedRun {room : Nat} {endpoint : String} {body : Fields} {tools : List Document}
    {candidates : List ToolType} (screened : Screened endpoint body tools candidates) :
    normalize room endpoint body = (do
      validateToolChoice (body.get (text "tool_choice")) candidates (tools.any localTool)
      walkForbiddenKeys (toolsOf body)
      checkAll rejectNestedCandidateTypes tools
      let copy ← deepCopy room body
      let names ← zeroArgumentFunctionNames body
      let hint ← transientIdentityHints (body.get? (text "client_metadata"))
      .ok ⟨endpoint,copy,if candidates.isEmpty then [] else ["adapter_managed_codex_search"],candidates,names,hint⟩) := by
  obtain ⟨rfl,fields,classes,listed,validated⟩ := screened
  have here : decide ("/v1/responses" ≠ "/v1/responses") = false := by decide
  unfold normalize
  rw [here,fields,classes,listed]
  change (validateTools tools [] >>= _) = _
  rw [validated]
  rfl

theorem straysRaise {room : Nat} {endpoint : String} {body : Fields} (stray : Strays room endpoint body) :
    ∃ e, normalize room endpoint body = .error e ∧ ∀ message code, e ≠ .selection message code := by
  cases stray with
  | choice screened unhashable =>
    rw [screenedRun screened,toolChoiceStrays _ _ unhashable]
    exact ⟨_,rfl,by simp⟩
  | copy walked deep =>
    have failed : deepCopy room body = .error .recursionError := if_neg (Nat.not_le.mpr deep)
    rw [screenedRun walked.toScreened,walked.chosen,walked.keys,walked.nested,failed]
    exact ⟨_,rfl,by simp⟩
  | identity walked shallow named unencodable =>
    have copied : deepCopy room body = .ok body := if_pos shallow
    rw [screenedRun walked.toScreened,walked.chosen,walked.keys,walked.nested,copied,named,hintsStray unencodable]
    exact ⟨_,rfl,by simp⟩

end Strays

section Confinement

structure Confined (body : Fields) (tools : List Document) (request : CanonicalRequest) : Prop where
  unchanged : request.body = body
  declared : toolsOf body = .arr tools
  keys : ∀ n d, Inside (.arr tools) n d → ∀ f ∈ d.fields, within forbiddenAuthorityKeys (lower f.1) = false
  shallow : ∀ n d, Inside (.arr tools) n d → n ≤ 32
  authority : ∀ n d, Inside (.arr tools) (n + 1) d → ∀ f ∈ d.fields, typeWithin forbiddenAuthorityTypes f = false
  search : ∀ tool ∈ tools, ∀ n d, Inside tool (n + 1) d → ∀ f ∈ d.fields, typeWithin candidateTypes f = false
  distinct : request.candidates.Nodup
  candidates : ∀ kind, kind ∈ request.candidates ↔ kind.isCandidate ∧ ∃ tool ∈ tools, Declares tool kind

theorem normalizeConfines {room : Nat} {endpoint : String} {body : Fields} {request : CanonicalRequest}
    (ok : normalize room endpoint body = .ok request) : ∃ tools, Confined body tools request := by
  obtain ⟨_,_,ok⟩ := okBind ok
  obtain ⟨_,_,ok⟩ := okBind ok
  obtain ⟨_,_,ok⟩ := okBind ok
  obtain ⟨tools,listed,ok⟩ := okBind ok
  obtain ⟨candidates,validated,ok⟩ := okBind ok
  obtain ⟨_,_,ok⟩ := okBind ok
  obtain ⟨_,keys,ok⟩ := okBind ok
  obtain ⟨_,nested,ok⟩ := okBind ok
  obtain ⟨copy,copied,ok⟩ := okBind ok
  obtain ⟨names,_,ok⟩ := okBind ok
  obtain ⟨hint,_,ok⟩ := okBind ok
  cases ok
  have declared : toolsOf body = .arr tools := by
    unfold toolList at listed
    split at listed
    · next shape =>
      split at listed
      · cases listed
      · cases listed
        exact shape
    · cases listed
  have same : copy = body := by
    unfold deepCopy at copied
    split at copied
    · cases copied
      rfl
    · cases copied
  rw [declared] at keys
  have found := validateToolsCandidates validated
  refine ⟨tools,same,declared,?_,?_,?_,?_,found.nodup List.nodup_nil,?_⟩
  · exact fun n d inside f mem => ((forbiddenClears keys inside).2 f mem).1
  · exact fun n d inside => (forbiddenClears keys inside).1
  · exact fun n d inside f mem => ((forbiddenClears keys inside).2 f mem).2 (Nat.succ_pos n)
  · exact fun tool mem n d inside => nestedClears (checkAllMem nested tool mem) inside
  · intro kind
    rw [found.exact]
    simp

-- Normalization raises its own error or returns a confined request.
def Normalized (room : Nat) (endpoint : String) (body : Fields) : Prop :=
  (∃ message code, normalize room endpoint body = .error (.selection message code)) ∨
  ∃ request tools, normalize room endpoint body = .ok request ∧ Confined body tools request

theorem normalizedIff (room : Nat) (endpoint : String) (body : Fields) :
    Normalized room endpoint body ↔ ¬ Strays room endpoint body := by
  constructor
  · intro normalized stray
    obtain ⟨e,raised,other⟩ := straysRaise stray
    obtain ⟨message,code,run⟩ | ⟨request,tools,run,_⟩ := normalized
    · rw [raised] at run
      exact other message code (Except.error.inj run)
    · rw [raised] at run
      cases run
  · intro clean
    cases run : normalize room endpoint body with
    | error e =>
      obtain ⟨message,code,rfl⟩ := normalizeSelects clean e run
      exact .inl ⟨message,code,run⟩
    | ok request =>
      obtain ⟨tools,confined⟩ := normalizeConfines run
      exact .inr ⟨request,tools,run,confined⟩

def listChoice : Fields := [(text "tool_choice",.obj [(text "type",.arr [])])]

def surrogateAlias : Fields :=
  [(text "client_metadata",.obj [(text "session_id",.str [0xD800]),(text "thread_id",.str [0xD800])])]

theorem normalizeRaisesStray :
    normalize 300 "/v1/responses" listChoice = .error .typeError ∧ ¬ Normalized 300 "/v1/responses" listChoice ∧
    normalize 300 "/v1/responses" surrogateAlias = .error .unicodeEncodeError ∧
      ¬ Normalized 300 "/v1/responses" surrogateAlias := by
  have raises : ∀ {body : Fields} {e : Raised}, (∀ message code, e ≠ .selection message code) →
      normalize 300 "/v1/responses" body = .error e → ¬ Normalized 300 "/v1/responses" body := by
    rintro body e other run (⟨message,code,own⟩ | ⟨request,tools,own,_⟩)
    · rw [run] at own
      exact other message code (Except.error.inj own)
    · rw [run] at own
      cases own
  have choice : normalize 300 "/v1/responses" listChoice = .error .typeError := by rfl
  have identity : normalize 300 "/v1/responses" surrogateAlias = .error .unicodeEncodeError := by rfl
  exact ⟨choice,raises (by simp) choice,identity,raises (by simp) identity⟩

end Confinement

end SlaifGateway.Clients
