import SlaifGateway.Tools.ExternalToolPolicy

/-! Namespace declarations whose mappings have an identity, so that one object may stand at
several places. The stack loop refuses a namespace it meets a second time; otherwise it
decides what the declarations below say, in whatever order they stand. -/
namespace SlaifGateway.Tools
open Library

inductive Shared where
  | null
  | bool (b : Bool)
  | int (n : Int)
  | number (text : String)
  | str (s : String)
  | arr (items : List Shared)
  | obj (id : Nat) (fields : List (String × Shared))

namespace Shared

mutual
def plain : Shared → Json
  | .null => .null
  | .bool b => .bool b
  | .int n => .int n
  | .number t => .number t
  | .str s => .str s
  | .arr items => .arr (plainItems items)
  | .obj _ fields => .obj (plainFields fields)

def plainItems : List Shared → List Json
  | [] => []
  | v :: rest => v.plain :: plainItems rest

def plainFields : List (String × Shared) → List (String × Json)
  | [] => []
  | (k,v) :: rest => (k,v.plain) :: plainFields rest
end

def identity : Shared → Option Nat
  | .obj id _ => some id
  | _ => none

def field (v : Shared) (key : String) : Shared :=
  match v with
  | .obj _ fields => (fields.lookup key).getD .null
  | _ => .null

def tools (v : Shared) : List Shared :=
  match v.field "tools" with
  | .arr items => items
  | _ => []

def nested (v : Shared) : List Shared := v.tools.filter fun c => isNamespace c.plain

theorem lookupSize {fields : List (String × Shared)} {key : String} {v : Shared} (found : fields.lookup key = some v) :
    sizeOf v < sizeOf fields := by
  induction fields with
  | nil => cases found
  | cons head rest ih =>
    obtain ⟨name,value⟩ := head
    rw [List.lookup_cons] at found
    split at found
    · cases found
      simp only [List.cons.sizeOf_spec,Prod.mk.sizeOf_spec]
      omega
    · have smaller := ih found
      simp only [List.cons.sizeOf_spec]
      omega

theorem itemsSize (items : List Shared) : (items.map sizeOf).sum < sizeOf items := by
  induction items with
  | nil => simp
  | cons head rest ih =>
    simp only [List.map_cons,List.sum_cons,List.cons.sizeOf_spec]
    omega

theorem fieldItemsSize {v : Shared} {key : String} {items : List Shared} (found : v.field key = .arr items) :
    (items.map sizeOf).sum < sizeOf v := by
  unfold field at found
  split at found
  · rename_i fields
    cases stored : fields.lookup key with
    | none => simp [stored] at found
    | some value =>
      have same : value = .arr items := by simpa [stored] using found
      have outer := lookupSize stored
      have inner := itemsSize items
      rw [same,arr.sizeOf_spec] at outer
      rw [obj.sizeOf_spec]
      omega
  · cases found

theorem nestedSize {v c : Shared} (mem : c ∈ v.nested) : sizeOf c < sizeOf v := by
  have inside := List.mem_of_mem_filter mem
  unfold tools at inside
  split at inside
  · next items found =>
    have total := fieldItemsSize found
    have part := List.single_le_sum (l := items.map sizeOf) (fun _ _ => Nat.zero_le _) _ (List.mem_map_of_mem inside)
    omega
  · cases inside

end Shared

-- `_namespace_children_are_client_operated`
def sharedLoop : List (Shared × Nat) → List (Option Nat) → Nat → Bool
  | [],_,_ => true
  | (ns,depth) :: stack,seen,childCount =>
    if ns.identity ∈ seen || maxNamespaceDepth < depth then false
    else if !(clientDeclarationControlMarkers "namespace" ns.plain).isEmpty then false
    else if !isRecognizableClientToolShape "namespace" ns.plain then false
    else
      match _found : ns.field "tools" with
      | .arr children =>
        if maxNamespaceChildDeclarations < childCount + children.length then false
        else if !children.all (fun c => childIsAcceptable c.plain) then false
        else
          sharedLoop (((children.filter fun c => isNamespace c.plain).map fun c => (c,depth + 1)).reverse ++ stack)
            (ns.identity :: seen) (childCount + children.length)
      | _ => false
  termination_by stack _ _ => (stack.map fun e => sizeOf e.1).sum
  decreasing_by
    have within := Shared.fieldItemsSize _found
    have fewer : ((children.filter fun c => isNamespace c.plain).map fun x => sizeOf x).sum ≤ (children.map sizeOf).sum :=
      (List.filter_sublist.map sizeOf).sum_le_sum (fun _ _ => Nat.zero_le _)
    simp only [List.map_append,List.map_reverse,List.map_map,Function.comp_def,List.sum_append,List.sum_reverse,
      List.map_cons,List.sum_cons]
    omega

def sharedChildrenAreClientOperated (v : Shared) : Bool := sharedLoop [(v,1)] [] 0

namespace Shared

-- The namespaces of a declaration with their depth, itself first.
def namespaces (v : Shared) (depth : Nat) : List (Shared × Nat) :=
  (v,depth) :: v.nested.attach.flatMap fun c => namespaces c.1 (depth + 1)
  termination_by sizeOf v
  decreasing_by exact nestedSize c.2

def descendants (v : Shared) : List Shared := (v.namespaces 1).flatMap fun e => e.1.tools

-- A declaration of a client-operated type, without authority markers and of its type's shape.
def operatedAs (t : String) (v : Shared) : Bool :=
  (clientDeclarationControlMarkers t v.plain).isEmpty && isRecognizableClientToolShape t v.plain

def operated (v : Shared) : Bool :=
  v.plain.isMapping && (typeOf v.plain).any fun t => t ∈ clientToolAliases && v.operatedAs t

theorem plainField (v : Shared) (key : String) : v.plain.field key = (v.field key).plain := by
  cases v with
  | obj id fields =>
    simp only [plain,Json.field,field]
    induction fields with
    | nil => rfl
    | cons head rest ih =>
      obtain ⟨k,value⟩ := head
      simp only [plainFields,List.lookup_cons]
      cases key == k with
      | true => rfl
      | false => exact ih
  | _ => rfl

theorem plainArr {v : Shared} {items : List Json} (found : v.plain = .arr items) : ∃ inner, v = .arr inner := by
  cases v with
  | arr inner => exact ⟨inner,rfl⟩
  | _ => cases found

theorem shapeTools {v : Shared} (shaped : isRecognizableClientToolShape "namespace" v.plain = true) :
    ∃ items, v.field "tools" = .arr items := by
  unfold isRecognizableClientToolShape at shaped
  simp only [plainField] at shaped
  rw [if_neg (by decide),if_neg (by decide),if_pos trivial,Bool.and_eq_true] at shaped
  obtain ⟨_,array⟩ := shaped
  split at array
  · next found => exact plainArr found
  · cases array

theorem namespacesEq (v : Shared) (depth : Nat) :
    v.namespaces depth = (v,depth) :: v.nested.flatMap fun c => c.namespaces (depth + 1) := by
  rw [namespaces]
  congr 1
  have values := List.flatMap_map (f := Subtype.val) (g := fun c => c.namespaces (depth + 1)) (l := v.nested.attach)
  rw [List.attach_map_subtype_val] at values
  exact values.symm

-- What the loop reads of a namespace when it takes it off the stack.
structure Level where
  depth : Nat
  identity : Option Nat
  fine : Bool
  declared : Nat

def level (e : Shared × Nat) : Level :=
  ⟨e.2,e.1.identity,e.1.operatedAs "namespace" && e.1.tools.all fun c => childIsAcceptable c.plain,e.1.tools.length⟩

def levels (stack : List (Shared × Nat)) : List Level := (stack.flatMap fun e => e.1.namespaces e.2).map level

def Level.Sound (l : Level) : Prop := l.depth ≤ maxNamespaceDepth ∧ l.fine = true

structure Passes (levels : List Level) (seen : List (Option Nat)) (count : Nat) : Prop where
  sound : ∀ l ∈ levels, l.Sound
  few : count + (levels.map Level.declared).sum ≤ maxNamespaceChildDeclarations
  distinct : (levels.map Level.identity).Nodup
  fresh : ∀ l ∈ levels, l.identity ∉ seen

theorem Passes.perm {a b : List Level} {seen : List (Option Nat)} {count : Nat} (perm : a.Perm b)
    (passes : Passes a seen count) : Passes b seen count where
  sound l mem := passes.sound l (perm.mem_iff.mpr mem)
  few := (perm.map Level.declared).sum_eq ▸ passes.few
  distinct := (perm.map Level.identity).nodup_iff.mp passes.distinct
  fresh l mem := passes.fresh l (perm.mem_iff.mpr mem)

theorem passesCons {l : Level} {rest : List Level} {seen : List (Option Nat)} {count : Nat} :
    Passes (l :: rest) seen count ↔ l.Sound ∧ l.identity ∉ seen ∧ Passes rest (l.identity :: seen) (count + l.declared) := by
  constructor
  · rintro ⟨sound,few,distinct,fresh⟩
    rw [List.map_cons,List.sum_cons] at few
    rw [List.map_cons,List.nodup_cons] at distinct
    refine ⟨sound l List.mem_cons_self,fresh l List.mem_cons_self,fun x mem => sound x (List.mem_cons_of_mem _ mem),by omega,
      distinct.2,fun x mem => ?_⟩
    rw [List.mem_cons,not_or]
    exact ⟨fun same => distinct.1 (same ▸ List.mem_map_of_mem mem),fresh x (List.mem_cons_of_mem _ mem)⟩
  · rintro ⟨sound,new,passes⟩
    refine ⟨List.forall_mem_cons.mpr ⟨sound,passes.sound⟩,?_,?_,?_⟩
    · have few := passes.few
      rw [List.map_cons,List.sum_cons]
      omega
    · rw [List.map_cons,List.nodup_cons]
      refine ⟨fun mem => ?_,passes.distinct⟩
      obtain ⟨x,known,same⟩ := List.mem_map.mp mem
      exact passes.fresh x known (same ▸ List.mem_cons_self)
    · refine List.forall_mem_cons.mpr ⟨new,fun x mem => ?_⟩
      exact fun old => passes.fresh x mem (List.mem_cons_of_mem _ old)

-- The stack after a namespace is taken off stands for what is below it, in another order.
theorem levelsPushed (v : Shared) (depth : Nat) (stack : List (Shared × Nat)) :
    (levels ((v.nested.map fun c => (c,depth + 1)).reverse ++ stack)).Perm
      ((v.nested.flatMap fun c => c.namespaces (depth + 1)).map level ++ levels stack) := by
  unfold levels
  rw [List.flatMap_append,List.map_append]
  refine List.Perm.append_right _ (List.Perm.map _ ?_)
  refine ((List.reverse_perm _).flatMap_right _).trans ?_
  rw [List.flatMap_map]

theorem levelsCons (v : Shared) (depth : Nat) (stack : List (Shared × Nat)) :
    levels ((v,depth) :: stack) =
      level (v,depth) :: ((v.nested.flatMap fun c => c.namespaces (depth + 1)).map level ++ levels stack) := by
  unfold levels
  rw [List.flatMap_cons,namespacesEq,List.map_append,List.map_cons,List.cons_append]

theorem loopIff (stack : List (Shared × Nat)) (seen : List (Option Nat)) (count : Nat)
    (few : count ≤ maxNamespaceChildDeclarations) :
    sharedLoop stack seen count = true ↔ Passes (levels stack) seen count := by
  fun_induction sharedLoop stack seen count with
  | case1 seen count => exact iff_of_true rfl ⟨by simp [levels],by simpa [levels] using few,by simp [levels],by simp [levels]⟩
  | case2 ns depth stack seen count refused =>
    rw [levelsCons,passesCons]
    refine iff_of_false Bool.false_ne_true ?_
    rintro ⟨sound,new,_⟩
    obtain again | deep := (Bool.or_eq_true _ _).mp refused
    · exact new (of_decide_eq_true again)
    · exact absurd sound.1 (Nat.not_le.mpr (of_decide_eq_true deep))
  | case3 ns depth stack seen count _ marked =>
    rw [levelsCons,passesCons]
    refine iff_of_false Bool.false_ne_true ?_
    rintro ⟨⟨_,fine⟩,_⟩
    simp [level,operatedAs] at fine marked
    exact marked fine.1.1
  | case4 ns depth stack seen count _ _ misshapen =>
    rw [levelsCons,passesCons]
    refine iff_of_false Bool.false_ne_true ?_
    rintro ⟨⟨_,fine⟩,_⟩
    simp [level,operatedAs] at fine misshapen
    exact absurd fine.1.2 (by simp [misshapen])
  | case5 ns depth stack seen count _ _ _ children found many =>
    rw [levelsCons,passesCons]
    refine iff_of_false Bool.false_ne_true ?_
    rintro ⟨_,_,passes⟩
    have bound := passes.few
    simp only [level,tools,found] at bound
    omega
  | case6 ns depth stack seen count _ _ _ children found _ foreign =>
    rw [levelsCons,passesCons]
    refine iff_of_false Bool.false_ne_true ?_
    rintro ⟨⟨_,fine⟩,_⟩
    simp only [level,tools,found,Bool.and_eq_true] at fine
    simp [fine.2] at foreign
  | case7 ns depth stack seen count entered unmarked shaped children found room own ih =>
    rw [ih (by omega),levelsCons,passesCons]
    have nestedEq : ns.nested = children.filter fun c => isNamespace c.plain := by rw [nested,tools,found]
    have pushed := levelsPushed ns depth stack
    rw [nestedEq] at pushed ⊢
    have declared : (level (ns,depth)).declared = children.length := by simp only [level,tools,found]
    rw [declared]
    simp only [Bool.or_eq_true,decide_eq_true_eq,not_or,Nat.not_lt] at entered
    have sound : (level (ns,depth)).Sound := by
      refine ⟨entered.2,?_⟩
      simp only [level,operatedAs,tools,found]
      simp_all
    exact ⟨fun passes => ⟨sound,entered.1,passes.perm pushed⟩,fun passes => passes.2.2.perm pushed.symm⟩
  | case8 ns depth stack seen count _ _ shaped other =>
    rw [levelsCons,passesCons]
    refine iff_of_false Bool.false_ne_true ?_
    rw [Bool.not_eq_true,Bool.not_eq_false'] at shaped
    obtain ⟨items,found⟩ := shapeTools shaped
    exact absurd found (other items)

theorem operatedAcceptable (c : Shared) :
    c.operated = true ↔ childIsAcceptable c.plain = true ∧ (isNamespace c.plain = true → c.operatedAs "namespace" = true) := by
  unfold operated childIsAcceptable isNamespace operatedAs
  cases c.plain.isMapping with
  | false => simp
  | true =>
    cases typeOf c.plain with
    | none => simp
    | some t =>
      by_cases ns : t = "namespace"
      · subst ns
        simp [clientToolAliases]
      · simp [ns]

theorem selfListed (v : Shared) (depth : Nat) : (v,depth) ∈ v.namespaces depth := by
  rw [namespacesEq]
  exact List.mem_cons_self

theorem nestedListed (v : Shared) (depth : Nat) {e : Shared × Nat} {c : Shared} (mem : e ∈ v.namespaces depth)
    (child : c ∈ e.1.nested) : (c,e.2 + 1) ∈ v.namespaces depth := by
  rw [namespacesEq] at mem ⊢
  obtain rfl | below := List.mem_cons.mp mem
  · exact List.mem_cons_of_mem _ (List.mem_flatMap.mpr ⟨c,child,selfListed c _⟩)
  · obtain ⟨inner,here,listed⟩ := List.mem_flatMap.mp below
    exact List.mem_cons_of_mem _ (List.mem_flatMap.mpr ⟨inner,here,nestedListed inner (depth + 1) listed child⟩)
  termination_by sizeOf v
  decreasing_by exact nestedSize here

theorem listedFrom (v : Shared) (depth : Nat) {e : Shared × Nat} (mem : e ∈ v.namespaces depth) :
    e = (v,depth) ∨ ∃ p ∈ v.namespaces depth, e.1 ∈ p.1.nested := by
  have unfolded := mem
  rw [namespacesEq] at unfolded
  obtain rfl | below := List.mem_cons.mp unfolded
  · exact .inl rfl
  · obtain ⟨inner,here,listed⟩ := List.mem_flatMap.mp below
    refine .inr ?_
    obtain rfl | ⟨p,known,child⟩ := listedFrom inner (depth + 1) listed
    · exact ⟨(v,depth),selfListed v depth,here⟩
    · refine ⟨p,?_,child⟩
      rw [namespacesEq]
      exact List.mem_cons_of_mem _ (List.mem_flatMap.mpr ⟨inner,here,known⟩)
  termination_by sizeOf v
  decreasing_by exact nestedSize here

theorem levelsOne (v : Shared) : levels [(v,1)] = (v.namespaces 1).map level := by
  rw [levels,List.flatMap_singleton]

-- The loop's conditions on the namespaces, read as conditions on the declarations.
theorem soundIff (v : Shared) : (∀ l ∈ levels [(v,1)], l.Sound) ↔
    v.operatedAs "namespace" = true ∧ (∀ c ∈ v.descendants, c.operated = true) ∧
      ∀ e ∈ v.namespaces 1, e.2 ≤ maxNamespaceDepth := by
  rw [levelsOne,List.forall_mem_map]
  simp only [Level.Sound,level,Bool.and_eq_true,List.all_eq_true,descendants,List.mem_flatMap]
  constructor
  · intro each
    refine ⟨(each _ (selfListed v 1)).2.1,?_,fun e mem => (each e mem).1⟩
    rintro c ⟨e,mem,child⟩
    refine (operatedAcceptable c).mpr ⟨(each e mem).2.2 c child,fun ns => ?_⟩
    exact (each _ (nestedListed v 1 mem (List.mem_filter.mpr ⟨child,ns⟩))).2.1
  · rintro ⟨root,below,shallow⟩ e mem
    refine ⟨shallow e mem,?_,fun c child => ((operatedAcceptable c).mp (below c ⟨e,mem,child⟩)).1⟩
    obtain rfl | ⟨p,known,child⟩ := listedFrom v 1 mem
    · exact root
    · obtain ⟨listed,ns⟩ := List.mem_filter.mp child
      exact ((operatedAcceptable e.1).mp (below e.1 ⟨p,known,listed⟩)).2 ns

theorem passesIff (v : Shared) : Passes (levels [(v,1)]) [] 0 ↔
    (v.operatedAs "namespace" = true ∧ (∀ c ∈ v.descendants, c.operated = true) ∧
      ∀ e ∈ v.namespaces 1, e.2 ≤ maxNamespaceDepth) ∧
    v.descendants.length ≤ maxNamespaceChildDeclarations ∧ ((v.namespaces 1).map fun e => e.1.identity).Nodup := by
  rw [← soundIff]
  have identities : (levels [(v,1)]).map Level.identity = (v.namespaces 1).map fun e => e.1.identity := by
    simp [levels,level]
  have declared : ((levels [(v,1)]).map Level.declared).sum = v.descendants.length := by
    simp [levels,level,descendants,List.length_flatMap,Function.comp_def]
  constructor
  · rintro ⟨sound,few,distinct,_⟩
    rw [Nat.zero_add,declared] at few
    exact ⟨sound,few,identities ▸ distinct⟩
  · rintro ⟨sound,few,distinct⟩
    exact ⟨sound,by rwa [Nat.zero_add,declared],identities ▸ distinct,by simp⟩

-- The children of a mapping stand in another order, at any depth.
inductive Reordered : Shared → Shared → Prop
  | same (v : Shared) : Reordered v v
  | order {id before after items items'} (outside : "tools" ∉ before.map Prod.fst) (perm : List.Perm items items') :
    Reordered (.obj id (before ++ ("tools",.arr items) :: after)) (.obj id (before ++ ("tools",.arr items') :: after))
  | inside {id before after left right c c'} (outside : "tools" ∉ before.map Prod.fst) (child : Reordered c c') :
    Reordered (.obj id (before ++ ("tools",.arr (left ++ c :: right)) :: after))
      (.obj id (before ++ ("tools",.arr (left ++ c' :: right)) :: after))
  | trans {u v w} (first : Reordered u v) (second : Reordered v w) : Reordered u w

section Retooled
variable {id : Nat} {before after : List (String × Shared)} {items items' : List Shared}

def retooled (id : Nat) (before after : List (String × Shared)) (items : List Shared) : Shared :=
  .obj id (before ++ ("tools",.arr items) :: after)

theorem retooledKeys : (retooled id before after items).plain.keys = (retooled id before after items').plain.keys := by
  have keys : ∀ fields : List (String × Shared), (plainFields fields).map Prod.fst = fields.map Prod.fst := by
    intro fields
    induction fields with
    | nil => rfl
    | cons head rest ih => simp only [plainFields,List.map_cons,ih]
  simp only [retooled,plain,Json.keys,keys,List.map_append,List.map_cons]

theorem retooledField {key : String} (other : key ≠ "tools") :
    (retooled id before after items).plain.field key = (retooled id before after items').plain.field key := by
  rw [plainField,plainField]
  simp only [retooled,field]
  induction before with
  | nil => simp only [List.nil_append,List.lookup_cons,beq_false_of_ne other]
  | cons head rest ih =>
    obtain ⟨k,v⟩ := head
    simp only [List.cons_append,List.lookup_cons]
    cases key == k with
    | true => rfl
    | false => exact ih

variable (outside : "tools" ∉ before.map Prod.fst)
include outside

theorem retooledTools : (retooled id before after items).field "tools" = .arr items := by
  simp only [retooled,field]
  induction before with
  | nil => simp
  | cons head rest ih =>
    obtain ⟨k,v⟩ := head
    simp only [List.map_cons,List.mem_cons,not_or] at outside
    simp only [List.cons_append,List.lookup_cons,beq_false_of_ne outside.1]
    exact ih outside.2

theorem retooledAs (t : String) (known : t ≠ "tools") :
    operatedAs t (retooled id before after items) = operatedAs t (retooled id before after items') := by
  have markers : ∀ kept, clientDeclarationControlMarkers t (retooled id before after kept).plain =
      clientDeclarationControlMarkers t (retooled id before after items).plain := by
    intro kept
    unfold clientDeclarationControlMarkers declarationControlMarkers
    rw [@retooledKeys id before after kept items,@retooledField id before after kept items t known]
  unfold operatedAs isRecognizableClientToolShape
  rw [markers items',@retooledField id before after items items' t known,
    @retooledField id before after items items' "name" (by decide)]
  rw [plainField _ "tools",plainField _ "tools",retooledTools outside,retooledTools outside]
  rfl

theorem retooledAcceptable :
    childIsAcceptable (retooled id before after items).plain = childIsAcceptable (retooled id before after items').plain ∧
    isNamespace (retooled id before after items).plain = isNamespace (retooled id before after items').plain := by
  have type : typeOf (retooled id before after items).plain = typeOf (retooled id before after items').plain := by
    rw [typeOf,typeOf,retooledField (by decide)]
  have mapping : ∀ kept, (retooled id before after kept).plain.isMapping = true := fun _ => rfl
  unfold childIsAcceptable isNamespace
  rw [mapping items,mapping items',type]
  refine ⟨?_,rfl⟩
  cases typeOf (retooled id before after items').plain with
  | none => rfl
  | some t =>
    simp only [Option.any_some,Bool.true_and]
    by_cases known : t ∈ clientToolAliases
    · have other : t ≠ "tools" := by
        rintro rfl
        exact absurd known (by decide)
      have same := @retooledAs id before after items items' outside t other
      unfold operatedAs at same
      rw [same]
    · simp [known]

-- Children of the same verdicts and the same levels below give the same levels.
theorem retooledLevels (depth : Nat) (length : items.length = items'.length)
    (verdicts : (items.all fun c => childIsAcceptable c.plain) = items'.all fun c => childIsAcceptable c.plain)
    (below : (((items.filter fun c => isNamespace c.plain).flatMap fun c => c.namespaces (depth + 1)).map level).Perm
      (((items'.filter fun c => isNamespace c.plain).flatMap fun c => c.namespaces (depth + 1)).map level)) :
    (((retooled id before after items).namespaces depth).map level).Perm
      (((retooled id before after items').namespaces depth).map level) := by
  have tools : ∀ kept, (retooled id before after kept).tools = kept := by
    intro kept
    rw [Shared.tools,retooledTools outside]
  have top : level (retooled id before after items,depth) = level (retooled id before after items',depth) := by
    simp only [level,tools,length,verdicts]
    rw [retooledAs outside "namespace" (by decide)]
    rfl
  rw [namespacesEq,namespacesEq,List.map_cons,List.map_cons,top,nested,nested,tools,tools]
  exact below.cons _

end Retooled

structure Indistinct (v w : Shared) : Prop where
  acceptable : childIsAcceptable v.plain = childIsAcceptable w.plain
  namespaced : isNamespace v.plain = isNamespace w.plain
  levels : ∀ depth, ((v.namespaces depth).map level).Perm ((w.namespaces depth).map level)

theorem reorderedIndistinct {v w : Shared} (reordered : Reordered v w) : Indistinct v w := by
  induction reordered with
  | same v => exact ⟨rfl,rfl,fun _ => .refl _⟩
  | order outside perm =>
    obtain ⟨acceptable,namespaced⟩ := retooledAcceptable outside
    refine ⟨acceptable,namespaced,fun depth => retooledLevels outside depth perm.length_eq ?_ ?_⟩
    · rw [Bool.eq_iff_iff,List.all_eq_true,List.all_eq_true]
      exact ⟨fun each c mem => each c (perm.mem_iff.mpr mem),fun each c mem => each c (perm.mem_iff.mp mem)⟩
    · exact ((perm.filter _).flatMap_right _).map _
  | inside outside child ih =>
    obtain ⟨acceptable,namespaced⟩ := retooledAcceptable outside
    refine ⟨acceptable,namespaced,fun depth => retooledLevels outside depth (by simp) ?_ ?_⟩
    · simp only [List.all_append,List.all_cons,ih.acceptable]
    · simp only [List.filter_append,List.filter_cons,List.flatMap_append,List.map_append,ih.namespaced]
      refine List.Perm.append_left _ ?_
      split
      · simp only [List.flatMap_cons,List.map_append]
        exact (ih.levels (depth + 1)).append_right _
      · exact .refl _
  | trans first second ih ih' =>
    exact ⟨ih.acceptable.trans ih'.acceptable,ih.namespaced.trans ih'.namespaced,
      fun depth => (ih.levels depth).trans (ih'.levels depth)⟩

end Shared

theorem sharedIff (v : Shared) : sharedChildrenAreClientOperated v = true ↔ Shared.Passes (Shared.levels [(v,1)]) [] 0 :=
  Shared.loopIff _ _ _ (by decide)

namespace Twice

def inner : Shared := .obj 1 [("type",.str "namespace"),("name",.str "b"),("tools",.arr [])]

def outer : Shared := .obj 0 [("type",.str "namespace"),("name",.str "a"),("tools",.arr [inner,inner])]

theorem innerListed (depth : Nat) : inner.namespaces depth = [(inner,depth)] := by
  rw [Shared.namespacesEq]
  rfl

theorem listed : outer.namespaces 1 = [(outer,1),(inner,2),(inner,2)] := by
  have nested : outer.nested = [inner,inner] := rfl
  rw [Shared.namespacesEq,nested,List.flatMap_cons,List.flatMap_singleton,innerListed]
  rfl

end Twice

end SlaifGateway.Tools
