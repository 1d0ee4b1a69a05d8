import SlaifGateway.Dialect.CompatibilityRules

/-! Splitting an object by compiled rules loses nothing but empty values: what is taken out is
declared metadata, kept unchanged unless its rule admits only empty values. -/
namespace SlaifGateway.Dialect
open Library

def Blank (v : Document) : Prop := v = .null ∨ v = .str [] ∨ v = .arr [] ∨ v = .obj []

theorem encodePointNonempty {c : CodePoint} {bytes : List UInt8} (ok : encodePoint c = some bytes) : bytes ≠ [] := by
  unfold encodePoint at ok
  split_ifs at ok <;> cases ok <;> simp

theorem encodeEmpty {t : Text} {bytes : List UInt8} (ok : encode t = some bytes) (short : bytes.length ≤ 0) :
    t = [] := by
  cases t with
  | nil => rfl
  | cons c rest =>
    simp only [encode,Option.bind_eq_bind,Option.bind_eq_some_iff,Option.some.injEq] at ok
    obtain ⟨head,first,tail,_,rfl⟩ := ok
    have some := List.length_pos_of_ne_nil (encodePointNonempty first)
    simp only [List.length_append] at short
    omega

namespace ValueRule

theorem enumBlank {values : List Document} {v : Document} (empty : (enum values).onlyEmpty)
    (taken : (enum values).accepts v) : Blank v := by
  simp only [onlyEmpty,List.all_eq_true] at empty
  simp only [accepts,List.any_eq_true] at taken
  obtain ⟨item,mem,equal⟩ := taken
  have shape := empty item mem
  cases item with
  | null =>
    cases v with
    | null => exact .inl rfl
    | _ => cases equal
  | str t =>
    have none : t = [] := by simpa [Document.isNull,Document.isText,text] using shape
    subst none
    cases v with
    | str u =>
      have same : u = [] := by simpa [same] using equal
      exact .inr (.inl (by rw [same]))
    | _ => cases equal
  | _ => cases shape

theorem stringBlank {minimum maximum : Int} {v : Document} (empty : (string minimum maximum).onlyEmpty)
    (taken : (string minimum maximum).accepts v) : Blank v := by
  simp only [onlyEmpty,decide_eq_true_eq] at empty
  simp only [accepts] at taken
  split at taken
  · next t =>
    split at taken
    · next bytes ok =>
      simp only [Bool.and_eq_true,decide_eq_true_eq] at taken
      rw [encodeEmpty ok (by omega)]
      exact .inr (.inl rfl)
    · cases taken
  · cases taken

theorem arrayBlank {maximum : Int} {child : ValueRule} {v : Document} (empty : (array maximum child).onlyEmpty)
    (taken : (array maximum child).accepts v) : Blank v := by
  simp only [onlyEmpty,decide_eq_true_eq] at empty
  simp only [accepts] at taken
  split at taken
  · next items =>
    simp only [Bool.and_eq_true,decide_eq_true_eq] at taken
    have none : items = [] := List.eq_nil_of_length_eq_zero (by omega)
    exact .inr (.inr (.inl (by rw [none])))
  · cases taken

theorem objectBlank {maximum : Nat} {fields : List (Text × Bool × ValueRule)} {v : Document}
    (empty : (object maximum fields).onlyEmpty) (taken : (object maximum fields).accepts v) : Blank v := by
  simp only [onlyEmpty,List.isEmpty_iff] at empty
  simp only [accepts] at taken
  split at taken
  · next values =>
    subst empty
    simp only [Bool.and_eq_true,List.all_eq_true,List.map_nil,List.contains_nil,Bool.false_eq_true] at taken
    have none : values = [] := by
      cases values with
      | nil => rfl
      | cons head rest => exact absurd (taken.1.2 head.1 (by simp [Fields.keys])) id
    exact .inr (.inr (.inr (by rw [none])))
  · cases taken

-- The syntactic test against the interpreter, by induction on the nesting of alternatives.
mutual
theorem onlyEmptyBlank : ∀ (rule : ValueRule) (v : Document), rule.onlyEmpty → rule.accepts v → Blank v
  | .null,v,_,taken => by
    cases v <;> simp [accepts,Document.isNull] at taken
    exact .inl rfl
  | .enum _,_,empty,taken => enumBlank empty taken
  | .string _ _,_,empty,taken => stringBlank empty taken
  | .array _ _,_,empty,taken => arrayBlank empty taken
  | .object _ _,_,empty,taken => objectBlank empty taken
  | .oneOf children,v,empty,taken =>
    onlyEmptyAnyBlank children v (by simpa [onlyEmpty] using empty) (by simpa [accepts] using taken)
  | .boolean,_,empty,_ => by simp [onlyEmpty] at empty
  | .integer _ _,_,empty,_ => by simp [onlyEmpty] at empty
  | .number _ _,_,empty,_ => by simp [onlyEmpty] at empty

theorem onlyEmptyAnyBlank : ∀ (rules : List ValueRule) (v : Document),
    onlyEmptyAll rules → acceptsAny rules v → Blank v
  | [],_,_,taken => by simp [acceptsAny] at taken
  | rule :: rest,v,empty,taken => by
    simp only [onlyEmptyAll,Bool.and_eq_true] at empty
    simp only [acceptsAny,Bool.or_eq_true] at taken
    obtain here | later := taken
    · exact onlyEmptyBlank rule v empty.1 here
    · exact onlyEmptyAnyBlank rest v empty.2 later
end

end ValueRule

-- What the compiler checked of a field rule.
structure FieldRule.Sound (scope : Text) (rule : FieldRule) : Prop where
  named : isName rule.name
  unmarked : authorityMarked rule.name = false
  unprotected : rule.name ∉ protectedFields scope
  dropsEmpty : rule.action = .drop → rule.value.onlyEmpty

def DialectRules.Sound (rules : DialectRules) : Prop :=
  ∀ scope fields, (scope,fields) ∈ rules.extensions → ∀ rule ∈ fields, rule.Sound scope

section Compiler
variable {α β : Type}

def Yields (x : Compile α) (a : α) : Prop := ∃ s s', x s = .ok (a,s')

theorem yieldsBind {x : Compile α} {f : α → Compile β} {b : β} (ok : Yields (x >>= f) b) :
    ∃ a, Yields x a ∧ Yields (f a) b := by
  obtain ⟨s,s',run⟩ := ok
  change (x s >>= fun p => f p.1 p.2) = _ at run
  cases first : x s with
  | error e => rw [first] at run; cases run
  | ok p =>
    rw [first] at run
    exact ⟨p.1,⟨s,p.2,first⟩,⟨p.2,s',run⟩⟩

theorem yieldsPure {a b : α} (ok : Yields (pure a) b) : b = a := by
  obtain ⟨s,s',run⟩ := ok
  cases run
  rfl

theorem yieldsThrow {e : CompatibilityRuleError} {b : α} (ok : Yields (throw e) b) : False := by
  obtain ⟨s,s',run⟩ := ok
  cases run

theorem yieldsCheck {condition : Bool} {u : Unit} (ok : Yields (check condition) u) : condition = true := by
  unfold check at ok
  split at ok
  · assumption
  · exact (yieldsThrow ok).elim

theorem yieldsMapM {f : α → Compile β} : ∀ {xs : List α} {ys : List β}, Yields (xs.mapM f) ys →
    ∀ y ∈ ys, ∃ x ∈ xs, Yields (f x) y
  | [],ys,ok => by
    rw [List.mapM_nil] at ok
    rw [yieldsPure ok]
    simp
  | x :: rest,ys,ok => by
    rw [List.mapM_cons] at ok
    obtain ⟨y,first,ok⟩ := yieldsBind ok
    obtain ⟨others,later,ok⟩ := yieldsBind ok
    rw [yieldsPure ok]
    intro z mem
    obtain rfl | mem := List.mem_cons.mp mem
    · exact ⟨x,by simp,first⟩
    · obtain ⟨x',mem',made⟩ := yieldsMapM later z mem
      exact ⟨x',List.mem_cons_of_mem _ mem',made⟩

end Compiler

theorem fieldNameOk {scope : Option Text} {name out : Text} (ok : Yields (fieldName scope name) out) :
    fieldNameValid scope out := by
  unfold fieldName at ok
  split at ok
  · rw [yieldsPure ok]
    assumption
  · exact (yieldsThrow ok).elim

theorem parseFieldSound {scope name : Text} {field : Document} {rule : FieldRule}
    (ok : Yields (parseField scope name field) rule) : rule.Sound scope := by
  obtain ⟨name,named,ok⟩ := yieldsBind ok
  obtain ⟨field,_,ok⟩ := yieldsBind ok
  obtain ⟨_,_,ok⟩ := yieldsBind ok
  obtain ⟨action,_,ok⟩ := yieldsBind ok
  obtain ⟨value,_,ok⟩ := yieldsBind ok
  obtain ⟨_,drops,ok⟩ := yieldsBind ok
  rw [yieldsPure ok]
  have valid := fieldNameOk named
  have empty := yieldsCheck drops
  simp only [fieldNameValid,Bool.and_eq_true,Bool.not_eq_true',List.contains_eq_mem,decide_eq_false_iff_not] at valid
  refine ⟨valid.1.1,valid.1.2,valid.2,?_⟩
  rintro rfl
  simpa using empty

theorem parseExtensionsSound : ∀ {raw : Fields} {total : Nat} {extensions : List (Text × List FieldRule)},
    Yields (parseExtensions raw total) extensions →
    ∀ scope fields, (scope,fields) ∈ extensions → ∀ rule ∈ fields, rule.Sound scope
  | [],_,extensions,ok => by
    rw [yieldsPure ok]
    simp
  | (scope,values) :: rest,total,extensions,ok => by
    obtain ⟨values,_,ok⟩ := yieldsBind ok
    obtain ⟨_,_,ok⟩ := yieldsBind ok
    obtain ⟨fields,parsed,ok⟩ := yieldsBind ok
    obtain ⟨_,_,ok⟩ := yieldsBind ok
    obtain ⟨others,later,ok⟩ := yieldsBind ok
    rw [yieldsPure ok]
    intro scope' fields' mem rule ruleMem
    obtain equal | mem := List.mem_cons.mp mem
    · cases equal
      obtain ⟨⟨name,field⟩,_,made⟩ := yieldsMapM parsed rule ruleMem
      exact parseFieldSound made
    · exact parseExtensionsSound later scope' fields' mem rule ruleMem

theorem parseSound {document : Document} {rules : DialectRules} (ok : parseDialectRules document = .ok rules) :
    rules.Sound := by
  have run : Yields (parseRules document) rules := by
    unfold parseDialectRules StateT.run' at ok
    cases done : parseRules document 0 with
    | error e => rw [done] at ok; cases ok
    | ok p =>
      rw [done] at ok
      cases ok
      exact ⟨0,p.2,done⟩
  obtain ⟨fields,_,run⟩ := yieldsBind run
  obtain ⟨_,_,run⟩ := yieldsBind run
  obtain ⟨features,_,run⟩ := yieldsBind run
  obtain ⟨_,_,run⟩ := yieldsBind run
  obtain ⟨_,_,run⟩ := yieldsBind run
  obtain ⟨raw,_,run⟩ := yieldsBind run
  obtain ⟨_,_,run⟩ := yieldsBind run
  obtain ⟨extensions,parsed,run⟩ := yieldsBind run
  obtain ⟨tools,_,run⟩ := yieldsBind run
  obtain ⟨_,_,run⟩ := yieldsBind run
  obtain ⟨custom,_,run⟩ := yieldsBind run
  rw [yieldsPure run]
  exact parseExtensionsSound parsed

theorem rulesForSound {rules : DialectRules} (sound : rules.Sound) (scope : Text) :
    ∀ rule ∈ rules.rulesFor scope, rule.Sound scope := by
  intro rule mem
  unfold DialectRules.rulesFor at mem
  cases found : rules.extensions.lookup scope with
  | none => simp [found] at mem
  | some fields =>
    rw [found,Option.getD_some] at mem
    obtain ⟨before,after,shape,_⟩ := List.lookup_eq_some_iff.mp found
    exact sound scope fields (by rw [shape]; simp) rule mem

section Encoding

theorem hexDigitPlain (n : Nat) : isSurrogate (Document.hexDigit n) = false := by
  have low : (Document.hexDigit n).val < 128 := by
    unfold Document.hexDigit
    split <;> dsimp only <;> omega
  simp only [isSurrogate,Bool.and_eq_false_iff,decide_eq_false_iff_not]
  omega

theorem unicodeEscapePlain (n : Nat) : ∀ c ∈ Document.unicodeEscape n, isSurrogate c = false := by
  intro c mem
  simp only [Document.unicodeEscape,List.mem_append,List.mem_cons,List.not_mem_nil,or_false] at mem
  obtain mem | rfl | rfl | rfl | rfl := mem
  · exact textPlain (by decide) c mem
  all_goals exact hexDigitPlain _

theorem shortEscapePlain : ∀ entry ∈ Document.shortEscapes, (text entry.2).all fun c => decide (c.val < 128) := by
  decide

theorem escapePlain {c : CodePoint} (plain : isSurrogate c = false) :
    ∀ d ∈ Document.escape false c, isSurrogate d = false := by
  intro d mem
  unfold Document.escape at mem
  cases found : Document.shortEscapes.lookup c.val with
  | some short =>
    rw [found] at mem
    obtain ⟨before,after,shape,_⟩ := List.lookup_eq_some_iff.mp found
    exact textPlain (shortEscapePlain (c.val,short) (by rw [shape]; simp)) d mem
  | none =>
    rw [found] at mem
    dsimp only at mem
    by_cases control : c.val < 32
    · rw [if_pos control] at mem
      exact unicodeEscapePlain _ d mem
    · rw [if_neg control,Bool.false_and,if_neg Bool.false_ne_true] at mem
      rw [List.mem_singleton] at mem
      rw [mem]
      exact plain

theorem quotePlain {t : Text} (plain : ∀ c ∈ t, isSurrogate c = false) :
    ∀ d ∈ Document.quote false t, isSurrogate d = false := by
  intro d mem
  simp only [Document.quote,List.mem_append,List.mem_flatMap] at mem
  obtain (mem | ⟨c,source,mem⟩) | mem := mem
  · exact textPlain (by decide) d mem
  · exact escapePlain (plain c source) d mem
  · exact textPlain (by decide) d mem

theorem namePlain {t : Text} (named : isName t) : ∀ c ∈ t, isSurrogate c = false := by
  have part : ∀ c, isNamePart c → isSurrogate c = false := by
    intro c ok
    simp only [isNamePart,isNameStart,Bool.or_eq_true,Bool.and_eq_true,decide_eq_true_eq] at ok
    simp only [isSurrogate,Bool.and_eq_false_iff,decide_eq_false_iff_not]
    omega
  cases t with
  | nil => simp
  | cons first rest =>
    simp only [isName,Bool.and_eq_true,List.all_eq_true] at named
    intro c mem
    obtain rfl | mem := List.mem_cons.mp mem
    · exact part c (by simp [isNamePart,named.1.1])
    · exact part c (named.1.2 c mem)

def Writable (f : Text × Document) : Prop := isName f.1 ∧ (encode (f.2.dumps false)).isSome

theorem dumpsFieldsPlain : ∀ {fields : Fields}, (∀ f ∈ fields, Writable f) →
    ∀ part ∈ Document.dumpsFields false fields, ∀ c ∈ part, isSurrogate c = false
  | [],_ => by simp [Document.dumpsFields]
  | (k,d) :: rest,writable => by
    obtain ⟨named,written⟩ := writable (k,d) (by simp)
    intro part mem c source
    rw [Document.dumpsFields] at mem
    obtain rfl | mem := List.mem_cons.mp mem
    · simp only [List.mem_append] at source
      obtain (source | source) | source := source
      · exact quotePlain (namePlain named) c source
      · exact textPlain (by decide) c source
      · exact encodeIsSome.mp written c source
    · exact dumpsFieldsPlain (fun f m => writable f (List.mem_cons_of_mem _ m)) part mem c source

theorem intercalateMem {sep : Text} {parts : List Text} {c : CodePoint} (mem : c ∈ sep.intercalate parts) :
    c ∈ sep ∨ ∃ part ∈ parts, c ∈ part := by
  rw [List.intercalate,List.mem_flatten] at mem
  obtain ⟨part,source,inside⟩ := mem
  induction parts with
  | nil => simp at source
  | cons head rest ih =>
    cases rest with
    | nil =>
      simp only [List.intersperse_singleton,List.mem_singleton] at source
      exact .inr ⟨head,by simp,source ▸ inside⟩
    | cons next rest =>
      simp only [List.intersperse_cons_cons,List.mem_cons] at source
      obtain rfl | rfl | source := source
      · exact .inr ⟨part,by simp,inside⟩
      · exact .inl inside
      · obtain here | ⟨p,m,i⟩ := ih source
        · exact .inl here
        · exact .inr ⟨p,List.mem_cons_of_mem _ m,i⟩

theorem objectEncodes {fields : Fields} (writable : ∀ f ∈ fields, Writable f) :
    (encode ((Document.obj fields).dumps false)).isSome := by
  rw [encodeIsSome]
  intro c mem
  simp only [Document.dumps,List.mem_append] at mem
  obtain (mem | mem) | mem := mem
  · exact textPlain (by decide) c mem
  · obtain mem | ⟨part,source,mem⟩ := intercalateMem mem
    · exact textPlain (by decide) c mem
    · exact dumpsFieldsPlain writable part source c mem
  · exact textPlain (by decide) c mem

end Encoding

section Split
variable {scope : Text}

structure Removable (scope : Text) (f : Text × Document) : Prop where
  named : isName f.1
  unmarked : authorityMarked f.1 = false
  unprotected : f.1 ∉ protectedFields scope

theorem soundRemovable {rule : FieldRule} (sound : rule.Sound scope) (item : Document) :
    Removable scope (rule.name,item) := ⟨sound.named,sound.unmarked,sound.unprotected⟩

-- A field is refused, dropped empty, or kept as it is.
theorem splitFieldCases {rule : FieldRule} (sound : rule.Sound scope) (item : Document) (preserved : Fields) :
    (∃ e, splitField rule item preserved = .error (.rule e)) ∨
    (splitField rule item preserved = .ok preserved ∧ Blank item) ∨
    (splitField rule item preserved = .ok (preserved.put rule.name item) ∧
      (encode (item.dumps false)).isSome) := by
  unfold splitField
  by_cases finite : item.finite
  · simp only [finite,if_true]
    cases encoded : encode (item.dumps false) with
    | none => exact .inl ⟨_,rfl⟩
    | some bytes =>
      dsimp only
      by_cases refused : (decide (maxValueBytes < bytes.length) || !rule.value.accepts item) = true
      · exact .inl ⟨_,by rw [if_pos refused]⟩
      · rw [if_neg refused]
        simp only [Bool.or_eq_true,Bool.not_eq_true',decide_eq_true_eq,not_or,Bool.not_eq_false] at refused
        cases action : rule.action with
        | preserve => exact .inr (.inr ⟨by simp,by simp⟩)
        | drop => exact .inr (.inl ⟨by simp,rule.value.onlyEmptyBlank item (sound.dropsEmpty action) refused.2⟩)
  · exact .inl ⟨_,by rw [if_neg finite]⟩

structure Taken (scope : Text) (original stripped taken dropped : Fields) : Prop where
  partition : original.Perm (stripped ++ taken ++ dropped)
  order : stripped.Sublist original
  blank : ∀ f ∈ dropped, Blank f.2
  removable : ∀ f ∈ taken ++ dropped, Removable scope f
  written : ∀ f ∈ taken, (encode (f.2.dumps false)).isSome

theorem takenDrop {original stripped taken dropped : Fields} {key : Text} {item : Document}
    (distinct : original.keys.Nodup) (found : original.get? key = some item) (blank : Blank item)
    (removable : Removable scope (key,item)) (rest : Taken scope (original.pop key) stripped taken dropped) :
    Taken scope original stripped taken ((key,item) :: dropped) := by
  refine ⟨?_,rest.order.trans List.filter_sublist,?_,?_,rest.written⟩
  · exact (Fields.popPerm distinct found).trans ((rest.partition.cons _).trans List.perm_middle.symm)
  · intro f mem
    obtain rfl | mem := List.mem_cons.mp mem
    · exact blank
    · exact rest.blank f mem
  · intro f mem
    simp only [List.mem_append,List.mem_cons] at mem
    obtain mem | rfl | mem := mem
    · exact rest.removable f (List.mem_append_left _ mem)
    · exact removable
    · exact rest.removable f (List.mem_append_right _ mem)

theorem takenKeep {original stripped taken dropped : Fields} {key : Text} {item : Document}
    (distinct : original.keys.Nodup) (found : original.get? key = some item)
    (written : (encode (item.dumps false)).isSome) (removable : Removable scope (key,item))
    (rest : Taken scope (original.pop key) stripped taken dropped) :
    Taken scope original stripped ((key,item) :: taken) dropped := by
  refine ⟨?_,rest.order.trans List.filter_sublist,rest.blank,?_,?_⟩
  · have moved : ((key,item) :: (stripped ++ taken ++ dropped)).Perm (stripped ++ (key,item) :: taken ++ dropped) := by
      rw [List.append_assoc,List.append_assoc,List.cons_append]
      exact List.perm_middle.symm
    exact (Fields.popPerm distinct found).trans ((rest.partition.cons _).trans moved)
  · intro f mem
    obtain rfl | mem := List.mem_cons.mp mem
    · exact removable
    · exact rest.removable f mem
  · intro f mem
    obtain rfl | mem := List.mem_cons.mp mem
    · exact written
    · exact rest.written f mem

theorem splitFieldsTaken : ∀ {rules : List FieldRule} {original preserved : Fields},
    (∀ rule ∈ rules, rule.Sound scope) → original.keys.Nodup → (∀ k ∈ original.keys, k ∉ preserved.keys) →
    (∃ e, splitFields rules original preserved = .error (.rule e)) ∨
    ∃ stripped taken dropped, splitFields rules original preserved = .ok (stripped,preserved ++ taken) ∧
      Taken scope original stripped taken dropped
  | [],original,preserved,_,_,_ =>
    .inr ⟨original,[],[],by simp [splitFields],⟨by simp,.refl _,by simp,by simp,by simp⟩⟩
  | rule :: rest,original,preserved,sound,distinct,apart => by
    have later : ∀ r ∈ rest, r.Sound scope := fun r mem => sound r (List.mem_cons_of_mem _ mem)
    have here := sound rule (by simp)
    unfold splitFields
    cases found : original.get? rule.name with
    | none => exact splitFieldsTaken later distinct apart
    | some item =>
      have fewer := Fields.popDistinct rule.name distinct
      have still : ∀ k ∈ (original.pop rule.name).keys, k ∉ preserved.keys :=
        fun k mem => apart k (Fields.popKeys.mp mem).1
      obtain ⟨e,refused⟩ | ⟨kept,blank⟩ | ⟨kept,written⟩ := splitFieldCases here item preserved
      · exact .inl ⟨e,by simp only [refused]; rfl⟩
      · obtain ⟨e,run⟩ | ⟨stripped,taken,dropped,run,facts⟩ := splitFieldsTaken later fewer still
        · exact .inl ⟨e,by simp only [kept]; exact run⟩
        · exact .inr ⟨stripped,taken,_,by simp only [kept]; exact run,
            takenDrop distinct found blank (soundRemovable here item) facts⟩
      · have new : rule.name ∉ preserved.keys :=
          apart rule.name (List.mem_map_of_mem (f := Prod.fst) (Fields.getMem found))
        rw [Fields.putNew item new] at kept
        have moved : ∀ k ∈ (original.pop rule.name).keys, k ∉ (preserved ++ [(rule.name,item)] : Fields).keys := by
          intro k mem inside
          obtain ⟨old,other⟩ := Fields.popKeys.mp mem
          simp only [Fields.keys,List.map_append,List.map_cons,List.map_nil,List.mem_append,List.mem_singleton] at inside
          obtain inside | same := inside
          · exact apart k old inside
          · exact other same
        obtain ⟨e,run⟩ | ⟨stripped,taken,dropped,run,facts⟩ := splitFieldsTaken later fewer moved
        · exact .inl ⟨e,by simp only [kept]; exact run⟩
        · refine .inr ⟨stripped,(rule.name,item) :: taken,dropped,?_,
            takenKeep distinct found written (soundRemovable here item) facts⟩
          simp only [kept]
          rw [List.append_assoc] at run
          exact run

def Measures (preserved : Fields) (size : Nat) : Prop :=
  (preserved = [] ∧ size = 0) ∨
  (preserved ≠ [] ∧ ∃ bytes, encode ((Document.obj preserved).dumps false) = some bytes ∧ size = bytes.length)

structure Lossless (scope : Text) (value : Mapping) (stripped preserved dropped : Fields) (size : Nat) : Prop where
  partition : value.fields.Perm (stripped ++ preserved ++ dropped)
  order : stripped.Sublist value.fields
  disjoint : ∀ k ∈ stripped.keys, k ∉ preserved.keys ∧ k ∉ dropped.keys
  apart : ∀ k ∈ preserved.keys, k ∉ dropped.keys
  blank : ∀ f ∈ dropped, Blank f.2
  unprotected : ∀ f ∈ preserved ++ dropped, f.1 ∉ protectedFields scope ∧ authorityMarked f.1 = false
  measured : Measures preserved size
  bounded : size ≤ maxValueBytes

theorem takenLossless {value : Mapping} {stripped preserved dropped : Fields} {size : Nat}
    (taken : Taken scope value.fields stripped preserved dropped) (measured : Measures preserved size)
    (bounded : size ≤ maxValueBytes) : Lossless scope value stripped preserved dropped size := by
  have names : (stripped.keys ++ preserved.keys ++ dropped.keys).Nodup := by
    have moved := (taken.partition.map Prod.fst).nodup_iff.mp value.distinct
    simpa [Fields.keys] using moved
  rw [List.nodup_append,List.nodup_append] at names
  obtain ⟨⟨_,_,first⟩,_,second⟩ := names
  refine ⟨taken.partition,taken.order,?_,?_,taken.blank,?_,measured,bounded⟩
  · intro k mem
    exact ⟨fun inside => first k mem k inside rfl,fun inside => second k (List.mem_append_left _ mem) k inside rfl⟩
  · intro k mem inside
    exact second k (List.mem_append_right _ mem) k inside rfl
  · intro f mem
    have facts := taken.removable f mem
    exact ⟨facts.unprotected,facts.unmarked⟩

theorem splitLossless {document : Document} {rules : DialectRules}
    (compiled : parseDialectRules document = .ok rules) (value : Mapping) (scope : Text) :
    (∃ e, rules.split value scope = .error (.rule e)) ∨
    ∃ stripped preserved dropped size, rules.split value scope = .ok (stripped,preserved,size) ∧
      Lossless scope value stripped preserved dropped size := by
  have sound := rulesForSound (parseSound compiled) scope
  unfold DialectRules.split
  dsimp only
  split
  · obtain ⟨e,run⟩ | ⟨stripped,taken,dropped,run,facts⟩ :=
      @splitFieldsTaken scope _ _ [] sound value.distinct (by simp [Fields.keys])
    · exact .inl ⟨e,by rw [run]; rfl⟩
    · rw [run]
      simp only [List.nil_append]
      change (∃ e, (if taken.isEmpty then _ else _) = _) ∨ ∃ _ _ _ _, (if taken.isEmpty then _ else _) = _ ∧ _
      by_cases none : taken = []
      · subst none
        exact .inr ⟨stripped,[],dropped,0,rfl,takenLossless facts (.inl ⟨rfl,rfl⟩) (Nat.zero_le _)⟩
      · have writable : ∀ f ∈ taken, Writable f :=
          fun f mem => ⟨(facts.removable f (List.mem_append_left _ mem)).named,facts.written f mem⟩
        obtain ⟨bytes,encoded⟩ := Option.isSome_iff_exists.mp (objectEncodes writable)
        rw [if_neg (by simpa using none),encoded]
        dsimp only
        by_cases long : maxValueBytes < bytes.length
        · exact .inl ⟨_,if_pos long⟩
        · exact .inr ⟨stripped,taken,dropped,bytes.length,if_neg long,
            takenLossless facts (.inr ⟨none,bytes,encoded,rfl⟩) (Nat.not_lt.mp long)⟩
  · exact .inr ⟨value.fields,[],[],0,rfl,
      takenLossless ⟨by simp,.refl _,by simp,by simp,by simp⟩ (.inl ⟨rfl,rfl⟩) (Nat.zero_le _)⟩

def demoDialect : Document :=
  .obj [(text "features",.obj (featureNames.map fun name => (text name,.bool false))),
    (text "extensions",.obj [(text "request",.obj
      [(text "verbosity",.obj [(text "action",.str (text "preserve")),(text "value",.obj
        [(text "kind",.str (text "string")),(text "minimum",.int 0),(text "maximum",.int 16)])]),
      (text "annotations",.obj [(text "action",.str (text "drop")),(text "value",.obj
        [(text "kind",.str (text "array")),(text "max_items",.int 0),
          (text "items",.obj [(text "kind",.str (text "null"))])])])])]),
    (text "custom_tools",.arr [])]

def demoRequest : Mapping where
  fields := [(text "model",.str (text "m")),(text "annotations",.arr []),(text "verbosity",.str (text "low"))]
  distinct := by decide

theorem splitLosslessDemo : ∃ rules, parseDialectRules demoDialect = .ok rules ∧
    ((∃ e, rules.split demoRequest (text "request") = .error (.rule e)) ∨
    ∃ stripped preserved dropped size, rules.split demoRequest (text "request") = .ok (stripped,preserved,size) ∧
      Lossless (text "request") demoRequest stripped preserved dropped size) ∧
    (rules.split demoRequest (text "request")).toOption.map (fun r => (r.1.keys,r.2.1.keys,r.2.2)) =
      some ([text "model"],[text "verbosity"],20) := by
  have compiles : ((parseDialectRules demoDialect).toOption.map fun rules =>
      (rules.split demoRequest (text "request")).toOption.map fun r => (r.1.keys,r.2.1.keys,r.2.2)) =
      some (some ([text "model"],[text "verbosity"],20)) := by decide +kernel
  cases compiled : parseDialectRules demoDialect with
  | error e => rw [compiled] at compiles; cases compiles
  | ok rules =>
    rw [compiled] at compiles
    exact ⟨rules,rfl,splitLossless compiled demoRequest (text "request"),Option.some.inj compiles⟩

end Split

end SlaifGateway.Dialect
