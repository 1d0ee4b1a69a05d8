import SlaifGateway.Library.Text
import Mathlib.Data.List.Perm.Basic
import Mathlib.Data.List.Nodup

/-! Decoded JSON values over texts that may hold lone surrogates, the mapping operations on the
fields of an object, and the compact text that is written for a value. A float carries its exact
value, absent for an infinity or not-a-number, and the spelling it is written with. -/
namespace SlaifGateway.Library

inductive Document where
  | null
  | bool (b : Bool)
  | int (n : Int)
  | float (value : Option Rat) (spelling : Text)
  | str (t : Text)
  | arr (items : List Document)
  | obj (fields : List (Text × Document))

abbrev Fields := List (Text × Document)

namespace Fields

def keys (fields : Fields) : List Text := fields.map Prod.fst

def get? (fields : Fields) (key : Text) : Option Document := fields.lookup key

def has (fields : Fields) (key : Text) : Bool := (fields.get? key).isSome

def get (fields : Fields) (key : Text) : Document := (fields.get? key).getD .null

def pop (fields : Fields) (key : Text) : Fields := fields.filter fun f => f.1 ≠ key

-- Assignment keeps the position of a key that is already there.
def put (fields : Fields) (key : Text) (value : Document) : Fields :=
  if fields.has key then fields.map fun f => if f.1 = key then (key,value) else f
  else fields ++ [(key,value)]

def keysWithin (fields : Fields) (names : List String) : Bool :=
  fields.keys.all fun k => (names.map text).contains k

def keysAre (fields : Fields) (names : List String) : Bool :=
  fields.keysWithin names && (names.map text).all fields.has

theorem getMem {fields : Fields} {key : Text} {v : Document} (found : fields.get? key = some v) :
    (key,v) ∈ fields := by
  obtain ⟨before,after,shape,_⟩ := List.lookup_eq_some_iff.mp found
  rw [shape]
  simp

theorem getNone {fields : Fields} {key : Text} : fields.get? key = none ↔ key ∉ fields.keys := by
  rw [get?,List.lookup_eq_none_iff,keys,List.mem_map]
  constructor
  · rintro absent ⟨f,mem,rfl⟩
    simpa using absent f mem
  · intro absent f mem
    rw [bne_iff_ne]
    rintro rfl
    exact absent ⟨f,mem,rfl⟩

theorem hasIff {fields : Fields} {key : Text} : fields.has key ↔ key ∈ fields.keys := by
  rw [has,Option.isSome_iff_ne_none,ne_eq,getNone,not_not]

theorem getOfMem {fields : Fields} {key : Text} {v : Document} (distinct : fields.keys.Nodup)
    (mem : (key,v) ∈ fields) : fields.get? key = some v := by
  cases found : fields.get? key with
  | none => exact absurd (List.mem_map_of_mem (f := Prod.fst) mem) (getNone.mp found)
  | some u =>
    have same := List.inj_on_of_nodup_map distinct (getMem found) mem rfl
    rw [(Prod.mk.injEq ..).mp same |>.2]

theorem popKeys {fields : Fields} {key k : Text} : k ∈ (fields.pop key).keys ↔ k ∈ fields.keys ∧ k ≠ key := by
  simp only [keys,pop,List.mem_map,List.mem_filter,decide_eq_true_eq]
  constructor
  · rintro ⟨f,⟨mem,other⟩,rfl⟩
    exact ⟨⟨f,mem,rfl⟩,other⟩
  · rintro ⟨⟨f,mem,rfl⟩,other⟩
    exact ⟨f,⟨mem,other⟩,rfl⟩

theorem popDistinct {fields : Fields} (key : Text) (distinct : fields.keys.Nodup) : (fields.pop key).keys.Nodup :=
  distinct.sublist (List.filter_sublist.map _)

theorem popAbsent {fields : Fields} {key : Text} (absent : key ∉ fields.keys) : fields.pop key = fields := by
  rw [pop,List.filter_eq_self]
  intro f mem
  simp only [decide_eq_true_eq]
  intro same
  exact absent (same ▸ List.mem_map_of_mem mem)

-- A popped field and the rest make up the mapping.
theorem popPerm {fields : Fields} {key : Text} {v : Document} (distinct : fields.keys.Nodup)
    (found : fields.get? key = some v) : fields.Perm ((key,v) :: fields.pop key) := by
  induction fields with
  | nil => cases found
  | cons head rest ih =>
    obtain ⟨k,u⟩ := head
    simp only [keys,List.map_cons,List.nodup_cons] at distinct
    simp only [get?,List.lookup_cons] at found
    split at found
    · next same =>
      cases found
      simp only [beq_iff_eq] at same
      subst same
      have kept : Fields.pop rest key = rest := popAbsent distinct.1
      simp only [pop,List.filter_cons,ne_eq,not_true_eq_false,decide_false,Bool.false_eq_true,if_false]
      rw [← pop,kept]
    · next different =>
      simp only [beq_eq_false_iff_ne,ne_eq] at different
      have other : k ≠ key := fun same => different same.symm
      have tail := ih distinct.2 found
      simp only [pop,List.filter_cons,ne_eq,other,not_false_eq_true,decide_true,if_true]
      exact (tail.cons _).trans (.swap ..)

theorem putNew {fields : Fields} {key : Text} (v : Document) (absent : key ∉ fields.keys) :
    fields.put key v = fields ++ [(key,v)] := by
  rw [put,if_neg (by rw [hasIff]; exact absent)]

theorem getPopSame (fields : Fields) (key : Text) : (fields.pop key).get? key = none := by
  rw [getNone,popKeys]
  exact fun h => h.2 rfl

theorem getPopOther {fields : Fields} {key k : Text} (other : k ≠ key) : (fields.pop key).get? k = fields.get? k := by
  induction fields with
  | nil => rfl
  | cons head rest ih =>
    obtain ⟨name,value⟩ := head
    unfold pop get? at ih ⊢
    by_cases dropped : name = key
    · have apart : (k == name) = false := beq_eq_false_iff_ne.mpr fun same => other (same.trans dropped)
      rw [List.filter_cons_of_neg (by simpa using dropped),List.lookup_cons,apart]
      exact ih
    · rw [List.filter_cons_of_pos (by simpa using dropped),List.lookup_cons,List.lookup_cons,ih]

theorem lookupReplace (fields : Fields) (key k : Text) (v : Document) :
    (fields.map fun f => if f.1 = key then (key,v) else f).lookup k =
      if k = key then (fields.lookup key).map fun _ => v else fields.lookup k := by
  induction fields with
  | nil => split <;> rfl
  | cons head rest ih =>
    obtain ⟨name,value⟩ := head
    rw [List.map_cons]
    by_cases replaced : name = key
    · subst replaced
      rw [if_pos rfl,List.lookup_cons]
      by_cases same : k = name
      · subst same
        simp
      · have apart : (k == name) = false := beq_eq_false_iff_ne.mpr same
        rw [if_neg same] at ih ⊢
        rw [List.lookup_cons,apart]
        exact ih
    · rw [if_neg replaced,List.lookup_cons,ih]
      by_cases same : k = key
      · subst same
        have apart : (k == name) = false := beq_eq_false_iff_ne.mpr fun h => replaced h.symm
        rw [if_pos rfl,if_pos rfl,List.lookup_cons,apart]
      · rw [if_neg same,if_neg same,List.lookup_cons]

theorem getPut (fields : Fields) (key k : Text) (v : Document) :
    (fields.put key v).get? k = if k = key then some v else fields.get? k := by
  unfold put
  by_cases present : fields.has key
  · rw [if_pos present]
    unfold get?
    rw [lookupReplace]
    obtain ⟨old,found⟩ := Option.isSome_iff_exists.mp present
    unfold get? at found
    rw [found]
    rfl
  · rw [if_neg present]
    have absent : fields.get? key = none := by simpa [has] using present
    unfold get? at absent ⊢
    rw [List.lookup_append]
    by_cases same : k = key
    · subst same
      simp [absent]
    · have apart : (k == key) = false := beq_eq_false_iff_ne.mpr same
      simp [List.lookup_cons,apart,same]

theorem getPutSame (fields : Fields) (key : Text) (v : Document) : (fields.put key v).get key = v := by
  rw [get,getPut,if_pos rfl,Option.getD_some]

theorem getPutOther {fields : Fields} {key k : Text} (v : Document) (other : k ≠ key) :
    (fields.put key v).get k = fields.get k := by
  rw [get,getPut,if_neg other,get]

theorem getPoppedSame (fields : Fields) (key : Text) : (fields.pop key).get key = .null := by
  rw [get,getPopSame,Option.getD_none]

theorem getPoppedOther {fields : Fields} {key k : Text} (other : k ≠ key) : (fields.pop key).get k = fields.get k := by
  rw [get,getPopOther other,get]

end Fields

namespace Document

def fields : Document → Fields
  | .obj fields => fields
  | _ => []

def isMapping : Document → Bool
  | .obj _ => true
  | _ => false

def isNull : Document → Bool
  | .null => true
  | _ => false

def isText (d : Document) (s : String) : Bool :=
  match d with
  | .str t => t = text s
  | _ => false

def text? : Document → Option Text
  | .str t => some t
  | _ => none

def bool? : Document → Option Bool
  | .bool b => some b
  | _ => none

def items? : Document → Option (List Document)
  | .arr items => some items
  | _ => none

def mapping? : Document → Option Fields
  | .obj fields => some fields
  | _ => none

-- What can be looked up in a set or a mapping.
def hashable : Document → Bool
  | .arr _ | .obj _ => false
  | _ => true

mutual
def finite : Document → Bool
  | .float value _ => value.isSome
  | .arr items => finiteItems items
  | .obj fields => finiteFields fields
  | _ => true

def finiteItems : List Document → Bool
  | [] => true
  | d :: rest => d.finite && finiteItems rest

def finiteFields : List (Text × Document) → Bool
  | [] => true
  | (_,d) :: rest => d.finite && finiteFields rest
end

-- How deep arrays and objects are nested.
mutual
def height : Document → Nat
  | .arr items => heightItems items + 1
  | .obj fields => heightFields fields + 1
  | _ => 0

def heightItems : List Document → Nat
  | [] => 0
  | d :: rest => max d.height (heightItems rest)

def heightFields : List (Text × Document) → Nat
  | [] => 0
  | (_,d) :: rest => max d.height (heightFields rest)
end

theorem heightMember {items : List Document} {d : Document} (listed : d ∈ items) : d.height ≤ heightItems items := by
  induction items with
  | nil => cases listed
  | cons first rest ih =>
    rw [heightItems]
    rcases List.mem_cons.mp listed with rfl | later
    · exact Nat.le_max_left ..
    · exact Nat.le_trans (ih later) (Nat.le_max_right ..)

theorem heightField {fields : Fields} {f : Text × Document} (listed : f ∈ fields) : f.2.height ≤ heightFields fields := by
  induction fields with
  | nil => cases listed
  | cons first rest ih =>
    obtain ⟨k,d⟩ := first
    rw [heightFields]
    rcases List.mem_cons.mp listed with rfl | later
    · exact Nat.le_max_left ..
    · exact Nat.le_trans (ih later) (Nat.le_max_right ..)

theorem heightGet (fields : Fields) (key : Text) : (fields.get key).height ≤ heightFields fields := by
  unfold Fields.get
  cases found : fields.get? key with
  | none => exact Nat.zero_le _
  | some d => exact heightField (Fields.getMem found)

def hexDigit (n : Nat) : CodePoint :=
  if n % 16 < 10 then ⟨48 + n % 16,by omega⟩ else ⟨87 + n % 16,by omega⟩

def unicodeEscape (n : Nat) : Text :=
  text "\\u" ++ [hexDigit (n / 4096),hexDigit (n / 256),hexDigit (n / 16),hexDigit n]

def shortEscapes : List (Nat × String) :=
  [(34,"\\\""),(92,"\\\\"),(10,"\\n"),(13,"\\r"),(9,"\\t"),(12,"\\f"),(8,"\\b")]

def escape (ascii : Bool) (c : CodePoint) : Text :=
  match shortEscapes.lookup c.val with
  | some short => text short
  | none =>
    if c.val < 32 then unicodeEscape c.val
    else if ascii && decide (126 < c.val) then
      if c.val < 0x10000 then unicodeEscape c.val
      else unicodeEscape (0xD800 + (c.val - 0x10000) / 1024) ++ unicodeEscape (0xDC00 + (c.val - 0x10000) % 1024)
    else [c]

def quote (ascii : Bool) (t : Text) : Text := text "\"" ++ t.flatMap (escape ascii) ++ text "\""

def decimal (n : Int) : Text :=
  let digits := (Nat.toDigits 10 n.natAbs).map fun c => (⟨c.toNat,charBelow c⟩ : CodePoint)
  if n < 0 then text "-" ++ digits else digits

mutual
def dumps (ascii : Bool) : Document → Text
  | .null => text "null"
  | .bool true => text "true"
  | .bool false => text "false"
  | .int n => decimal n
  | .float _ spelling => spelling
  | .str t => quote ascii t
  | .arr items => text "[" ++ (text ", ").intercalate (dumpsItems ascii items) ++ text "]"
  | .obj fields => text "\x7b" ++ (text ", ").intercalate (dumpsFields ascii fields) ++ text "\x7d"

def dumpsItems (ascii : Bool) : List Document → List Text
  | [] => []
  | d :: rest => d.dumps ascii :: dumpsItems ascii rest

def dumpsFields (ascii : Bool) : List (Text × Document) → List Text
  | [] => []
  | (k,d) :: rest => (quote ascii k ++ text ": " ++ d.dumps ascii) :: dumpsFields ascii rest
end

example : dumps false (.obj [(text "a",.arr [.int (-12),.str [34,0x1F600,7]])]) =
    text "\x7b\"a\": [-12, \"\\\"😀\\u0007\"]\x7d" := by decide +kernel
example : dumps true (.str [0x1F600]) = text "\"\\ud83d\\ude00\"" := by decide +kernel

end Document
end SlaifGateway.Library
