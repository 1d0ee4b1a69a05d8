import Mathlib.Data.List.Basic
import Mathlib.Algebra.GroupWithZero.Nat

/-! Decoded JSON documents. An object is the list of its fields; a missing field reads as
`null`, as a mapping's `get` does. Numbers that are not integers keep their text. -/
namespace SlaifGateway.Library

inductive Json where
  | null
  | bool (b : Bool)
  | int (n : Int)
  | number (text : String)
  | str (s : String)
  | arr (items : List Json)
  | obj (fields : List (String × Json))
  deriving Repr

namespace Json

def isMapping : Json → Bool
  | .obj _ => true
  | _ => false

def keys : Json → List String
  | .obj fields => fields.map Prod.fst
  | _ => []

def field (j : Json) (key : String) : Json :=
  match j with
  | .obj fields => (fields.lookup key).getD .null
  | _ => .null

def text? : Json → Option String
  | .str s => some s
  | _ => none

def bool? : Json → Option Bool
  | .bool b => some b
  | _ => none

def natural? : Json → Option Nat
  | .int n => if 0 ≤ n then some n.toNat else none
  | _ => none

theorem lookupSize {fields : List (String × Json)} {key : String} {v : Json} (found : fields.lookup key = some v) :
    sizeOf v < sizeOf fields := by
  induction fields with
  | nil => cases found
  | cons head rest ih =>
    obtain ⟨name,value⟩ := head
    rw [List.lookup_cons] at found
    split at found
    · cases found
      simp only [List.cons.sizeOf_spec,Prod.mk.sizeOf_spec]
      omega
    · have smaller := ih found
      simp only [List.cons.sizeOf_spec]
      omega

theorem itemsSize (items : List Json) : (items.map sizeOf).sum < sizeOf items := by
  induction items with
  | nil => simp
  | cons head rest ih =>
    simp only [List.map_cons,List.sum_cons,List.cons.sizeOf_spec]
    omega

-- The elements of an array field are smaller than the object, all together.
theorem fieldItemsSize {j : Json} {key : String} {items : List Json} (found : j.field key = .arr items) :
    (items.map sizeOf).sum < sizeOf j := by
  unfold field at found
  split at found
  · rename_i fields
    cases stored : fields.lookup key with
    | none => simp [stored] at found
    | some v =>
      have same : v = .arr items := by simpa [stored] using found
      have outer := lookupSize stored
      have inner := itemsSize items
      rw [same] at outer
      simp only [arr.sizeOf_spec] at outer
      simp only [obj.sizeOf_spec]
      omega
  · cases found
end Json
end SlaifGateway.Library
