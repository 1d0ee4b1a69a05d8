import SlaifGateway.Library.JsonText

/-! The text of a gateway key: an accepted prefix, the public id, a dot and the secret. The
longest accepted prefix that the key starts with is its prefix. -/
namespace SlaifGateway.Keys
open Library

def longer (best candidate : Text) : Text := if best.length < candidate.length then candidate else best

-- The first of the longest ones.
def longest : List Text → Option Text
  | [] => none
  | first :: rest => some (rest.foldl longer first)

def bestMatchingPrefix (key : Text) (acceptedPrefixes : List Text) : Option Text :=
  longest (acceptedPrefixes.filter fun p => !p.isEmpty && p.isPrefixOf key)

def isPublicIdPoint (c : CodePoint) : Bool :=
  (65 ≤ c.val && c.val ≤ 90) || (97 ≤ c.val && c.val ≤ 122) || (48 ≤ c.val && c.val ≤ 57) || c.val = 95 || c.val = 45

def isPublicId (t : Text) : Bool := 8 ≤ t.length && t.length ≤ 64 && t.all isPublicIdPoint

def secretTokenBytes : Nat := 43

def dot : CodePoint := 46

-- `str.partition(".")` of what follows the prefix.
def beforeDot (payload : Text) : Text := payload.takeWhile (· ≠ dot)

def afterDot (payload : Text) : Text := (payload.dropWhile (· ≠ dot)).drop 1

def parseGatewayKeyPublicId (key : Text) (acceptedPrefixes : List Text) : Except String Text :=
  if key.isEmpty then .error "gateway key must be a non-empty string"
  else match bestMatchingPrefix key acceptedPrefixes with
    | none => .error "gateway key has invalid prefix"
    | some matched =>
      let payload := key.drop matched.length
      if dot ∉ payload then .error "gateway key must contain public key id and secret separated by '.'"
      else if (beforeDot payload).isEmpty || (afterDot payload).isEmpty then
        .error "gateway key must contain non-empty public key id and secret"
      else if !isPublicId (beforeDot payload) then .error "gateway key public key id is malformed"
      else if (afterDot payload).length < secretTokenBytes then .error "gateway key secret is too short"
      else .ok (beforeDot payload)

section Longest

theorem foldlMem {first : Text} {rest : List Text} : rest.foldl longer first ∈ first :: rest := by
  induction rest generalizing first with
  | nil => exact List.mem_singleton_self first
  | cons p more ih =>
    rw [List.foldl_cons]
    rcases List.mem_cons.mp (@ih (longer first p)) with same | later
    · rw [same]
      unfold longer
      split
      · exact List.mem_cons_of_mem _ List.mem_cons_self
      · exact List.mem_cons_self
    · exact List.mem_cons_of_mem _ (List.mem_cons_of_mem _ later)

theorem longestMem {ps : List Text} {p : Text} (found : longest ps = some p) : p ∈ ps := by
  cases ps with
  | nil => cases found
  | cons first rest =>
    cases found
    exact foldlMem

theorem matchedPrefix {key p : Text} {ps : List Text} (found : bestMatchingPrefix key ps = some p) :
    p ∈ ps ∧ p ≠ [] ∧ p <+: key := by
  obtain ⟨listed,held⟩ := List.mem_filter.mp (longestMem found)
  rw [Bool.and_eq_true] at held
  exact ⟨listed,by simpa using held.1,List.isPrefixOf_iff_prefix.mp held.2⟩
end Longest

theorem parsedPrefix {key publicId : Text} {ps : List Text} (parsed : parseGatewayKeyPublicId key ps = .ok publicId) :
    ∃ p, bestMatchingPrefix key ps = some p ∧ publicId = beforeDot (key.drop p.length) ∧ isPublicId publicId = true ∧
      dot ∈ key.drop p.length ∧ secretTokenBytes ≤ (afterDot (key.drop p.length)).length := by
  unfold parseGatewayKeyPublicId at parsed
  split at parsed
  · cases parsed
  · split at parsed
    · cases parsed
    · rename_i matched found
      dsimp only at parsed
      split_ifs at parsed with absent empty malformed short
      cases parsed
      exact ⟨matched,found,rfl,by simpa using malformed,absent,by omega⟩

end SlaifGateway.Keys
