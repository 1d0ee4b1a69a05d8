import Mathlib.Algebra.Order.Group.Defs
import Mathlib.Algebra.Order.Ring.Rat
import Mathlib.Algebra.Group.InjSurj
import Mathlib.Algebra.Group.Prod
import Mathlib.Algebra.Group.Action.Defs
import Mathlib.Tactic.Linarith

/-! The three quantities every quota counter carries together: cost in euro as an
exact rational, tokens and requests. Storage precision is not part of this type. -/
namespace SlaifGateway.Store

@[ext] structure Amounts where
  costEur : ℚ
  tokens : ℤ
  requests : ℤ
  deriving DecidableEq, Repr

namespace Amounts

instance : Zero Amounts := ⟨⟨0,0,0⟩⟩
instance : Add Amounts := ⟨fun a b => ⟨a.costEur + b.costEur,a.tokens + b.tokens,a.requests + b.requests⟩⟩
instance : Neg Amounts := ⟨fun a => ⟨-a.costEur,-a.tokens,-a.requests⟩⟩
instance : Sub Amounts := ⟨fun a b => ⟨a.costEur - b.costEur,a.tokens - b.tokens,a.requests - b.requests⟩⟩
instance : SMul ℕ Amounts := ⟨fun n a => ⟨n • a.costEur,n • a.tokens,n • a.requests⟩⟩
instance : SMul ℤ Amounts := ⟨fun n a => ⟨n • a.costEur,n • a.tokens,n • a.requests⟩⟩

@[simp] theorem zeroCost : (0 : Amounts).costEur = 0 := rfl
@[simp] theorem zeroTokens : (0 : Amounts).tokens = 0 := rfl
@[simp] theorem zeroRequests : (0 : Amounts).requests = 0 := rfl
@[simp] theorem addCost (a b : Amounts) : (a + b).costEur = a.costEur + b.costEur := rfl
@[simp] theorem addTokens (a b : Amounts) : (a + b).tokens = a.tokens + b.tokens := rfl
@[simp] theorem addRequests (a b : Amounts) : (a + b).requests = a.requests + b.requests := rfl
@[simp] theorem subCost (a b : Amounts) : (a - b).costEur = a.costEur - b.costEur := rfl
@[simp] theorem subTokens (a b : Amounts) : (a - b).tokens = a.tokens - b.tokens := rfl
@[simp] theorem subRequests (a b : Amounts) : (a - b).requests = a.requests - b.requests := rfl

def triple (a : Amounts) : ℚ × ℤ × ℤ := (a.costEur,a.tokens,a.requests)

theorem tripleInjective : Function.Injective triple := by
  intro a b same
  simp only [triple,Prod.mk.injEq] at same
  exact Amounts.ext same.1 same.2.1 same.2.2

instance : AddCommGroup Amounts :=
  tripleInjective.addCommGroup triple rfl (fun _ _ => rfl) (fun _ => rfl) (fun _ _ => rfl)
    (fun _ _ => rfl) (fun _ _ => rfl)

instance : LE Amounts :=
  ⟨fun a b => a.costEur ≤ b.costEur ∧ a.tokens ≤ b.tokens ∧ a.requests ≤ b.requests⟩

theorem leIff {a b : Amounts} :
    a ≤ b ↔ a.costEur ≤ b.costEur ∧ a.tokens ≤ b.tokens ∧ a.requests ≤ b.requests := Iff.rfl

instance (a b : Amounts) : Decidable (a ≤ b) := decidable_of_iff _ leIff.symm

instance : PartialOrder Amounts where
  le_refl a := ⟨le_refl _,le_refl _,le_refl _⟩
  le_trans _ _ _ h k := ⟨h.1.trans k.1,h.2.1.trans k.2.1,h.2.2.trans k.2.2⟩
  le_antisymm _ _ h k := Amounts.ext (h.1.antisymm k.1) (h.2.1.antisymm k.2.1) (h.2.2.antisymm k.2.2)

instance : IsOrderedAddMonoid Amounts where
  add_le_add_left _ _ h c :=
    ⟨add_le_add_left h.1 c.costEur,add_le_add_left h.2.1 c.tokens,add_le_add_left h.2.2 c.requests⟩
end Amounts
end SlaifGateway.Store
