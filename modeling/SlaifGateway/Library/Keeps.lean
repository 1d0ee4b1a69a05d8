import SlaifGateway.Library.Transaction

/-! A body that keeps an invariant of the state and never ends in an error of some kind, with what is known of
its result: one rule for each way a body is put together. -/
namespace SlaifGateway.Library.Tx
variable {σ ε α β : Type} {inv : σ → Prop} {bad : ε → Prop} {p q : α → Prop} {r : β → Prop} {x : Tx σ ε α}

def Keeps (inv : σ → Prop) (bad : ε → Prop) (x : Tx σ ε α) (p : α → Prop) : Prop :=
  ∀ s, inv s → x.Ends s (fun a s' => inv s' ∧ p a) fun e s' => inv s' ∧ ¬bad e

theorem keepsMono (keeps : Keeps inv bad x p) (weaker : ∀ a, p a → q a) : Keeps inv bad x q := by
  intro s held
  have ended := keeps s held
  unfold Ends at ended ⊢
  rcases out : x.exec s with ⟨e | a,s'⟩ <;> rw [out] at ended
  · exact ended
  · exact ⟨ended.1,weaker a ended.2⟩

theorem keepsBind {f : α → Tx σ ε β} (first : Keeps inv bad x p) (next : ∀ a, p a → Keeps inv bad (f a) r) :
    Keeps inv bad (x >>= f) r := by
  intro s held
  have ended := first s held
  rw [endsBind]
  unfold Ends at ended
  rcases out : x.exec s with ⟨e | a,s'⟩ <;> rw [out] at ended <;> unfold Ends <;> rw [out]
  · exact ended
  · exact next a ended.2 s' ended.1

-- What is bound first is not looked at.
theorem keepsThen {f : α → Tx σ ε β} (first : Keeps inv bad x p) (next : ∀ a, Keeps inv bad (f a) r) :
    Keeps inv bad (x >>= f) r :=
  keepsBind first fun a _ => next a

theorem keepsPure {a : α} (known : p a) : Keeps inv bad (pure a : Tx σ ε α) p := fun _ held => ⟨held,known⟩

theorem keepsMap {f : α → β} (first : Keeps inv bad x p) (next : ∀ a, p a → r (f a)) : Keeps inv bad (f <$> x) r := by
  rw [map_eq_pure_bind]
  exact keepsBind first fun a known => keepsPure (next a known)

theorem keepsThrow {e : ε} (fine : ¬bad e) : Keeps inv bad (throw e : Tx σ ε α) p := fun _ held => ⟨held,fine⟩

theorem keepsRaiseIf {c : Prop} {_ : Decidable c} {e : ε} (fine : ¬bad e) :
    Keeps inv bad (raiseIf c e : Tx σ ε Unit) fun _ => ¬c :=
  fun _ held => endsRaiseIf.mpr ⟨fun _ => ⟨held,fine⟩,fun not => ⟨held,not⟩⟩

theorem keepsOrRaise {o : Option α} {e : ε} (fine : ¬bad e) : Keeps inv bad (orRaise o e : Tx σ ε α) fun a => o = some a :=
  fun _ held => endsOrRaise.mpr ⟨fun _ => ⟨held,fine⟩,fun _ found => ⟨held,found⟩⟩

theorem keepsFound {o : Option α} {e : ε} (found : o.isSome) : Keeps inv bad (orRaise o e : Tx σ ε α) fun a => o = some a := by
  obtain ⟨a,rfl⟩ := Option.isSome_iff_exists.mp found
  exact fun _ held => ⟨held,rfl⟩

theorem keepsReading {f : σ → α} : Keeps inv bad (reading f : Tx σ ε α) fun a => ∃ s, inv s ∧ f s = a :=
  fun s held => ⟨held,s,held,rfl⟩

theorem keepsIte {c : Prop} {_ : Decidable c} {y : Tx σ ε α} (yes : c → Keeps inv bad x p) (no : ¬c → Keeps inv bad y p) :
    Keeps inv bad (if c then x else y) p := by
  split
  · next held => exact yes held
  · next held => exact no held

end SlaifGateway.Library.Tx
