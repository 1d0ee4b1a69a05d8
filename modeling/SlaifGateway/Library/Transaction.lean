import Mathlib.Data.List.Infix

/-! A transaction body: a state that survives errors under an exception. `Returns`
inverts a body that ends well, so that an operation is peeled apart without
unfolding it; `Avoids` rules out a kind of error; `Traces` follows a log that the
state carries through both endings. -/
namespace SlaifGateway.Library

abbrev Tx (σ ε : Type) := ExceptT ε (StateM σ)

namespace Tx
variable {σ ε α β : Type}

def exec (x : Tx σ ε α) (s : σ) : Except ε α × σ := x.run.run s

def Returns (x : Tx σ ε α) (s : σ) (a : α) (s' : σ) : Prop := x.exec s = (.ok a,s')

def reading (f : σ → α) : Tx σ ε α := fun s => (.ok (f s),s)

def raiseIf (bad : Prop) [Decidable bad] (e : ε) : Tx σ ε Unit := if bad then throw e else pure ()

def orRaise (o : Option α) (e : ε) : Tx σ ε α :=
  match o with
  | some a => pure a
  | none => throw e

/-- `except E as exc: raise f(exc)`. -/
def relabel (f : ε → ε) (x : Tx σ ε α) : Tx σ ε α := fun s => ((x.exec s).1.mapError f,(x.exec s).2)

theorem execRelabel (f : ε → ε) (x : Tx σ ε α) (s : σ) :
    (relabel f x).exec s = ((x.exec s).1.mapError f,(x.exec s).2) := rfl

theorem execBind (x : Tx σ ε α) (f : α → Tx σ ε β) (s : σ) :
    (x >>= f).exec s = match x.exec s with
      | (.ok a,s') => (f a).exec s'
      | (.error e,s') => (.error e,s') := by
  change ((x.run >>= ExceptT.bindCont f : StateM σ _) s) = _
  change ExceptT.bindCont f (x.exec s).1 (x.exec s).2 = _
  rcases x.exec s with ⟨_ | a,s'⟩ <;> rfl

@[simp] theorem returnsBind {x : Tx σ ε α} {f : α → Tx σ ε β} {s b s''} :
    (x >>= f).Returns s b s'' ↔ ∃ a s', x.Returns s a s' ∧ (f a).Returns s' b s'' := by
  unfold Returns
  rw [execBind]
  rcases x.exec s with ⟨_ | a,s'⟩ <;> simp

@[simp] theorem returnsPure {a b : α} {s s' : σ} : (pure a : Tx σ ε α).Returns s b s' ↔ a = b ∧ s = s' := by
  change (Except.ok a,s) = (Except.ok b,s') ↔ _
  simp

@[simp] theorem returnsMap {x : Tx σ ε α} {f : α → β} {s b s'} :
    (f <$> x).Returns s b s' ↔ ∃ a, x.Returns s a s' ∧ f a = b := by
  rw [map_eq_pure_bind,returnsBind]
  simp

@[simp] theorem returnsThrow {e : ε} {s s' : σ} {a : α} : ¬(throw e : Tx σ ε α).Returns s a s' := by
  change (Except.error e,s) ≠ (Except.ok a,s')
  simp

@[simp] theorem returnsReading {f : σ → α} {s s' : σ} {a} :
    (reading f : Tx σ ε α).Returns s a s' ↔ f s = a ∧ s = s' := by
  change (Except.ok (f s),s) = (Except.ok a,s') ↔ _
  simp

@[simp] theorem returnsRaiseIf {bad : Prop} {_ : Decidable bad} {e : ε} {s s' : σ} {u} :
    (raiseIf bad e).Returns s u s' ↔ ¬bad ∧ s = s' := by
  unfold raiseIf
  split <;> simp [*]

@[simp] theorem returnsOrRaise {o : Option α} {e : ε} {s s' : σ} {a} :
    (orRaise o e).Returns s a s' ↔ o = some a ∧ s = s' := by
  cases o <;> simp [orRaise]

@[simp] theorem returnsRelabel {f : ε → ε} {x : Tx σ ε α} {s a s'} :
    (relabel f x).Returns s a s' ↔ x.Returns s a s' := by
  unfold Returns
  rw [execRelabel]
  rcases x.exec s with ⟨_ | _,_⟩ <;> simp [Except.mapError]

@[simp] theorem returnsIte {p : Prop} {_ : Decidable p} {x y : Tx σ ε α} {s a s'} :
    (if p then x else y).Returns s a s' ↔ (p ∧ x.Returns s a s') ∨ (¬p ∧ y.Returns s a s') := by
  split <;> simp [*]

section Errors
variable (bad : ε → Prop)

/-- No error of this kind ends the body. -/
def Avoids (x : Tx σ ε α) (s : σ) : Prop := ∀ e s', x.exec s = (.error e,s') → ¬bad e

variable {bad}

@[simp] theorem avoidsBind {x : Tx σ ε α} {f : α → Tx σ ε β} {s} : (x >>= f).Avoids bad s ↔
    x.Avoids bad s ∧ ∀ a s', x.Returns s a s' → (f a).Avoids bad s' := by
  unfold Avoids Returns
  rw [execBind]
  rcases x.exec s with ⟨_ | a,s'⟩ <;> simp +contextual

@[simp] theorem avoidsPure {a : α} {s : σ} : (pure a : Tx σ ε α).Avoids bad s := by
  intro e s' failed
  change (Except.ok a,s) = (Except.error e,s') at failed
  simp at failed

@[simp] theorem avoidsMap {x : Tx σ ε α} {f : α → β} {s} : (f <$> x).Avoids bad s ↔ x.Avoids bad s := by
  rw [map_eq_pure_bind,avoidsBind]
  simp

@[simp] theorem avoidsReading {f : σ → α} {s : σ} : (reading f : Tx σ ε α).Avoids bad s := by
  intro e s' failed
  change (Except.ok (f s),s) = (Except.error e,s') at failed
  simp at failed

@[simp] theorem avoidsThrow {e : ε} {s : σ} : (throw e : Tx σ ε α).Avoids bad s ↔ ¬bad e := by
  change (∀ e' s', (Except.error e,s) = (Except.error e',s') → ¬bad e') ↔ _
  simp

@[simp] theorem avoidsRaiseIf {c : Prop} {_ : Decidable c} {e : ε} {s : σ} :
    (raiseIf c e).Avoids bad s ↔ c → ¬bad e := by
  unfold raiseIf
  split <;> simp [*]

@[simp] theorem avoidsOrRaise {o : Option α} {e : ε} {s : σ} :
    (orRaise o e).Avoids bad s ↔ o = none → ¬bad e := by
  cases o <;> simp [orRaise]

@[simp] theorem avoidsRelabel {f : ε → ε} {x : Tx σ ε α} {s} :
    (relabel f x).Avoids bad s ↔ x.Avoids (fun e => bad (f e)) s := by
  unfold Avoids
  rw [execRelabel]
  rcases x.exec s with ⟨_ | _,_⟩ <;> simp [Except.mapError]

@[simp] theorem avoidsIte {c : Prop} {_ : Decidable c} {x y : Tx σ ε α} {s} :
    (if c then x else y).Avoids bad s ↔ (c → x.Avoids bad s) ∧ (¬c → y.Avoids bad s) := by
  split <;> simp [*]
end Errors

section Endings
variable {ok : α → σ → Prop} {err : ε → σ → Prop}

/-- The body returns into `ok` or raises into `err`. -/
def Ends (x : Tx σ ε α) (s : σ) (ok : α → σ → Prop) (err : ε → σ → Prop) : Prop :=
  match x.exec s with
  | (.ok a,s') => ok a s'
  | (.error e,s') => err e s'

@[simp] theorem endsBind {x : Tx σ ε α} {f : α → Tx σ ε β} {s} {ok : β → σ → Prop} :
    (x >>= f).Ends s ok err ↔ x.Ends s (fun a s' => (f a).Ends s' ok err) err := by
  unfold Ends
  rw [execBind]
  rcases x.exec s with ⟨_ | a,s'⟩ <;> rfl

@[simp] theorem endsPure {a : α} {s : σ} : (pure a : Tx σ ε α).Ends s ok err ↔ ok a s := Iff.rfl

@[simp] theorem endsMap {x : Tx σ ε α} {f : α → β} {s} {ok : β → σ → Prop} :
    (f <$> x).Ends s ok err ↔ x.Ends s (fun a s' => ok (f a) s') err := by
  rw [map_eq_pure_bind,endsBind]
  rfl

@[simp] theorem endsThrow {e : ε} {s : σ} : (throw e : Tx σ ε α).Ends s ok err ↔ err e s := Iff.rfl

@[simp] theorem endsReading {f : σ → α} {s : σ} : (reading f : Tx σ ε α).Ends s ok err ↔ ok (f s) s := Iff.rfl

@[simp] theorem endsIte {c : Prop} {_ : Decidable c} {x y : Tx σ ε α} {s} :
    (if c then x else y).Ends s ok err ↔ (c → x.Ends s ok err) ∧ (¬c → y.Ends s ok err) := by
  split <;> simp [*]

@[simp] theorem endsRaiseIf {c : Prop} {_ : Decidable c} {e : ε} {s : σ} {ok : Unit → σ → Prop} :
    (raiseIf c e).Ends s ok err ↔ (c → err e s) ∧ (¬c → ok () s) := endsIte

@[simp] theorem endsOrRaise {o : Option α} {e : ε} {s : σ} :
    (orRaise o e).Ends s ok err ↔ (o = none → err e s) ∧ ∀ a, o = some a → ok a s := by
  cases o <;> simp [orRaise,endsThrow,endsPure]

@[simp] theorem endsRelabel {f : ε → ε} {x : Tx σ ε α} {s} :
    (relabel f x).Ends s ok err ↔ x.Ends s ok fun e s' => err (f e) s' := by
  unfold Ends
  rw [execRelabel]
  rcases x.exec s with ⟨_ | _,_⟩ <;> rfl
end Endings

section Log
variable {ρ : Type} (log : σ → List ρ)

/-- On return the log has grown by exactly `p`; on an error by some part of it. -/
def Adds (x : Tx σ ε α) (s : σ) (p : List ρ) : Prop :=
  x.Ends s (fun _ s' => log s' = log s ++ p) fun _ s' => log s' <+: log s ++ p

/-- However it ends, the log has grown by an initial part of `p`. -/
def Traces (x : Tx σ ε α) (s : σ) (p : List ρ) : Prop := log (x.exec s).2 <+: log s ++ p

/-- Nothing is logged. -/
def Silent (x : Tx σ ε α) : Prop := ∀ s, x.Ends s (fun _ s' => log s' = log s) fun _ s' => log s' = log s

variable {log}

theorem Adds.traces {x : Tx σ ε α} {s p} (h : x.Adds log s p) : x.Traces log s p := by
  unfold Adds Ends at h
  unfold Traces
  rcases out : x.exec s with ⟨_ | a,s'⟩ <;> rw [out] at h
  · exact h
  · exact h ▸ List.prefix_rfl

theorem addsOf {x : Tx σ ε α} {s p} (traces : x.Traces log s p)
    (exactly : ∀ a s', x.Returns s a s' → log s' = log s ++ p) : x.Adds log s p := by
  unfold Adds Ends
  unfold Traces at traces
  rcases out : x.exec s with ⟨_ | a,s'⟩
  · rwa [out] at traces
  · exact exactly a s' out

theorem Silent.returns {x : Tx σ ε α} {s a s'} (h : x.Silent log) (ok : x.Returns s a s') : log s' = log s := by
  have quiet := h s
  unfold Ends at quiet
  rwa [ok] at quiet

theorem Silent.adds {x : Tx σ ε α} {s} (h : x.Silent log) : x.Adds log s [] := by
  have quiet := h s
  unfold Adds Ends at *
  rcases out : x.exec s with ⟨_ | a,s'⟩ <;> rw [out] at quiet <;> simp [quiet]

theorem Silent.traces {x : Tx σ ε α} {s p} (h : x.Silent log) : x.Traces log s p := by
  have quiet := (h.adds (s := s)).traces
  unfold Traces at quiet ⊢
  rw [List.append_nil] at quiet
  exact quiet.trans (List.prefix_append _ _)

theorem addsRelabel {f : ε → ε} {x : Tx σ ε α} {s p} (h : x.Adds log s p) : (relabel f x).Adds log s p :=
  endsRelabel.mpr h

theorem silentRelabel {f : ε → ε} {x : Tx σ ε α} (h : x.Silent log) : (relabel f x).Silent log :=
  fun s => endsRelabel.mpr (h s)

theorem tracesBind {x : Tx σ ε α} {f : α → Tx σ ε β} {s p q} (first : x.Adds log s p)
    (next : ∀ a s', x.Returns s a s' → (f a).Traces log s' q) : (x >>= f).Traces log s (p ++ q) := by
  unfold Adds Ends at first
  unfold Traces
  rw [execBind]
  rcases out : x.exec s with ⟨_ | a,s'⟩ <;> rw [out] at first
  · exact first.trans (by rw [← List.append_assoc]; exact List.prefix_append _ _)
  · have step := next a s' out
    unfold Traces at step
    rw [first,List.append_assoc] at step
    exact step

theorem tracesAfter {x : Tx σ ε α} {f : α → Tx σ ε β} {s q} (first : x.Silent log)
    (next : ∀ a s', x.Returns s a s' → (f a).Traces log s' q) : (x >>= f).Traces log s q :=
  tracesBind first.adds next

theorem tracesFinish {x : Tx σ ε α} {f : α → Tx σ ε β} {s p} (first : x.Adds log s p) (rest : ∀ a, (f a).Silent log) :
    (x >>= f).Traces log s p := by
  rw [← List.append_nil p]
  exact tracesBind first fun a _ _ => (rest a).traces

theorem tracesThen {x : Tx σ ε α} {f : α → Tx σ ε β} {s p} (first : x.Traces log s p) (rest : ∀ a, (f a).Silent log) :
    (x >>= f).Traces log s p := by
  unfold Traces at first ⊢
  rw [execBind]
  rcases out : x.exec s with ⟨_ | a,s'⟩ <;> rw [out] at first
  · exact first
  · have quiet : log ((f a).exec s').2 = log s' := by
      have both := rest a s'
      unfold Ends at both
      rcases more : (f a).exec s' with ⟨_ | b,s''⟩ <;> rw [more] at both <;> exact both
    rw [quiet]
    exact first

theorem tracesRaiseIf {c : Prop} {_ : Decidable c} {e : ε} {f : Unit → Tx σ ε β} {s q}
    (next : ¬c → (f ()).Traces log s q) : (raiseIf c e >>= f).Traces log s q := by
  refine tracesAfter (fun s => ?_) fun _ s' ok => ?_
  · simp [endsRaiseIf]
  · obtain ⟨fine,rfl⟩ := returnsRaiseIf.mp ok
    exact next fine
end Log
end Tx
end SlaifGateway.Library
