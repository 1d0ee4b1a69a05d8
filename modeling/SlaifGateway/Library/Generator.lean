import Mathlib.Init

/-! Coroutines that run against an environment. A process is a finite tree of questions;
the environment answers each one and may change its state. A generator is a process with
local variables and exceptions, whose locals survive an exception. `Ensures` is what every
way of answering leads to, with one rule for each construct; `Ends` is one whole run. -/
namespace SlaifGateway.Library

inductive Process (E : Type) (A : E → Type) (R : Type) where
  | ret (r : R)
  | ask (e : E) (k : A e → Process E A R)

namespace Process
variable {E : Type} {A : E → Type} {R S σ : Type}

def bind : Process E A R → (R → Process E A S) → Process E A S
  | ret r,f => f r
  | ask e k,f => ask e fun a => (k a).bind f

instance : Monad (Process E A) where
  pure := ret
  bind := bind

variable (env : σ → (e : E) → A e → σ → Prop)

def Always : Process E A R → σ → (R → σ → Prop) → Prop
  | ret r,w,q => q r w
  | ask e k,w,q => ∀ a w',env w e a w' → (k a).Always w' q

inductive Ends : Process E A R → σ → R → σ → Prop where
  | ret (r : R) (w : σ) : Ends (ret r) w r w
  | ask {e : E} {k : A e → Process E A R} {w a w' r w''} (step : env w e a w') (rest : Ends (k a) w' r w'') :
      Ends (ask e k) w r w''

variable {env}

theorem alwaysBind {p : Process E A R} {f : R → Process E A S} {w : σ} {q : S → σ → Prop} :
    (p.bind f).Always env w q ↔ p.Always env w fun r w' => (f r).Always env w' q := by
  induction p generalizing w with
  | ret r => rfl
  | ask e k ih => exact forall_congr' fun a => forall_congr' fun w' => imp_congr_right fun _ => ih a

theorem alwaysMono {p : Process E A R} {w : σ} {q q' : R → σ → Prop} (h : p.Always env w q)
    (weaker : ∀ r w',q r w' → q' r w') : p.Always env w q' := by
  induction p generalizing w with
  | ret r => exact weaker r w h
  | ask e k ih => exact fun a w' step => ih a (h a w' step)

theorem alwaysIff {p : Process E A R} {w : σ} {q : R → σ → Prop} :
    p.Always env w q ↔ ∀ r w',Ends env p w r w' → q r w' := by
  induction p generalizing w with
  | ret r =>
    constructor
    · rintro h _ _ ⟨⟩
      exact h
    · exact fun h => h r w (.ret r w)
  | ask e k ih =>
    constructor
    · intro h r w'' run
      cases run with
      | ask step rest => exact (ih _).mp (h _ _ step) r w'' rest
    · exact fun h a w' step => (ih a).mpr fun r w'' rest => h r w'' (.ask step rest)

theorem endsInvariant {inv : σ → Prop} (step : ∀ w e a w',env w e a w' → inv w → inv w') {p : Process E A R} {w r w'}
    (run : Ends env p w r w') (start : inv w) : inv w' := by
  induction run with
  | ret => exact start
  | ask answered _ ih => exact ih (step _ _ _ _ answered start)

/-- Where the environment always has an answer, every process runs to its end. -/
theorem endsTotal (answers : ∀ w e,∃ a w',env w e a w') (p : Process E A R) (w : σ) :
    ∃ r w',Ends env p w r w' := by
  induction p generalizing w with
  | ret r => exact ⟨r,w,.ret r w⟩
  | ask e k ih =>
    obtain ⟨a,w',step⟩ := answers w e
    obtain ⟨r,w'',rest⟩ := ih a w'
    exact ⟨r,w'',.ask step rest⟩
end Process

/-- Locals `V` and exceptions `X` over the questions `E`. -/
abbrev Generator (E : Type) (A : E → Type) (V X : Type) := ExceptT X (StateT V (Process E A))

namespace Generator
variable {E : Type} {A : E → Type} {V X α β σ : Type}

def ask (e : E) : Generator E A V X (A e) := fun v => .ask e fun a => .ret (.ok a,v)

def locals : Generator E A V X V := fun v => .ret (.ok v,v)

def update (f : V → V) : Generator E A V X Unit := fun v => .ret (.ok (),f v)

/-- `try … except`, with a handler that raises again what it does not catch. -/
def attempt (g : Generator E A V X α) (h : X → Generator E A V X α) : Generator E A V X α :=
  fun v => Process.bind (g v) fun
    | (.ok a,v') => .ret (.ok a,v')
    | (.error x,v') => h x v'

/-- `try … finally`: an exception of the last block replaces the pending one. -/
def lastly (g : Generator E A V X α) (h : Generator E A V X Unit) : Generator E A V X α :=
  fun v => Process.bind (g v) fun (r,v') => Process.bind (h v') fun
    | (.ok _,v'') => .ret (r,v'')
    | (.error x,v'') => .ret (.error x,v'')

variable (env : σ → (e : E) → A e → σ → Prop)

/-- However it is answered, the generator returns into `ok` or raises into `err`. -/
def Ensures (g : Generator E A V X α) (v : V) (w : σ) (ok : α → V → σ → Prop) (err : X → V → σ → Prop) : Prop :=
  Process.Always env (g v) w fun r w' =>
    match r with
    | (.ok a,v') => ok a v' w'
    | (.error x,v') => err x v' w'

def Ends (g : Generator E A V X α) (v : V) (w : σ) (r : Except X α) (v' : V) (w' : σ) : Prop :=
  Process.Ends env (g v) w (r,v') w'

variable {env} {v : V} {w : σ} {ok : α → V → σ → Prop} {err : X → V → σ → Prop}

@[simp] theorem ensuresPure {a : α} :
    (pure a : Generator E A V X α).Ensures env v w ok err ↔ ok a v w := Iff.rfl

@[simp] theorem ensuresThrow {x : X} :
    (throw x : Generator E A V X α).Ensures env v w ok err ↔ err x v w := Iff.rfl

@[simp] theorem ensuresAsk {e : E} {ok : A e → V → σ → Prop} :
    (ask e : Generator E A V X (A e)).Ensures env v w ok err ↔ ∀ a w',env w e a w' → ok a v w' := Iff.rfl

@[simp] theorem ensuresLocals {ok : V → V → σ → Prop} :
    (locals : Generator E A V X V).Ensures env v w ok err ↔ ok v v w := Iff.rfl

@[simp] theorem ensuresUpdate {f : V → V} {ok : Unit → V → σ → Prop} :
    (update f : Generator E A V X Unit).Ensures env v w ok err ↔ ok () (f v) w := Iff.rfl

@[simp] theorem ensuresBind {g : Generator E A V X α} {f : α → Generator E A V X β} {ok : β → V → σ → Prop} :
    (g >>= f).Ensures env v w ok err ↔ g.Ensures env v w (fun a v' w' => (f a).Ensures env v' w' ok err) err := by
  refine Process.alwaysBind.trans ⟨fun h => Process.alwaysMono h ?_,fun h => Process.alwaysMono h ?_⟩
  all_goals
    rintro ⟨_ | a,v'⟩ w' h
    · exact h
    · exact h

@[simp] theorem ensuresIte {c : Prop} {_ : Decidable c} {g h : Generator E A V X α} :
    (if c then g else h).Ensures env v w ok err ↔
      (c → g.Ensures env v w ok err) ∧ (¬c → h.Ensures env v w ok err) := by
  split <;> simp [*]

@[simp] theorem ensuresAttempt {g : Generator E A V X α} {h : X → Generator E A V X α} :
    (attempt g h).Ensures env v w ok err ↔
      g.Ensures env v w ok fun x v' w' => (h x).Ensures env v' w' ok err := by
  refine Process.alwaysBind.trans ⟨fun h => Process.alwaysMono h ?_,fun h => Process.alwaysMono h ?_⟩
  all_goals
    rintro ⟨_ | a,v'⟩ w' h
    · exact h
    · exact h

@[simp] theorem ensuresLastly {g : Generator E A V X α} {h : Generator E A V X Unit} :
    (lastly g h).Ensures env v w ok err ↔
      g.Ensures env v w (fun a v' w' => h.Ensures env v' w' (fun _ => ok a) err)
        fun x v' w' => h.Ensures env v' w' (fun _ => err x) err := by
  refine Process.alwaysBind.trans ⟨fun h => Process.alwaysMono h ?_,fun h => Process.alwaysMono h ?_⟩
  · rintro ⟨_ | a,v'⟩ w' h
    · refine Process.alwaysMono (Process.alwaysBind.mp h) ?_
      rintro ⟨_ | _,_⟩ _ h <;> exact h
    · refine Process.alwaysMono (Process.alwaysBind.mp h) ?_
      rintro ⟨_ | _,_⟩ _ h <;> exact h
  · rintro ⟨_ | a,v'⟩ w' h
    · refine Process.alwaysBind.mpr (Process.alwaysMono h ?_)
      rintro ⟨_ | _,_⟩ _ h <;> exact h
    · refine Process.alwaysBind.mpr (Process.alwaysMono h ?_)
      rintro ⟨_ | _,_⟩ _ h <;> exact h

/-- One handler law for a whole block. -/
theorem Ensures.handled {g : Generator E A V X α} {h : X → Generator E A V X α} {err' : X → V → σ → Prop}
    (body : g.Ensures env v w ok err) (handles : ∀ x v' w',err x v' w' → (h x).Ensures env v' w' ok err') :
    (attempt g h).Ensures env v w ok err' :=
  ensuresAttempt.mpr (Process.alwaysMono body fun r w' => by
    rcases r with ⟨_ | a,v'⟩
    · exact handles _ _ _
    · exact id)

/-- One law of the last block, for both ways into it. -/
theorem Ensures.finished {g : Generator E A V X α} {h : Generator E A V X Unit} {p p' : V → σ → Prop}
    (body : g.Ensures env v w (fun _ => p) fun _ => p)
    (last : ∀ v' w',p v' w' → h.Ensures env v' w' (fun _ => p') fun _ => p') :
    (lastly g h).Ensures env v w (fun _ => p') fun _ => p' :=
  ensuresLastly.mpr (Process.alwaysMono body fun r w' => by
    rcases r with ⟨_ | a,v'⟩
    · exact last _ _
    · exact last _ _)

theorem Ensures.mono {g : Generator E A V X α} {ok' : α → V → σ → Prop} {err' : X → V → σ → Prop}
    (h : g.Ensures env v w ok err) (returned : ∀ a v' w',ok a v' w' → ok' a v' w')
    (raised : ∀ x v' w',err x v' w' → err' x v' w') : g.Ensures env v w ok' err' := by
  refine Process.alwaysMono h ?_
  rintro ⟨_ | a,v'⟩ w' h
  · exact raised _ _ _ h
  · exact returned _ _ _ h

theorem ensuresRuns {g : Generator E A V X α} {q : Except X α → V → σ → Prop}
    (h : g.Ensures env v w (fun a => q (.ok a)) fun x => q (.error x)) {r v' w'}
    (run : g.Ends env v w r v' w') : q r v' w' := by
  have last := Process.alwaysIff.mp h (r,v') w' run
  cases r with
  | ok a => exact last
  | error x => exact last

theorem endsInvariant {inv : σ → Prop} (step : ∀ w e a w',env w e a w' → inv w → inv w') {g : Generator E A V X α}
    {r v' w'} (run : g.Ends env v w r v' w') (start : inv w) : inv w' :=
  Process.endsInvariant step run start

theorem endsTotal (answers : ∀ w e,∃ a w',env w e a w') (g : Generator E A V X α) (v : V) (w : σ) :
    ∃ r v' w',g.Ends env v w r v' w' := by
  obtain ⟨⟨r,v'⟩,w',run⟩ := Process.endsTotal answers (g v) w
  exact ⟨r,v',w',run⟩
end Generator
end SlaifGateway.Library
