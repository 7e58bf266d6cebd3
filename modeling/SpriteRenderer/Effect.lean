import SpriteRenderer.Fault

/-!
# Effects

Everything that talks to a graphics device, a window or a log is written as
an `Effect`: a function of a state that either faults or returns an answer,
the next state and the events it emitted, oldest first. Events are part of
the result and not of the state, so no computation can see, change or drop
what an earlier one emitted: `run_bind` says that sequencing appends.
-/

namespace SpriteRenderer

/-- What one run of an effect leaves behind. -/
structure Ran (ε σ α : Type) where
  value : α
  state : σ
  events : List ε

/-- A computation over a state `σ` that emits events of type `ε`. -/
def Effect (ε σ α : Type) : Type := σ → Except Fault (Ran ε σ α)

namespace Effect

variable {ε ε' σ τ α β : Type}

def run (x : Effect ε σ α) (s : σ) : Except Fault (Ran ε σ α) := x s

protected def pure (a : α) : Effect ε σ α := fun s => .ok ⟨a, s, []⟩

protected def bind (x : Effect ε σ α) (f : α → Effect ε σ β) : Effect ε σ β := fun s =>
  match x s with
  | .error e => .error e
  | .ok r =>
      match f r.value r.state with
      | .error e => .error e
      | .ok r' => .ok ⟨r'.value, r'.state, r.events ++ r'.events⟩

instance : Monad (Effect ε σ) where
  pure := Effect.pure
  bind := Effect.bind

/-! ## Primitive effects -/

/-- Emits one event. -/
def emit (e : ε) : Effect ε σ Unit := fun s => .ok ⟨(), s, [e]⟩

/-- Emits a list of events in order. -/
def emitAll (es : List ε) : Effect ε σ Unit := fun s => .ok ⟨(), s, es⟩

def get : Effect ε σ σ := fun s => .ok ⟨s, s, []⟩

def set (s : σ) : Effect ε σ Unit := fun _ => .ok ⟨(), s, []⟩

def modify (f : σ → σ) : Effect ε σ Unit := fun s => .ok ⟨(), f s, []⟩

/-- A faultable value as an effect that touches nothing. -/
def lift (x : Except Fault α) : Effect ε σ α := fun s => x.map (⟨·, s, []⟩)

/-! ## Changing state and events -/

/-- Runs an effect of a part of the state, and puts the part back. -/
def zoom (part : σ → τ) (put : τ → σ → σ) (x : Effect ε τ α) : Effect ε σ α := fun s =>
  match x (part s) with
  | .error e => .error e
  | .ok r => .ok ⟨r.value, put r.state s, r.events⟩

/-- Renames the events of an effect. -/
def mapEvents (f : ε → ε') (x : Effect ε σ α) : Effect ε' σ α := fun s =>
  match x s with
  | .error e => .error e
  | .ok r => .ok ⟨r.value, r.state, r.events.map f⟩

/-! ## What running does -/

@[simp] theorem run_pure (a : α) (s : σ) :
    (pure a : Effect ε σ α).run s = .ok ⟨a, s, []⟩ := rfl

@[simp] theorem run_bind (x : Effect ε σ α) (f : α → Effect ε σ β) (s : σ) :
    (x >>= f).run s =
      match x.run s with
      | .error e => .error e
      | .ok r =>
          match (f r.value).run r.state with
          | .error e => .error e
          | .ok r' => .ok ⟨r'.value, r'.state, r.events ++ r'.events⟩ := rfl

@[simp] theorem run_emit (e : ε) (s : σ) :
    (emit e : Effect ε σ Unit).run s = .ok ⟨(), s, [e]⟩ := rfl

@[simp] theorem run_get (s : σ) : (get : Effect ε σ σ).run s = .ok ⟨s, s, []⟩ := rfl

@[simp] theorem run_set (s s' : σ) :
    (set s' : Effect ε σ Unit).run s = .ok ⟨(), s', []⟩ := rfl

@[simp] theorem run_modify (f : σ → σ) (s : σ) :
    (modify f : Effect ε σ Unit).run s = .ok ⟨(), f s, []⟩ := rfl

end Effect

end SpriteRenderer
