import SpriteRenderer.Effect

/-!
# Peeling computations apart

A computation that succeeded is a chain of computations that succeeded,
and one that faulted has a first link that did. The lemmas here turn an
equation about a whole computation into equations about its links, so
that no later proof has to open `bind`. That the links may be regrouped
is the monad laws, which hold because appending events is associative.

Logs grow at the end as events do; `snoc_eq_append_cons` divides one that
has grown by an entry.
-/

namespace SpriteRenderer

theorem except_bind_eq_ok_iff {ε α β : Type} {x : Except ε α} {f : α → Except ε β} {b : β} :
    (x >>= f) = .ok b ↔ ∃ a, x = .ok a ∧ f a = .ok b := by
  cases x <;> simp [bind, Except.bind]

theorem except_bind_eq_error_iff {ε α β : Type} {x : Except ε α} {f : α → Except ε β} {e : ε} :
    (x >>= f) = .error e ↔ x = .error e ∨ ∃ a, x = .ok a ∧ f a = .error e := by
  cases x <;> simp [bind, Except.bind]

/-- A way to evaluate a computation: one closed fact about its result says
that there is one. -/
theorem exists_ok_of_map_toOption {ε α β : Type} {x : Except ε α} {f : α → β} {b : β}
    (h : x.toOption.map f = some b) : ∃ a, x = .ok a ∧ f a = b := by
  cases x with
  | error e => cases h
  | ok a => exact ⟨a, rfl, Option.some.inj h⟩

/-- A log is divided at the entry by which it has grown, or else before it. -/
theorem snoc_eq_append_cons {α : Type} {log earlier later : List α} {x y : α}
    (split : log ++ [x] = earlier ++ y :: later) :
    (log = earlier ∧ x = y ∧ later = [])
      ∨ ∃ between, later = between ++ [x] ∧ log = earlier ++ y :: between := by
  rcases List.eq_nil_or_concat later with rfl | ⟨between, last, rfl⟩
  · obtain ⟨hlog, hlast⟩ := List.append_inj' split rfl
    exact Or.inl ⟨hlog, (List.cons.inj hlast).1, rfl⟩
  · rw [List.concat_eq_append, ← List.cons_append, ← List.append_assoc] at split
    obtain ⟨hlog, hlast⟩ := List.append_inj' split rfl
    obtain rfl := (List.cons.inj hlast).1
    exact Or.inr ⟨between, List.concat_eq_append, hlog⟩

namespace Effect

variable {ε ε' σ τ α β : Type}

theorem run_bind_eq_ok_iff {x : Effect ε σ α} {f : α → Effect ε σ β} {s : σ} {out : Ran ε σ β} :
    (x >>= f).run s = .ok out ↔
      ∃ mid last, x.run s = .ok mid ∧ (f mid.value).run mid.state = .ok last
        ∧ out = ⟨last.value, last.state, mid.events ++ last.events⟩ := by
  rw [run_bind]
  cases x.run s with
  | error e => simp
  | ok mid =>
      cases hf : (f mid.value).run mid.state with
      | error e => simp [hf]
      | ok last => simp [hf, eq_comm]

theorem run_bind_eq_error_iff {x : Effect ε σ α} {f : α → Effect ε σ β} {s : σ} {e : Fault} :
    (x >>= f).run s = .error e ↔
      x.run s = .error e
        ∨ ∃ mid, x.run s = .ok mid ∧ (f mid.value).run mid.state = .error e := by
  rw [run_bind]
  cases x.run s with
  | error e' => simp
  | ok mid =>
      cases hf : (f mid.value).run mid.state with
      | error e' => simp [hf]
      | ok last => simp [hf]

theorem run_bind_of_silent {x : Effect ε σ α} {a : α} {s s' : σ} (h : x.run s = .ok ⟨a, s', []⟩)
    (f : α → Effect ε σ β) : (x >>= f).run s = (f a).run s' := by
  rw [run_bind, h]
  dsimp only
  cases (f a).run s' <;> rfl

instance : LawfulMonad (Effect ε σ) :=
  LawfulMonad.mk' (Effect ε σ)
    (by
      intro α x
      funext s
      change Effect.bind x Effect.pure s = x s
      unfold Effect.bind Effect.pure
      cases x s <;> simp)
    (by
      intro α β a f
      funext s
      change Effect.bind (Effect.pure a) f s = f a s
      dsimp only [Effect.bind, Effect.pure]
      cases f a s <;> simp)
    (by
      intro α β γ x f g
      funext s
      change Effect.bind (Effect.bind x f) g s = Effect.bind x (fun a => Effect.bind (f a) g) s
      unfold Effect.bind
      cases x s with
      | error e => rfl
      | ok mid =>
          dsimp only
          cases f mid.value mid.state with
          | error e => rfl
          | ok mid' =>
              dsimp only
              cases g mid'.value mid'.state <;> simp)

@[simp] theorem run_map (g : α → β) (x : Effect ε σ α) (s : σ) :
    (g <$> x).run s =
      match x.run s with
      | .error e => .error e
      | .ok r => .ok ⟨g r.value, r.state, r.events⟩ := by
  rw [map_eq_pure_bind, run_bind]
  cases x.run s <;> simp

@[simp] theorem run_emitAll (es : List ε) (s : σ) :
    (emitAll es : Effect ε σ Unit).run s = .ok ⟨(), s, es⟩ := rfl

@[simp] theorem run_lift_ok (a : α) (s : σ) :
    (lift (.ok a) : Effect ε σ α).run s = .ok ⟨a, s, []⟩ := rfl

theorem run_lift_eq_ok_iff {x : Except Fault α} {s : σ} {out : Ran ε σ α} :
    (lift x : Effect ε σ α).run s = .ok out ↔ ∃ a, x = .ok a ∧ out = ⟨a, s, []⟩ := by
  cases x with
  | error e => simp [lift, run, Except.map]
  | ok a => simp [lift, run, Except.map, eq_comm]

theorem run_lift_bind {x : Except Fault α} {a : α} (h : x = .ok a) (f : α → Effect ε σ β) (s : σ) :
    (lift x >>= f).run s = (f a).run s := by
  have hpure : (lift x : Effect ε σ α) = pure a := by
    rw [h]
    rfl
  rw [hpure, pure_bind]

theorem run_lift_eq_error_iff {x : Except Fault α} {s : σ} {e : Fault} :
    (lift x : Effect ε σ α).run s = .error e ↔ x = .error e := by
  cases x with
  | error e => simp [lift, run, Except.map]
  | ok a => simp [lift, run, Except.map]

theorem run_zoom (part : σ → τ) (put : τ → σ → σ) (x : Effect ε τ α) (s : σ) :
    (x.zoom part put).run s =
      match x.run (part s) with
      | .error e => .error e
      | .ok inner => .ok ⟨inner.value, put inner.state s, inner.events⟩ := rfl

theorem run_zoom_eq_ok_iff {part : σ → τ} {put : τ → σ → σ} {x : Effect ε τ α} {s : σ}
    {out : Ran ε σ α} :
    (x.zoom part put).run s = .ok out ↔
      ∃ inner, x.run (part s) = .ok inner
        ∧ out = ⟨inner.value, put inner.state s, inner.events⟩ := by
  rw [run_zoom]
  cases x.run (part s) with
  | error e => simp
  | ok inner => simp [eq_comm]

theorem run_mapEvents (f : ε → ε') (x : Effect ε σ α) (s : σ) :
    (x.mapEvents f).run s =
      match x.run s with
      | .error e => .error e
      | .ok inner => .ok ⟨inner.value, inner.state, inner.events.map f⟩ := rfl

theorem run_mapEvents_eq_ok_iff {f : ε → ε'} {x : Effect ε σ α} {s : σ} {out : Ran ε' σ α} :
    (x.mapEvents f).run s = .ok out ↔
      ∃ inner, x.run s = .ok inner ∧ out = ⟨inner.value, inner.state, inner.events.map f⟩ := by
  rw [run_mapEvents]
  cases x.run s with
  | error e => simp
  | ok inner => simp [eq_comm]

/-- An effect that never faults. -/
def Total (x : Effect ε σ α) : Prop := ∀ s, ∃ out, x.run s = .ok out

section Total

theorem total_pure (a : α) : (pure a : Effect ε σ α).Total := fun _ => ⟨_, rfl⟩

theorem total_emit (e : ε) : (emit e : Effect ε σ Unit).Total := fun _ => ⟨_, rfl⟩

theorem total_get : (get : Effect ε σ σ).Total := fun _ => ⟨_, rfl⟩

theorem total_modify (f : σ → σ) : (modify f : Effect ε σ Unit).Total := fun _ => ⟨_, rfl⟩

theorem Total.bind {x : Effect ε σ α} {f : α → Effect ε σ β} (hx : x.Total)
    (hf : ∀ a, (f a).Total) : (x >>= f).Total := by
  intro s
  obtain ⟨mid, hmid⟩ := hx s
  obtain ⟨last, hlast⟩ := hf mid.value mid.state
  exact ⟨_, run_bind_eq_ok_iff.mpr ⟨mid, last, hmid, hlast, rfl⟩⟩

theorem Total.zoom {x : Effect ε τ α} (hx : x.Total) (part : σ → τ) (put : τ → σ → σ) :
    (x.zoom part put).Total := by
  intro s
  obtain ⟨inner, hinner⟩ := hx (part s)
  exact ⟨_, run_zoom_eq_ok_iff.mpr ⟨inner, hinner, rfl⟩⟩

theorem Total.mapEvents {x : Effect ε σ α} (hx : x.Total) (f : ε → ε') :
    (x.mapEvents f).Total := by
  intro s
  obtain ⟨inner, hinner⟩ := hx s
  exact ⟨_, run_mapEvents_eq_ok_iff.mpr ⟨inner, hinner, rfl⟩⟩

end Total

/-- The same effect, without its events. -/
def muted (x : Effect ε σ α) : Effect ε' σ α := fun s =>
  (x.run s).map fun r => ⟨r.value, r.state, []⟩

theorem run_muted_of_ok {x : Effect ε σ α} {s : σ} {r : Ran ε σ α} (h : x.run s = .ok r) :
    (x.muted : Effect ε' σ α).run s = .ok ⟨r.value, r.state, []⟩ := by
  change (x.run s).map _ = _
  rw [h]
  rfl

end Effect

end SpriteRenderer
