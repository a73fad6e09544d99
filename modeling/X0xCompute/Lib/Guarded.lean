import Mathlib.Tactic

/-!
# Code that runs under a lock

A computation that holds a lock on a value of type `σ` reads the value and overwrites it,
write after write. If it is abandoned between two writes and the lock is recovered by the
next holder, the value left behind is the one after the writes already made. The monad
below keeps the list of written values, so that the finished computation and every
abandoned one are read off the same definition.
-/

namespace Lib

/-- A fallible computation that holds a lock on a `σ`: from the value it finds, its result
and the values it writes, in order. -/
structure Guarded (σ ε α : Type) where
  run : σ → Except ε α × List σ

namespace Guarded

variable {σ ε α β : Type}

/-- The guarded value after the writes `ws`, when `s` was found. -/
def after (s : σ) (ws : List σ) : σ := ws.getLast?.getD s

/-- Run `m`, then `f` on its result and the guarded value `m` leaves. -/
def bind (m : Guarded σ ε α) (f : α → Guarded σ ε β) : Guarded σ ε β where
  run s :=
    match m.run s with
    | (.error e, ws) => (.error e, ws)
    | (.ok a, ws) =>
      let r := (f a).run (after s ws)
      (r.1, ws ++ r.2)

instance : Monad (Guarded σ ε) where
  pure a := ⟨fun _ => (.ok a, [])⟩
  bind := bind

instance : MonadLift (Except ε) (Guarded σ ε) where
  monadLift r := ⟨fun _ => (r, [])⟩

/-- Fail without a write. -/
def fail (e : ε) : Guarded σ ε α := ⟨fun _ => (.error e, [])⟩

/-- The guarded value. -/
def read : Guarded σ ε σ := ⟨fun s => (.ok s, [])⟩

/-- Overwrite the guarded value. -/
def write (s' : σ) : Guarded σ ε Unit := ⟨fun _ => (.ok (), [s'])⟩

/-- The result of a computation that is not abandoned. -/
def result (m : Guarded σ ε α) (s : σ) : Except ε α := (m.run s).1

/-- The values a computation writes when it is not abandoned. -/
def writes (m : Guarded σ ε α) (s : σ) : List σ := (m.run s).2

/-- The guarded value that a computation leaves when it is not abandoned. -/
def final (m : Guarded σ ε α) (s : σ) : σ := after s (m.writes s)

/-- The guarded value left behind when the computation is abandoned after `n` writes. -/
def abandoned (m : Guarded σ ε α) (n : Nat) (s : σ) : σ := after s ((m.writes s).take n)

@[simp] theorem after_nil (s : σ) : after s [] = s := rfl

@[simp] theorem after_cons (s w : σ) (ws : List σ) : after s (w :: ws) = after w ws := by
  simp [after, List.getLast?_cons]

@[simp] theorem run_pure (a : α) (s : σ) : (pure a : Guarded σ ε α).run s = (.ok a, []) := rfl

@[simp] theorem run_fail (e : ε) (s : σ) : (fail e : Guarded σ ε α).run s = (.error e, []) := rfl

/-- A lifted success goes on with its value. -/
@[simp] theorem run_lift_ok_bind (a : α) (f : α → Guarded σ ε β) (s : σ) :
    ((liftM (Except.ok a : Except ε α) : Guarded σ ε α) >>= f).run s = (f a).run s := rfl

/-- A lifted failure ends the computation. -/
@[simp] theorem run_lift_error_bind (e : ε) (f : α → Guarded σ ε β) (s : σ) :
    ((liftM (Except.error e : Except ε α) : Guarded σ ε α) >>= f).run s = (.error e, []) := rfl

/-- A read goes on with the guarded value. -/
@[simp] theorem run_read_bind (f : σ → Guarded σ ε β) (s : σ) :
    ((read : Guarded σ ε σ) >>= f).run s = (f s).run s := rfl

/-- A write goes on over the new guarded value. -/
@[simp] theorem run_write_bind (s' : σ) (f : Unit → Guarded σ ε β) (s : σ) :
    ((write s' : Guarded σ ε Unit) >>= f).run s =
      (((f ()).run s').1, s' :: ((f ()).run s').2) := rfl

@[simp] theorem after_concat (s w : σ) (ws : List σ) : after s (ws ++ [w]) = w := by
  simp [after]

theorem after_mem (s : σ) (ws : List σ) : after s ws = s ∨ after s ws ∈ ws := by
  cases ws with
  | nil => exact Or.inl rfl
  | cons w ws =>
    right
    rw [after, List.getLast?_eq_some_getLast (List.cons_ne_nil w ws)]
    exact List.getLast_mem _

/-- Every value the computation writes satisfies `P` whenever the value it found does. -/
def Preserves (P : σ → Prop) (m : Guarded σ ε α) : Prop :=
  ∀ s, P s → ∀ w ∈ m.writes s, P w

theorem Preserves.final {P : σ → Prop} {m : Guarded σ ε α} (h : Preserves P m) {s : σ}
    (hs : P s) : P (m.final s) := by
  rcases after_mem s (m.writes s) with heq | hmem
  · rw [Guarded.final, heq]
    exact hs
  · exact h s hs _ hmem

/-- A computation that is abandoned leaves what it found or one of the values it writes. -/
theorem Preserves.abandoned {P : σ → Prop} {m : Guarded σ ε α} (h : Preserves P m) (n : Nat)
    {s : σ} (hs : P s) : P (m.abandoned n s) := by
  rcases after_mem s ((m.writes s).take n) with heq | hmem
  · rw [Guarded.abandoned, heq]
    exact hs
  · exact h s hs _ (List.mem_of_mem_take hmem)

end Guarded

end Lib
