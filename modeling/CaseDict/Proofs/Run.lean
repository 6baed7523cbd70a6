import CaseDict.Statement
/-! # Runs

What a read does is seen by running it from a state: `exec` gives the result and the state after it,
`outcome` forgets that the input left is a rest of the input given, so that runs over inputs with
the same tokens can be compared. -/

namespace CaseDict

open Expansion

section Exec

variable {σ α β : Type}

/-- Runs a computation that may fail from a state. -/
def exec (m : ExceptT Failure (StateM σ) α) (s : σ) : Except Failure α × σ := m.run.run s

@[simp] theorem exec_pure (a : α) (s : σ) :
    exec (pure a : ExceptT Failure (StateM σ) α) s = (.ok a, s) := rfl

@[simp] theorem exec_throw (f : Failure) (s : σ) :
    exec (throw f : ExceptT Failure (StateM σ) α) s = (.error f, s) := rfl

@[simp] theorem exec_get (s : σ) : exec (get : ExceptT Failure (StateM σ) σ) s = (.ok s, s) := rfl

@[simp] theorem exec_modify (g : σ → σ) (s : σ) :
    exec (modify g : ExceptT Failure (StateM σ) PUnit) s = (.ok ⟨⟩, g s) := rfl

@[simp] theorem exec_lift (r : Except Failure α) (s : σ) :
    exec (liftM r : ExceptT Failure (StateM σ) α) s = (r, s) := by cases r <;> rfl

theorem exec_adapt (g : Failure → Failure) (m : ExceptT Failure (StateM σ) α) (s : σ) :
    exec (ExceptT.adapt g m) s = ((exec m s).1.mapError g, (exec m s).2) := rfl

theorem exec_bind (m : ExceptT Failure (StateM σ) α) (k : α → ExceptT Failure (StateM σ) β)
    (s : σ) : exec (m >>= k) s = match exec m s with
      | (.ok a, s') => exec (k a) s'
      | (.error f, s') => (.error f, s') := by
  rcases h : exec m s with ⟨_ | a, s'⟩ <;>
    simp only [exec, ExceptT.run_bind, StateT.run_bind] at h ⊢ <;> rw [show _ = _ from h] <;> rfl

end Exec

section Outcome

variable {σ α : Type} {i : Input}

/-- The result of a run, with the input left by itself. -/
def outcome (m : ExceptT Failure (StateM σ) (Taken α i)) (s : σ) :
    Except Failure (α × Input) × σ :=
  ((exec m s).1.map fun p => (p.1, p.2.input), (exec m s).2)

theorem outcome_eq_ok {m : ExceptT Failure (StateM σ) (Taken α i)} {s u : σ} {a : α} {j : Input} :
    outcome m s = (.ok (a, j), u) ↔
      ∃ rest : i.Rest, exec m s = (.ok (a, rest), u) ∧ rest.input = j := by
  unfold outcome
  constructor
  · intro h
    rcases hx : exec m s with ⟨_ | ⟨b, rest⟩, v⟩ <;> rw [hx] at h <;> cases h
    exact ⟨rest, rfl, rfl⟩
  · rintro ⟨rest, hx, rfl⟩
    rw [hx]
    rfl

end Outcome

namespace Input

variable {i : Input}

theorem next_of_tokens {t : Token} {ts : List Token} (h : i.tokens = t :: ts) :
    i.next = .ok (some (t, ⟨i.after t ts, size_after_lt h⟩)) := by
  obtain ⟨name, tokens, fault, line⟩ := i
  cases h
  rfl

theorem tokens_of_next {t : Token} {rest : i.Less} (h : i.next = .ok (some (t, rest))) :
    i.tokens = t :: rest.input.tokens := by
  obtain ⟨name, ts, fault, line⟩ := i
  cases ts with
  | nil => cases fault <;> cases h
  | cons u us =>
    cases h
    rfl

theorem tokens_of_end (h : i.next = .ok none) : i.tokens = [] := by
  obtain ⟨name, ts, fault, line⟩ := i
  cases ts with
  | nil => rfl
  | cons u us => cases h

theorem tokens_of_expect {what : String} {t : Token} {rest : i.Less}
    (h : i.expect what = .ok (t, rest)) : i.tokens = t :: rest.input.tokens := by
  unfold expect at h
  cases hn : i.next with
  | error f =>
    rw [hn] at h
    contradiction
  | ok found =>
    rw [hn] at h
    cases found with
    | none => contradiction
    | some p =>
      cases h
      exact tokens_of_next hn

end Input

/-- A setup without files. -/
def bareSetup : Setup := { files := ⟨"/", fun _ => .fault .missing⟩ }

/-- A setup without files and with an environment. -/
def environmentSetup (environment : List (String × String)) : Setup :=
  { bareSetup with settings := { environment } }

end CaseDict
