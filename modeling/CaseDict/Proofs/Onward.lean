import CaseDict.Proofs.Sharing
/-! # Reading statement by statement

What reading an input into a dictionary comes to (`Reader.readInto`) is what its first statement
comes to and then what the rest does. -/

namespace CaseDict

open Expansion Statement Entry

variable {setup : Setup} {i : Input} {s : ReadState} {t : Token}

namespace Reader

/-- Reads all statements of an input into the dictionary of a state. -/
def readInto (setup : Setup) (i : Input) (s : ReadState) : Except Failure Unit × ReadState :=
  let (result, s) := exec (entries setup 0 0 none [] i) s
  (result.map fun _ => (), s)

/-- The entries of a dictionary that was read. -/
theorem read_inner? (setup : Setup) (i : Input) : (read setup i).1.map inner? =
    (readInto setup i (start setup)).1.map fun _ =>
      some (readInto setup i (start setup)).2.scope.entries := by
  rw [read_eq, readInto]
  rcases exec (entries setup 0 0 none [] i) (start setup) with ⟨_ | p, s⟩ <;> rfl

theorem readInto_nil (htokens : i.tokens = []) : readInto setup i s =
    (match i.fault with
      | some f => .error f
      | none => .ok (), s) := by
  obtain ⟨name, ts, fault, line⟩ := i
  cases htokens
  rw [readInto, entries, readEntries.eq_def]
  cases fault <;> rfl

/-- Reads the rest of an input whose first token has been read. -/
def readBehind (setup : Setup) (t : Token) (i : Input) (s : ReadState) :
    Except Failure Unit × ReadState :=
  if t.symbol = .closer .brace then (.error (.inText .strayBrace t.line i.name), s)
  else if t.symbol = .terminator then readInto setup i s
  else
    let budget := setup.settings.budget 0
    match exec (readStatement setup budget (runDirective setup budget) 0 t i) s with
    | (.ok p, u) => readInto setup p.2.input u
    | (.error f, u) => (.error f, u)

theorem readInto_cons {t : Token} {ts : List Token} (h : i.tokens = t :: ts) :
    readInto setup i s = readBehind setup t (i.after t ts) s := by
  rw [readInto, entries, readEntries.eq_def, exec_bind, exec_lift, Input.next_of_tokens h]
  unfold readBehind
  dsimp only
  split
  · rfl
  split
  · rw [readInto, entries, exec_bind]
    generalize exec (readEntries setup _ _ 0 none [] (i.after t ts)) s = q
    obtain ⟨_ | p, u⟩ := q <;> rfl
  · rw [if_neg (by cases t.symbol <;> simp [Symbol.isDirectiveIn]), exec_bind]
    generalize exec (readStatement setup _ _ 0 t (i.after t ts)) s = q
    obtain ⟨_ | p, u⟩ := q
    · rfl
    · dsimp only
      rw [exec_bind, readInto, entries]
      dsimp only [Input.Less.onward]
      generalize exec (readEntries setup _ _ 0 none [] p.2.input) u = q
      obtain ⟨_ | q, v⟩ := q <;> rfl

/-- A directive is run, and what it brings is placed. -/
theorem readBehind_directive {name : String} (ht : t.symbol = .directive name) :
    readBehind setup t i s = match exec (runDirective setup (setup.settings.budget 0) 0 t i) s with
      | (.error f, u) => (.error (f.within i.name), u)
      | (.ok (es, more), u) => match exec (placeAll es) u with
        | (.error f, v) => (.error (f.within i.name), v)
        | (.ok _, v) => readInto setup more.input v := by
  rw [readBehind, ht, if_neg (by simp), if_neg (by simp)]
  dsimp only
  rw [readStatement.eq_def, exec_adapt, ht]
  dsimp only
  rw [exec_bind]
  rcases exec (runDirective setup (setup.settings.budget 0) 0 t i) s with ⟨_ | ⟨es, more⟩, u⟩
  · rfl
  · dsimp only
    rw [exec_bind]
    rcases exec (placeAll es) u with ⟨_ | placed, v⟩ <;> rfl

end Reader

end CaseDict
