import CaseDict.Proofs.Combining
import CaseDict.Proofs.Copying
import CaseDict.Proofs.Failures
import CaseDict.Proofs.Relined
/-! # References that stand for tokens

A reference in a value may be replaced by the tokens it denotes: the statement fails as it did, or
places an entry with the same symbols and goes on at the same place (`Reader.statement_replaced`).
The tokens denoted must be nested and the others plain. The brackets of the other tokens need not be
closed on either side of the reference, as the tokens denoted leave all open brackets as they are;
but a terminator before it must not end the value.

Tokens of another layout stand on other lines, so the two runs are compared up to lines, also where
they fail (`Alike`). -/

namespace CaseDict

open Expansion Statement

/-! ### Failures on other lines -/

/-- The line of another directive is forgotten. -/
def Misuse.unlined : Misuse → Misuse
  | .secondElse _ => .secondElse (-1)
  | m => m

/-- The lines of other tokens and entries are forgotten. -/
def Cause.unlined : Cause → Cause
  | .mismatched opener _ closer => .mismatched opener (-1) closer
  | .misuse directive how => .misuse directive how.unlined
  | .duplicate keyword _ => .duplicate keyword (-1)
  | c => c

/-- The failure without its line and those that its cause names. -/
def Failure.unlined : Failure → Failure
  | .diagnostic d => .diagnostic ⟨d.cause.unlined, -1, d.source⟩
  | f => f

theorem Cause.errorClass_unlined (c : Cause) : c.unlined.errorClass = c.errorClass := by
  cases c <;> rfl

/-- Failures that differ in lines only are of the same kind. -/
theorem Failure.class?_eq {f f' : Failure} (h : f'.unlined = f.unlined) :
    f'.class? = f.class? := by
  have hclass (f : Failure) : f.unlined.class? = f.class? := by
    cases f with
    | diagnostic d => exact congrArg some d.cause.errorClass_unlined
    | _ => rfl
  rw [← hclass, h, hclass]

theorem Failure.unlined_within (name : String) (f : Failure) :
    (f.within name).unlined = f.unlined.within name := by
  cases f <;> rfl

/-- Both results are failures that differ in lines only, or both are none and related. -/
inductive Alike {α β : Type} (post : α → β → Prop) : Except Failure α → Except Failure β → Prop
  | ok {a : α} {b : β} (h : post a b) : Alike post (.ok a) (.ok b)
  | error {f f' : Failure} (h : f'.unlined = f.unlined) : Alike post (.error f) (.error f')

theorem Alike.within {α β : Type} {post : α → β → Prop} {r : Except Failure α}
    {r' : Except Failure β} (h : Alike post r r') (name : String) :
    Alike post (r.mapError (Failure.within name)) (r'.mapError (Failure.within name)) := by
  cases h with
  | ok h => exact .ok h
  | error h => exact .error (by rw [Failure.unlined_within, Failure.unlined_within, h])

/-- The inputs have the same symbols and end alike. -/
structure Input.Relined (i i' : Input) : Prop where
  name : i'.name = i.name
  symbols : i'.tokens.map Token.symbol = i.tokens.map Token.symbol
  fault : i'.fault.map Failure.unlined = i.fault.map Failure.unlined

/-! ### Values without references -/

/-- Terminators stand only where a bracket is open, until a bracket does not close as it must. -/
def Enclosed (source : String) (opened : List Opening) : List Token → Prop
  | [] => True
  | t :: ts => (t.symbol = .terminator → opened ≠ []) ∧
      ∀ outer, track opened t source = .ok outer → Enclosed source outer ts

/-- The same brackets are open. -/
abbrev SameBrackets (opened opened' : List Opening) : Prop :=
  opened'.map Opening.bracket = opened.map Opening.bracket

theorem track_alike {t t' : Token} (ht : t'.symbol = t.symbol) {opened opened' : List Opening}
    (ho : SameBrackets opened opened') (name : String) :
    Alike SameBrackets (track opened t name) (track opened' t' name) := by
  unfold track
  rw [ht]
  split
  · exact .ok (by rw [SameBrackets, List.map_cons, List.map_cons, ho])
  · unfold close
    rcases opened with _ | ⟨o, outer⟩ <;> rcases opened' with _ | ⟨o', outer'⟩
    · exact .error rfl
    · contradiction
    · contradiction
    · obtain ⟨hb, houter⟩ := List.cons.inj ho
      dsimp only
      rw [hb]
      split
      · exact .ok houter
      · exact .error rfl
  · exact .ok ho

section Values

variable {reference : Token → String → ExpandM (List Token)}
  {inline : Token → (i : Input) → ExpandM (Taken (List Token) i)}
  {name : String} {fault fault' : Option Failure} {line line' : Int} {log : List Event}

/-- What reading a value comes to: the tokens of the value, the line it ends on and what is left. -/
abbrev ValueOutcome := Except Failure ((List Token × Int) × Input) × List Event

/-- Two values are read alike and nothing is reported. -/
structure SameValue (log : List Event) (r r' : ValueOutcome) : Prop where
  result : Alike (fun p q => q.1.1.map Token.symbol = p.1.1.map Token.symbol ∧
    p.2.Relined q.2) r.1 r'.1
  log : r.2 = log ∧ r'.2 = log

theorem SameValue.prepend {r r' : ValueOutcome} (h : SameValue log r r') {ts ts' : List Token}
    (hts : ts'.map Token.symbol = ts.map Token.symbol) :
    SameValue log (prepend ts r) (prepend ts' r') := by
  obtain ⟨r, l⟩ := r
  obtain ⟨r', l'⟩ := r'
  obtain ⟨hresult, rfl, rfl⟩ := h
  cases hresult with
  | error h => exact ⟨.error h, rfl, rfl⟩
  | ok h =>
    refine ⟨.ok ⟨?_, h.2⟩, rfl, rfl⟩
    rw [List.map_append, List.map_append, hts, h.1]

theorem readValue_fault {f : Failure} {opened : List Opening} :
    outcome (readValue reference inline opened ⟨name, [], some f, line⟩) log =
      (.error f, log) := by
  rw [readValue.eq_def]
  rfl

/-- At the end of the inputs. -/
theorem readValue_ended {opened opened' : List Opening} (ho : SameBrackets opened opened')
    (hf : fault'.map Failure.unlined = fault.map Failure.unlined) :
    SameValue log (outcome (readValue reference inline opened ⟨name, [], fault, line⟩) log)
      (outcome (readValue reference inline opened' ⟨name, [], fault', line'⟩) log) := by
  rcases fault with _ | f <;> rcases fault' with _ | f'
  · rcases opened with _ | ⟨o, outer⟩ <;> rcases opened' with _ | ⟨o', outer'⟩
    · rw [readValue_nil, readValue_nil]
      exact ⟨.ok ⟨rfl, rfl, rfl, rfl⟩, rfl, rfl⟩
    · contradiction
    · contradiction
    · rw [readValue_unclosed, readValue_unclosed, (List.cons.inj ho).1]
      exact ⟨.error rfl, rfl, rfl⟩
  · contradiction
  · contradiction
  · rw [readValue_fault, readValue_fault]
    exact ⟨.error (Option.some.inj hf), rfl, rfl⟩

/-- **Plain tokens before what is read alike.** They are passed over with the same brackets open
behind them; a terminator among them ends both values, but this must not happen if what is behind
the tokens differs. -/
theorem readValue_plain {us us' rest rest' : List Token} {opened opened' : List Opening}
    (hplain : ∀ t ∈ us, t.symbol.isMacro = false)
    (hus : us'.map Token.symbol = us.map Token.symbol) (ho : SameBrackets opened opened')
    (hend : Enclosed name opened us ∨
      ∀ line line', Input.Relined ⟨name, rest, fault, line⟩ ⟨name, rest', fault', line'⟩)
    (hrest : ∀ opened opened' line line', SameBrackets opened opened' → SameValue log
      (outcome (readValue reference inline opened ⟨name, rest, fault, line⟩) log)
      (outcome (readValue reference inline opened' ⟨name, rest', fault', line'⟩) log)) :
    SameValue log
      (outcome (readValue reference inline opened ⟨name, us ++ rest, fault, line⟩) log)
      (outcome (readValue reference inline opened' ⟨name, us' ++ rest', fault', line'⟩) log) := by
  induction us generalizing us' opened opened' line line' with
  | nil =>
    obtain rfl := List.map_eq_nil_iff.mp hus
    exact hrest _ _ _ _ ho
  | cons t us ih =>
    obtain ⟨t', us', rfl, ht, hus'⟩ := List.map_eq_cons_iff.mp hus
    obtain ⟨htplain, husplain⟩ := List.forall_mem_cons.mp hplain
    by_cases hends : t.symbol = .terminator ∧ opened = []
    · obtain ⟨hterminator, rfl⟩ := hends
      obtain rfl := List.map_eq_nil_iff.mp ho
      have hrelined := hend.resolve_left fun h => h.1 hterminator rfl
      obtain ⟨y, l⟩ := t
      obtain ⟨y', l'⟩ := t'
      obtain rfl : y = .terminator := hterminator
      obtain rfl : y' = .terminator := ht
      rw [List.cons_append, List.cons_append, readValue_terminator, readValue_terminator]
      obtain ⟨-, hsymbols, hfault⟩ := hrelined 0 0
      refine ⟨.ok ⟨rfl, rfl, ?_, hfault⟩, rfl, rfl⟩
      rw [List.map_append, List.map_append, hus', hsymbols]
    · have hterminator : t.symbol = .terminator → opened ≠ [] := fun h ho => hends ⟨h, ho⟩
      have hterminator' : t'.symbol = .terminator → opened' ≠ [] := fun h ho' =>
        hterminator (ht ▸ h) (List.map_eq_nil_iff.mp (ho ▸ List.map_eq_nil_iff.mpr ho'))
      rw [List.cons_append, List.cons_append, readValue_cons htplain hterminator,
        readValue_cons (ht ▸ htplain) hterminator']
      have htrack := track_alike ht ho name
      rcases h : track opened t name with f | outer <;>
        rcases h' : track opened' t' name with f' | outer' <;> rw [h, h'] at htrack
      · cases htrack with
        | error hf => exact ⟨.error hf, rfl, rfl⟩
      · cases htrack
      · cases htrack
      · cases htrack with
        | ok houter =>
          refine (ih husplain hus' houter (hend.imp_left fun hu => hu.2 outer h)).prepend ?_
          rw [List.map_singleton, List.map_singleton, ht]

/-- Plain tokens up to the end of the inputs. -/
theorem readValue_last {us us' : List Token} {opened opened' : List Opening}
    (hplain : ∀ t ∈ us, t.symbol.isMacro = false)
    (hus : us'.map Token.symbol = us.map Token.symbol) (ho : SameBrackets opened opened')
    (hf : fault'.map Failure.unlined = fault.map Failure.unlined) : SameValue log
      (outcome (readValue reference inline opened ⟨name, us, fault, line⟩) log)
      (outcome (readValue reference inline opened' ⟨name, us', fault', line'⟩) log) := by
  rw [← List.append_nil us, ← List.append_nil us']
  exact readValue_plain hplain hus ho (.inr fun _ _ => ⟨rfl, rfl, hf⟩)
    fun _ _ _ _ ho => readValue_ended ho hf

end Values

/-! ### References in values -/

section

variable {context : Context} {n : Nat} {name a : String} {fault fault' : Option Failure}
  {line line' l : Int} {log : List Event} {h : Heading} {ts ts' rest rest' : List Token}
  {opened opened' : List Opening}

/-- A reference to plain tokens stands for them, whatever brackets are open. -/
theorem readValue_reference (hfind : context.surroundings.find? a = some (.primitive h ts))
    (hts : ∀ t ∈ ts, t.symbol.isMacro = false) :
    outcome (readValue (reference context (n + 1)) (inline context (n + 1)) opened
        ⟨name, ⟨.reference a, l⟩ :: rest, fault, line⟩) log =
      prepend ts (outcome (readValue (reference context (n + 1)) (inline context (n + 1)) opened
        ⟨name, rest, fault, lineAfter line [⟨.reference a, l⟩]⟩) log) := by
  have hreference (source : String) :
      reference context (n + 1) ⟨.reference a, l⟩ source = pure ts := by
    have htokens : context.surroundings.tokens a l = .ok ts := by
      rw [Surroundings.tokens, hfind]
    have hany : ts.any (·.symbol.isMacro) = false := by simpa using hts
    unfold reference
    change liftM (context.surroundings.tokens a l) >>= _ = _
    rw [htokens]
    change (if ts.any (·.symbol.isMacro) = true then _ else _) = _
    rw [hany]
    rfl
  refine readValue_expanded (fun i => ?_) (by simp)
  unfold expandToken
  simp only [hreference, pure_bind]

/-- A reference behind plain tokens, and the tokens it denotes in its place. -/
theorem readValue_replaced {us us' ws ws' : List Token}
    (hfind : context.surroundings.find? a = some (.primitive h ts)) (hts : Grammar.Nested false ts)
    (hplain : ∀ t ∈ us ++ ws, t.symbol.isMacro = false) (henclosed : Enclosed name [] us)
    (hus : us'.map Token.symbol = us.map Token.symbol)
    (hts' : ts'.map Token.symbol = ts.map Token.symbol)
    (hws : ws'.map Token.symbol = ws.map Token.symbol)
    (hf : fault'.map Failure.unlined = fault.map Failure.unlined) : SameValue log
      (outcome (readValue (reference context (n + 1)) (inline context (n + 1)) []
        ⟨name, us ++ ⟨.reference a, l⟩ :: ws, fault, line⟩) log)
      (outcome (readValue (reference context (n + 1)) (inline context (n + 1)) []
        ⟨name, us' ++ (ts' ++ ws'), fault', line'⟩) log) := by
  obtain ⟨husplain, hwsplain⟩ := List.forall_mem_append.mp hplain
  refine readValue_plain husplain hus rfl (.inl henclosed) fun opened opened' _ _ ho => ?_
  rw [readValue_reference hfind hts.isMacro, (hts.congr hts').readValue (by simp)]
  exact (readValue_last hwsplain hws ho hf).prepend hts'

end

/-! ### The entries that are read -/

theorem checked_alike {h h' : Heading} (hh : h'.unlined = h.unlined) :
    Alike (fun k k' => k = h ∧ k' = h') h.checked h'.checked := by
  obtain ⟨k, p, l, l'⟩ := h
  obtain ⟨k', p', m, m'⟩ := h'
  obtain ⟨rfl, rfl, -⟩ := Heading.mk.inj hh
  unfold Heading.checked Heading.failure?
  cases p'
  · exact .ok ⟨rfl, rfl⟩
  · dsimp only
    rcases Pattern.fault? k' with _ | _ | _
    · exact .ok ⟨rfl, rfl⟩
    all_goals exact .error rfl

/-- A primitive entry with the heading and the symbols of `vs` was read on either side, up to lines,
and the inputs left are the same up to lines. -/
def SameEntry (h : Heading) (p q : Entry × Input) : Prop :=
  ∃ k k' vs vs', p.1 = .primitive k vs ∧ q.1 = .primitive k' vs' ∧ k.unlined = h.unlined ∧
    k'.unlined = h.unlined ∧ vs'.map Token.symbol = vs.map Token.symbol ∧ p.2.Relined q.2

section

variable {setup : Setup} {n budget : Nat} {run : DirectiveRunner} {s : ReadState} {h h' : Heading}
  {i i' : Input}

theorem readPrimitive_alike (hh : h'.unlined = h.unlined) (hv : SameValue s.log
      (outcome (readValue (reference ⟨setup, s.scope.frames⟩ budget)
        (inline ⟨setup, s.scope.frames⟩ budget) [] i) s.log)
      (outcome (readValue (reference ⟨setup, s.scope.frames⟩ budget)
        (inline ⟨setup, s.scope.frames⟩ budget) [] i') s.log)) :
    ∃ r r', outcome (readEntry.readPrimitive setup budget h i) s = (r, s) ∧
      outcome (readEntry.readPrimitive setup budget h' i') s = (r', s) ∧
      Alike (SameEntry h) r r' := by
  rw [readPrimitive_eq, readPrimitive_eq]
  revert hv
  generalize outcome (readValue _ _ [] i) s.log = r
  generalize outcome (readValue _ _ [] i') s.log = r'
  rintro ⟨hresult, hlog, hlog'⟩
  obtain ⟨r, log⟩ := r
  obtain ⟨r', log'⟩ := r'
  obtain rfl : log = s.log := hlog
  obtain rfl : log' = s.log := hlog'
  cases hresult with
  | error hf => exact ⟨_, _, rfl, rfl, .error hf⟩
  | @ok p q hpq =>
    obtain ⟨⟨vs, endLine⟩, j⟩ := p
    obtain ⟨⟨vs', endLine'⟩, j'⟩ := q
    have hends : Heading.unlined { h' with endLine := endLine' } =
        Heading.unlined { h with endLine } := hh
    have hchecked := checked_alike hends
    dsimp only
    refine ⟨_, _, rfl, rfl, ?_⟩
    revert hchecked
    generalize Heading.checked { h with endLine } = c
    generalize Heading.checked { h' with endLine := endLine' } = c'
    rintro (⟨rfl, rfl⟩ | hf)
    · exact .ok ⟨_, _, vs, vs', rfl, rfl, rfl, hh, hpq.1, hpq.2⟩
    · exact .error hf

/-- A value that begins with neither a brace nor a directive nor a reference to a dictionary. -/
theorem readEntry_plain {name : String} {fault : Option Failure} {line : Int} {ts : List Token}
    (hne : ts ≠ []) (hplain : ∀ t ∈ ts.head?, t.symbol.isMacro = false)
    (hbrace : ∀ t ∈ ts.head?, t.symbol ≠ .opener .brace) :
    readEntry setup budget run n h ⟨name, ts, fault, line⟩ =
      readEntry.readPrimitive setup budget h ⟨name, ts, fault, line⟩ := by
  obtain ⟨t, ts, rfl⟩ := List.exists_cons_of_ne_nil hne
  exact readEntry_value (hbrace t rfl) (hplain t rfl)

/-- A value that begins with a reference to a primitive entry. -/
theorem readEntry_reference {name a : String} {fault : Option Failure} {line l : Int}
    {ts rest : List Token} {target : Heading}
    (hfind : (s.surroundings setup).find? a = some (.primitive target ts)) :
    outcome (readEntry setup budget run n h ⟨name, ⟨.reference a, l⟩ :: rest, fault, line⟩) s =
      outcome (readEntry.readPrimitive setup budget h
        ⟨name, ⟨.reference a, l⟩ :: rest, fault, line⟩) s := by
  have hsurroundings : exec (surroundings setup) s = (.ok (s.surroundings setup), s) := rfl
  rw [readEntry.eq_def]
  unfold outcome
  simp only [exec_bind, exec_lift, Input.next, hsurroundings, hfind]

/-- The tokens denoted stand in place of the reference, wherever it is in the value. -/
theorem readEntry_replaced {name a : String} {fault fault' : Option Failure} {line line' l : Int}
    {us us' ts ts' vs vs' : List Token} {target : Heading}
    (hfind : (s.surroundings setup).find? a = some (.primitive target ts))
    (hts : Grammar.Nested false ts) (hplain : ∀ t ∈ us ++ vs, t.symbol.isMacro = false)
    (henclosed : Enclosed name [] us) (hvs : vs ≠ [])
    (hbrace : ∀ t ∈ (us ++ (ts ++ vs)).head?, t.symbol ≠ .opener .brace)
    (hus' : us'.map Token.symbol = us.map Token.symbol)
    (hts' : ts'.map Token.symbol = ts.map Token.symbol)
    (hvs' : vs'.map Token.symbol = vs.map Token.symbol)
    (hf : fault'.map Failure.unlined = fault.map Failure.unlined) (hh : h'.unlined = h.unlined) :
    ∃ r r', outcome (readEntry setup (budget + 1) run n h
        ⟨name, us ++ ⟨.reference a, l⟩ :: vs, fault, line⟩) s = (r, s) ∧
      outcome (readEntry setup (budget + 1) run n h'
        ⟨name, us' ++ (ts' ++ vs'), fault', line'⟩) s = (r', s) ∧ Alike (SameEntry h) r r' := by
  have hleft : outcome (readEntry setup (budget + 1) run n h
        ⟨name, us ++ ⟨.reference a, l⟩ :: vs, fault, line⟩) s =
      outcome (readEntry.readPrimitive setup (budget + 1) h
        ⟨name, us ++ ⟨.reference a, l⟩ :: vs, fault, line⟩) s := by
    cases us with
    | nil => exact readEntry_reference hfind
    | cons u us =>
      have hu := (List.forall_mem_cons.mp (List.forall_mem_append.mp hplain).1).1
      rw [List.cons_append, readEntry_value (hbrace u rfl) hu]
  have hsymbols : (us' ++ (ts' ++ vs')).map Token.symbol =
      (us ++ (ts ++ vs)).map Token.symbol := by
    simp only [List.map_append, hus', hts', hvs']
  have hhead : ∀ t ∈ (us' ++ (ts' ++ vs')).head?,
      ∃ t' ∈ (us ++ (ts ++ vs)).head?, t'.symbol = t.symbol := by
    intro t ht
    have ht' := congrArg List.head? hsymbols
    rw [List.head?_map, List.head?_map, ht] at ht'
    exact Option.map_eq_some_iff.mp ht'.symm
  have hplain' : ∀ t ∈ us ++ (ts ++ vs), t.symbol.isMacro = false := by
    obtain ⟨husplain, hvsplain⟩ := List.forall_mem_append.mp hplain
    exact List.forall_mem_append.mpr
      ⟨husplain, List.forall_mem_append.mpr ⟨hts.isMacro, hvsplain⟩⟩
  have hne : us' ++ (ts' ++ vs') ≠ [] := by
    intro hnil
    rw [hnil] at hsymbols
    simp_all
  rw [hleft, readEntry_plain hne]
  · exact readPrimitive_alike hh
      (readValue_replaced hfind hts hplain henclosed hus' hts' hvs' hf)
  · intro t ht
    obtain ⟨t', ht', hsymbol⟩ := hhead t ht
    rw [← hsymbol]
    exact hplain' t' (List.mem_of_mem_head? ht')
  · intro t ht
    obtain ⟨t', ht', hsymbol⟩ := hhead t ht
    rw [← hsymbol]
    exact hbrace t' ht'

end

/-! ### Placing them -/

section

open Entry

variable {h h' : Heading} {vs vs' : List Token}

theorem InputMode.placement_ne_merge {mode : InputMode} : mode.placement false ≠ .merge := by
  cases mode <;> simp [placement]

theorem sameUnlined_primitive (hh : h'.unlined = h.unlined)
    (hvs : vs'.map Token.symbol = vs.map Token.symbol) :
    SameUnlined (.primitive h vs) (.primitive h' vs') := by
  rw [SameUnlined, unlined, unlined, hh, Grammar.map_unlined hvs]

theorem duplicate_alike (hkeyword : h'.keyword = h.keyword) {line line' : Int} :
    (h'.duplicate line').unlined = (h.duplicate line).unlined := by
  simp only [Heading.duplicate, Failure.unplaced, Failure.unlined, Cause.unlined, hkeyword]

/-- Where a primitive entry goes depends on its keyword only. -/
theorem place_alike (mode : InputMode) (hh : h'.unlined = h.unlined)
    (hvs : vs'.map Token.symbol = vs.map Token.symbol) (es : List Entry) :
    Alike (fun p q => AllSameUnlined p.placed q.placed) (Entry.place mode es (.primitive h vs))
      (Entry.place mode es (.primitive h' vs')) := by
  have hone : AllSameUnlined [.primitive h vs] [.primitive h' vs'] :=
    congrArg (fun e => [e]) (sameUnlined_primitive hh hvs)
  have hkeyword : h'.keyword = h.keyword := (Heading.mk.inj hh).1
  unfold Entry.place
  simp only [keyword, Entry.head, hkeyword, Entry.isDictionary, Bool.and_false]
  cases newest? h.keyword es with
  | none => exact .ok hone
  | some old =>
    dsimp only
    cases hp : mode.placement false with
    | append => exact .ok hone
    | merge => exact absurd hp InputMode.placement_ne_merge
    | replace => exact .ok hone
    | ignore warns => exact .ok rfl
    | refuse => exact .error (duplicate_alike hkeyword)

namespace Workspace

variable {ws : Workspace} {d r : Ref}

/-- Primitive entries have no members to change. -/
theorem node_mapInside_primitive (hr : ws.node r = .primitive h vs)
    (f : Membership → Membership) : (ws.update d (·.mapInside f)).node r = .primitive h vs := by
  rw [node_mapInside]
  split
  · next hd => rw [← hd, hr]; rfl
  · exact hr

theorem tree_primitive (hr : ws.node r = .primitive h vs) : ws.tree r = .primitive h vs := by
  rw [tree, treeWithin, hr]

theorem tree_insert_primitive (hr : ws.node r = .primitive h vs) :
    (ws.insert d r).tree r = .primitive h vs :=
  tree_primitive (node_mapInside_primitive (node_mapInside_primitive hr _) _)

/-- What is stored beside a new primitive entry does not depend on its lines. -/
theorem newest?_alloc_alike (hkeyword : h'.keyword = h.keyword) (keyword : String) :
    (ws.alloc (.primitive h' vs')).2.newest? d keyword =
      (ws.alloc (.primitive h vs)).2.newest? d keyword := by
  have hhead (x : Ref) : ((ws.alloc (.primitive h' vs')).2.head x).keyword =
      ((ws.alloc (.primitive h vs)).2.head x).keyword := by
    rw [head, head, node_alloc, node_alloc]
    split
    · exact hkeyword
    · rfl
  have hmembers : (ws.alloc (.primitive h' vs')).2.members d =
      (ws.alloc (.primitive h vs)).2.members d := by
    rw [members, members, node_alloc, node_alloc]
    split <;> rfl
  unfold newest?
  simp only [hmembers, hhead]

/-- What is placed is the entry as it is, or nothing. -/
theorem place_alike (mode : InputMode) {ws' : Workspace} {r' : Ref}
    (hr : ws.node r = .primitive h vs) (hr' : ws'.node r' = .primitive h' vs')
    (hh : h'.unlined = h.unlined) (hvs : vs'.map Token.symbol = vs.map Token.symbol)
    (hnewest : ws'.newest? d h.keyword = ws.newest? d h.keyword) :
    Alike (fun p q => AllSameUnlined (p.1.map (exec (place mode d r) ws).2.tree)
        (q.1.map (exec (place mode d r') ws').2.tree))
      (exec (place mode d r) ws).1 (exec (place mode d r') ws').1 := by
  have hkeyword : h'.keyword = h.keyword := (Heading.mk.inj hh).1
  have hone {u u' : Entry} (hu : u = .primitive h vs) (hu' : u' = .primitive h' vs') :
      AllSameUnlined [u] [u'] := by
    rw [hu, hu']
    exact congrArg (fun e => [e]) (sameUnlined_primitive hh hvs)
  have hdictionary : ws.isDictionary r = false := by rw [isDictionary, hr]; rfl
  have hdictionary' : ws'.isDictionary r' = false := by rw [isDictionary, hr']; rfl
  have hhead : ws.head r = h := by rw [head, hr]; rfl
  have hhead' : ws'.head r' = h' := by rw [head, hr']; rfl
  rw [exec_place, exec_place, hhead, hhead', hkeyword, hnewest, hdictionary, hdictionary']
  cases ws.newest? d h.keyword with
  | none => exact .ok (hone (tree_insert_primitive hr) (tree_insert_primitive hr'))
  | some old =>
    dsimp only
    rw [Bool.and_false, Bool.and_false]
    cases hp : mode.placement false with
    | append => exact .ok (hone (tree_insert_primitive hr) (tree_insert_primitive hr'))
    | merge => exact absurd hp InputMode.placement_ne_merge
    | replace =>
      exact .ok (hone (tree_insert_primitive (node_mapInside_primitive hr _))
        (tree_insert_primitive (node_mapInside_primitive hr' _)))
    | ignore warns => exact .ok rfl
    | refuse => exact .error (duplicate_alike hkeyword)

end Workspace

/-- An entry that is stored for the dictionary of a scope and placed there. -/
theorem Scope.place_alike (mode : InputMode) (hh : h'.unlined = h.unlined)
    (hvs : vs'.map Token.symbol = vs.map Token.symbol) (s : Scope) :
    Alike (fun p q => AllSameUnlined p.1 q.1) (s.place mode (.primitive h vs)).1
      (s.place mode (.primitive h' vs')).1 := by
  cases s with
  | fresh es around removed | staged es below =>
    have hplaced := CaseDict.place_alike mode hh hvs es
    simp only [place]
    revert hplaced
    generalize Entry.place mode es (.primitive h vs) = r
    generalize Entry.place mode es (.primitive h' vs') = r'
    rintro (hp | hf)
    · exact .ok hp
    · exact .error hf
  | stored ws d placed removed =>
    have hnode (k : Heading) (us : List Token) :
        (ws.plant none (.primitive k us)).2.node (ws.plant none (.primitive k us)).1 =
          .primitive k us := by
      unfold Workspace.plant
      rw [Workspace.node_alloc]
      exact if_pos rfl
    have hplaced := Workspace.place_alike mode (hnode h vs) (hnode h' vs') hh hvs
      (Workspace.newest?_alloc_alike (d := d) (Heading.mk.inj hh).1 _)
    rw [place_stored, place_stored]
    revert hplaced
    generalize exec (Workspace.place mode d (ws.plant none (.primitive h vs)).1) _ = r
    generalize exec (Workspace.place mode d (ws.plant none (.primitive h' vs')).1) _ = r'
    obtain ⟨r, ws⟩ := r
    obtain ⟨r', ws'⟩ := r'
    rintro (hp | hf)
    · exact .ok hp
    · exact .error hf

theorem exec_place_alike (hh : h'.unlined = h.unlined)
    (hvs : vs'.map Token.symbol = vs.map Token.symbol) (s : ReadState) :
    Alike AllSameUnlined (exec (Statement.place (.primitive h vs)) s).1
      (exec (Statement.place (.primitive h' vs')) s).1 := by
  have hplaced := s.scope.place_alike s.mode hh hvs
  rw [exec_place, exec_place]
  revert hplaced
  generalize s.scope.place s.mode (.primitive h vs) = r
  generalize s.scope.place s.mode (.primitive h' vs') = r'
  obtain ⟨r, scope⟩ := r
  obtain ⟨r', scope'⟩ := r'
  rintro (hes | hf)
  · exact .ok hes
  · exact .error hf

end

/-! ### The two statements -/

namespace Reader

/-- Both statements failed alike, or each placed an entry under the keyword, with the same symbols,
and what is left of the inputs is the same up to lines. -/
inductive StatedAlike (k : String) (isPattern : Bool) (s : ReadState) :
    Except Failure (List Entry × Input) × ReadState →
      Except Failure (List Entry × Input) × ReadState → Prop
  | failed {f f' : Failure} {u u' : ReadState} (hf : f'.unlined = f.unlined)
      (hclass : f'.class? = f.class?) : StatedAlike k isPattern s (.error f, u) (.error f', u')
  | placed {h h' : Heading} {vs vs' : List Token} {es es' : List Entry} {j j' : Input}
      {u u' : ReadState} (hkeyword : h.keyword = k ∧ h'.keyword = k)
      (hpattern : h.isPattern = isPattern ∧ h'.isPattern = isPattern)
      (hvs : vs'.map Token.symbol = vs.map Token.symbol)
      (hplace : exec (place (.primitive h vs)) s = (.ok es, u))
      (hplace' : exec (place (.primitive h' vs')) s = (.ok es', u'))
      (hes : Entry.AllSameUnlined es es') (hj : j.Relined j') :
      StatedAlike k isPattern s (.ok (es, j), u) (.ok (es', j'), u')

/-- Entries that are read alike are placed alike. -/
theorem statedAlike_of_read {setup : Setup} {budget n : Nat} {run : DirectiveRunner}
    {s : ReadState} {i i' : Input} {t t' : Token} {k : String} {p : Bool}
    {r r' : Except Failure (Entry × Input)} (hname : i'.name = i.name)
    (ht : t.symbol = keywordSymbol k p) (ht' : t'.symbol = keywordSymbol k p)
    (hr : outcome (readEntry setup budget run n ⟨k, p, t.line, -1⟩ i) s = (r, s))
    (hr' : outcome (readEntry setup budget run n ⟨k, p, t'.line, -1⟩ i') s = (r', s))
    (h : Alike (SameEntry ⟨k, p, t.line, -1⟩) r r') :
    StatedAlike k p s (outcome (readStatement setup budget run n t i) s)
      (outcome (readStatement setup budget run n t' i') s) := by
  rw [readStatement_keyword ht, readStatement_keyword ht', hr, hr', hname]
  have hwithin {f f' : Failure} (hf : f'.unlined = f.unlined) :
      (f'.within i.name).unlined = (f.within i.name).unlined := by
    rw [Failure.unlined_within, Failure.unlined_within, hf]
  cases h with
  | error hf => exact .failed (hwithin hf) (Failure.class?_eq (hwithin hf))
  | @ok e e' h =>
    obtain ⟨e, j⟩ := e
    obtain ⟨e', j'⟩ := e'
    obtain ⟨h, h', vs, vs', rfl, rfl, hh, hh', hvs, hj⟩ := h
    have hplaced := exec_place_alike (hh'.trans hh.symm) hvs s
    dsimp only
    rcases hp : exec (place (.primitive h vs)) s with ⟨_ | es, u⟩ <;>
      rcases hp' : exec (place (.primitive h' vs')) s with ⟨_ | es', u'⟩ <;>
      rw [hp, hp'] at hplaced <;> cases hplaced
    · next hf => exact .failed (hwithin hf) (Failure.class?_eq (hwithin hf))
    · next hes =>
      obtain ⟨hk, hpattern, -⟩ := Heading.mk.inj hh
      obtain ⟨hk', hpattern', -⟩ := Heading.mk.inj hh'
      exact .placed ⟨hk, hk'⟩ ⟨hpattern, hpattern'⟩ hvs hp hp' hes hj

/-- **A reference in a value stands for the tokens it denotes.** -/
theorem statement_replaced {setup : Setup} {depth : Int} {n : Nat} {s : ReadState} {i i' : Input}
    {k a : String} {p : Bool} {target : Heading} {t x : Token} {us ts ws rest : List Token}
    {l : Int}
    (hdepth : depth < setup.settings.maxExpansion)
    (hfind : (s.surroundings setup).find? a = some (.primitive target ts))
    (hts : Grammar.Nested false ts)
    (hplain : ∀ t ∈ us ++ ws ++ rest, t.symbol.isMacro = false)
    (hbrace : ∀ t ∈ (us ++ ts ++ ws).head?, t.symbol ≠ .opener .brace)
    (henclosed : Enclosed i.name [] us) (ht : t.symbol = keywordSymbol k p)
    (hx : x.symbol = .terminator) (hname : i'.name = i.name)
    (hi : i.tokens = t :: us ++ ⟨.reference a, l⟩ :: ws ++ x :: rest)
    (hi' : i'.tokens.map Token.symbol = (t :: us ++ ts ++ ws ++ x :: rest).map Token.symbol)
    (hfault : i'.fault.map Failure.unlined = i.fault.map Failure.unlined) :
    StatedAlike k p s (outcome (statement setup depth i n) s)
      (outcome (statement setup depth i' n) s) := by
  obtain ⟨budget, hbudget⟩ : ∃ budget, setup.settings.budget depth = budget + 1 :=
    Nat.exists_eq_add_one.mpr (by unfold Settings.budget; omega)
  simp only [List.cons_append, List.append_assoc] at hi hi'
  obtain ⟨name, _, fault, line⟩ := i
  obtain ⟨_, tokens', fault', line'⟩ := i'
  cases hi
  cases hname
  obtain ⟨t', inner, rfl, ht', hinner⟩ := List.map_eq_cons_iff.mp hi'
  rw [List.map_append] at hinner
  obtain ⟨us', behind, rfl, hus', hbehind⟩ := List.map_eq_append_iff.mp hinner
  rw [List.map_append] at hbehind
  obtain ⟨ts', vs', rfl, hts', hvs'⟩ := List.map_eq_append_iff.mp hbehind
  obtain ⟨hplain, hrest⟩ := List.forall_mem_append.mp hplain
  obtain ⟨hus, hws⟩ := List.forall_mem_append.mp hplain
  have hvalue : ∀ t ∈ us ++ (ws ++ x :: rest), t.symbol.isMacro = false := by
    refine List.forall_mem_append.mpr ⟨hus, List.forall_mem_append.mpr ⟨hws, ?_⟩⟩
    exact List.forall_mem_cons.mpr ⟨by rw [hx]; rfl, hrest⟩
  -- If there is nothing in place of the reference and around it, the value begins with its end.
  have hhead : ∀ t ∈ (us ++ (ts ++ (ws ++ x :: rest))).head?, t.symbol ≠ .opener .brace := by
    intro t hhead
    rw [← List.append_assoc ts, ← List.append_assoc us, ← List.append_assoc us,
      List.head?_append] at hhead
    rcases hfirst : (us ++ ts ++ ws).head? with _ | first <;> rw [hfirst] at hhead <;> cases hhead
    · simp [hx]
    · exact hbrace _ hfirst
  have hheading : Heading.unlined ⟨k, p, t'.line, -1⟩ = Heading.unlined ⟨k, p, t.line, -1⟩ := rfl
  obtain ⟨r, r', hr, hr', h⟩ := readEntry_replaced hfind hts hvalue henclosed (by simp) hhead
    hus' hts' hvs' hfault hheading
  rw [outcome_statement_cons rfl, outcome_statement_cons rfl, hbudget]
  exact statedAlike_of_read rfl ht (ht'.trans ht) hr hr' h

/-- `on (;)` -/
def denotedTokens : List Token :=
  [⟨.word "on", 1⟩, ⟨.opener .round, 1⟩, ⟨.terminator, 1⟩, ⟨.closer .round, 2⟩]

/-- A dictionary with an entry that has them. -/
def denotingState : ReadState :=
  ⟨.fresh [.primitive ⟨"a", false, 1, 2⟩ denotedTokens] [], .retain, []⟩

/-- `k [$a];` -/
def referringStatement : Input :=
  .ofTokens "t" [⟨.word "k", 3⟩, ⟨.opener .square, 3⟩, ⟨.reference "a", 3⟩, ⟨.closer .square, 3⟩,
    ⟨.terminator, 3⟩]

/-- `k [on (;)];` -/
def writtenStatement : Input :=
  .ofTokens "t" [⟨.word "k", 3⟩, ⟨.opener .square, 3⟩, ⟨.word "on", 3⟩, ⟨.opener .round, 3⟩,
    ⟨.terminator, 3⟩, ⟨.closer .round, 4⟩, ⟨.closer .square, 4⟩, ⟨.terminator, 4⟩]

/-- A bracket that is opened before the reference is closed behind it, and the entry is placed. -/
theorem statement_replaced_in_brackets :
    (outcome (statement bareSetup 0 referringStatement) denotingState).1.toBool = true ∧
      StatedAlike "k" false denotingState
        (outcome (statement bareSetup 0 referringStatement) denotingState)
        (outcome (statement bareSetup 0 writtenStatement) denotingState) := by
  refine ⟨by cbv, ?_⟩
  have hi : referringStatement.tokens = ⟨.word "k", 3⟩ :: [⟨.opener .square, 3⟩] ++
      ⟨.reference "a", 3⟩ :: [⟨.closer .square, 3⟩] ++ ⟨.terminator, 3⟩ :: [] := rfl
  have hts : Grammar.Nested false (⟨.word "on", 1⟩ :: (⟨.opener .round, 1⟩ :: [⟨.terminator, 1⟩] ++
      ⟨.closer .round, 2⟩ :: [])) := .atom rfl (.group (.atom rfl .nil) .nil)
  have hfind : (denotingState.surroundings bareSetup).find? "a" =
      some (.primitive ⟨"a", false, 1, 2⟩ denotedTokens) := rfl
  have henclosed : Enclosed referringStatement.name [] [⟨.opener .square, 3⟩] :=
    ⟨by simp, fun _ _ => trivial⟩
  exact statement_replaced (by decide) hfind hts (by decide) (by decide) henclosed rfl rfl rfl hi
    rfl rfl

end Reader

end CaseDict
