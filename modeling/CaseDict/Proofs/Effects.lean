import CaseDict.Proofs.Arena
import CaseDict.Proofs.Hereditary
import CaseDict.Proofs.Steps
import CaseDict.Scope
/-! # What reading changes

Reading a statement changes the scope it is read in by removals only, until what it brings is placed
(`Quiet`). Reading the statements of a dictionary or a block fills that dictionary or block, and
changes what lies below by removals only (`Filling`). Both hold whatever happens on the way, errors
included, and what a statement brings can be copied. -/

/-! ## Removals in a scope

`Scope.Prunes` says that a scope is what removals leave of another. -/

namespace CaseDict

namespace Removal

theorem applyAll_append (rs rs' : List Removal) (es : List Entry) :
    applyAll (rs ++ rs') es = applyAll rs' (applyAll rs es) := List.foldl_append ..

end Removal

namespace Scope

/-- The scope belongs to a dictionary that stands for itself. -/
def Grounded : Scope → Prop
  | fresh .. => True
  | staged _ below => below.Grounded
  | stored ws d _ _ => ws.isTransparent d = false

/-- The second scope is what removals leave of the first; each dictionary keeps account of those
carried out in it. -/
inductive Prunes : Scope → Scope → Prop
  | fresh {es : List Entry} {around : List (Frame Entry)} {removed : List Removal}
      (rs : List Removal) :
      Prunes (fresh es around removed) (fresh (Removal.applyAll rs es) around (removed ++ rs))
  | stored {ws : Workspace} {d : Ref} {placed : List Ref} {removed : List Removal}
      (rs : List Removal) (hd : ws.isTransparent d = false) :
      Prunes (stored ws d placed removed) (stored (ws.removeAll d rs) d placed (removed ++ rs))
  | staged {es : List Entry} {below below' : Scope} (rs : List Removal) (h : Prunes below below') :
      Prunes (staged es below) (staged (Removal.applyAll rs es) below')

theorem Prunes.refl {s : Scope} (hs : s.Grounded) : Prunes s s := by
  induction s with
  | fresh es around removed =>
    have h := @Prunes.fresh es around removed []
    rwa [List.append_nil] at h
  | stored ws d placed removed =>
    have h := @Prunes.stored ws d placed removed [] hs
    rwa [List.append_nil] at h
  | staged es below ih => exact .staged [] (ih hs)

theorem Prunes.trans {s s' s'' : Scope} (h : Prunes s s') (h' : Prunes s' s'') :
    Prunes s s'' := by
  induction h generalizing s'' with
  | fresh rs =>
    cases h' with
    | fresh rs' =>
      rw [← Removal.applyAll_append, List.append_assoc]
      exact .fresh _
  | stored rs hd =>
    cases h' with
    | stored rs' hd' =>
      rw [← Workspace.removeAll_append, List.append_assoc]
      exact .stored _ hd
  | staged rs h ih =>
    cases h' with
    | staged rs' h' =>
      rw [← Removal.applyAll_append]
      exact .staged _ (ih h')

theorem Prunes.grounded {s s' : Scope} (h : Prunes s s') : s'.Grounded := by
  induction h with
  | fresh rs => trivial
  | stored rs hd => exact (Workspace.isTransparent_removeAll ..).trans hd
  | staged rs h ih => exact ih

theorem Prunes.remove {s : Scope} (hs : s.Grounded) (rs : List Removal) :
    s.Prunes (s.remove rs) := by
  cases s with
  | fresh => exact .fresh rs
  | staged => exact .staged rs (.refl hs)
  | stored => exact .stored rs hs

theorem Prunes.removeThrough {s : Scope} (hs : s.Grounded) (rs : List Removal) :
    s.Prunes (s.removeThrough rs) := by
  induction s with
  | fresh => exact .fresh rs
  | staged es below ih => exact .staged rs (ih hs)
  | stored ws d placed removed =>
    have ht : ws.through d = [d] := ws.through_eq hs
    simp only [Scope.removeThrough, ht]
    exact .stored rs hs

end Scope

end CaseDict

namespace CaseDict

open Expansion Statement Entry

variable {α β : Type}

/-! ### Quiet computations -/

/-- The computation changes the scope by removals at most, and what it gives satisfies `post`. -/
def Quiet (m : ReadM α) (post : α → Prop) : Prop :=
  ∀ s : ReadState, s.scope.Grounded → s.scope.Prunes (exec m s).2.scope ∧
    ∀ a, (exec m s).1 = .ok a → post a

namespace Quiet

theorem of_unchanged {m : ReadM α} {post : α → Prop} (hm : ∀ s, (exec m s).2.scope = s.scope)
    (hp : ∀ s a, (exec m s).1 = .ok a → post a) : Quiet m post :=
  fun s hs => ⟨by rw [hm s]; exact .refl hs, hp s⟩

theorem pure {post : α → Prop} {a : α} (h : post a) : Quiet (Pure.pure a) post :=
  of_unchanged (fun _ => rfl) fun _ _ ha => by
    obtain rfl := Except.ok.inj ha
    exact h

theorem throw {post : α → Prop} (f : Failure) : Quiet (throw f) post :=
  of_unchanged (fun _ => rfl) fun _ _ ha => by contradiction

theorem throw_bind {k : α → ReadM β} {post : β → Prop} (f : Failure) :
    Quiet (MonadExcept.throw f >>= k) post :=
  of_unchanged (fun _ => rfl) fun _ _ ha => by contradiction

theorem lift {post : α → Prop} {r : Except Failure α} (h : ∀ a, r = .ok a → post a) :
    Quiet (liftM r) post :=
  of_unchanged (fun s => by rw [exec_lift]) fun s a ha => h a (by rwa [exec_lift] at ha)

theorem get {post : ReadState → Prop} (h : ∀ s, post s) : Quiet MonadState.get post :=
  of_unchanged (fun _ => rfl) fun _ a _ => h a

theorem expanding {setup : Setup} {act : Context → ExpandM α} :
    Quiet (Statement.expanding setup act) fun _ => True :=
  of_unchanged (fun _ => rfl) fun _ _ _ => trivial

theorem bind {m : ReadM α} {k : α → ReadM β} {mid : α → Prop} {post : β → Prop}
    (hm : Quiet m mid) (hk : ∀ a, mid a → Quiet (k a) post) : Quiet (m >>= k) post := by
  intro s hs
  obtain ⟨hp, hmid⟩ := hm s hs
  rw [exec_bind]
  rcases h : exec m s with ⟨_ | a, s'⟩
  · rw [h] at hp
    exact ⟨hp, fun _ h => by contradiction⟩
  · rw [h] at hp hmid
    obtain ⟨hp', hpost⟩ := hk a (hmid a rfl) s' hp.grounded
    exact ⟨hp.trans hp', hpost⟩

theorem andThen {m : ReadM α} {k : α → ReadM β} {post : β → Prop} (hm : Quiet m fun _ => True)
    (hk : ∀ a, Quiet (k a) post) : Quiet (m >>= k) post := bind hm fun a _ => hk a

theorem lift_any {r : Except Failure α} : Quiet (liftM r) fun _ => True := lift fun _ _ => trivial

theorem mono {m : ReadM α} {post post' : α → Prop} (hm : Quiet m post) (h : ∀ a, post a → post' a) :
    Quiet m post' := fun s hs => ⟨(hm s hs).1, fun a ha => h a ((hm s hs).2 a ha)⟩

end Quiet

/-! ### Filling -/

namespace Scope

/-- The entries of the innermost dictionary or block are changed at will, those below by removals;
patterns stay regular expressions. -/
inductive Fills : Scope → Scope → Prop
  | fresh {es es' : List Entry} {around : List (Frame Entry)} {removed removed' : List Removal}
      (h : AllChecked es → AllChecked es') :
      Fills (fresh es around removed) (fresh es' around removed')
  | staged {es es' : List Entry} {below below' : Scope} (h : AllChecked es → AllChecked es')
      (hb : Prunes below below') : Fills (staged es below) (staged es' below')

/-- The scope is no stored dictionary itself. -/
def IsMade : Scope → Prop
  | fresh .. => True
  | staged _ below => below.Grounded
  | stored .. => False

theorem Prunes.fills {s s' : Scope} (h : Prunes s s') (hs : s.IsMade) : Fills s s' := by
  cases h with
  | fresh rs => exact .fresh fun h => forall_mem_applyAll h rs
  | stored => contradiction
  | staged rs h => exact .staged (fun h => forall_mem_applyAll h rs) h

theorem IsMade.grounded {s : Scope} (h : s.IsMade) : s.Grounded := by
  cases s with
  | stored => contradiction
  | _ => exact h

theorem Fills.isMade {s s' : Scope} (h : Fills s s') : s'.IsMade := by
  cases h with
  | fresh => trivial
  | staged _ hb => exact hb.grounded

theorem Fills.refl {s : Scope} (hs : s.IsMade) : Fills s s := (Prunes.refl hs.grounded).fills hs

theorem Fills.trans {s s' s'' : Scope} (h : Fills s s') (h' : Fills s' s'') : Fills s s'' := by
  cases h with
  | fresh h =>
    cases h' with
    | fresh h' => exact .fresh fun he => h' (h he)
  | staged h hb =>
    cases h' with
    | staged h' hb' => exact .staged (fun he => h' (h he)) (hb.trans hb')

end Scope

/-- The computation changes the dictionary or block it is in, and those below by removals only. -/
def Filling (m : ReadM α) : Prop :=
  ∀ s : ReadState, s.scope.IsMade → s.scope.Fills (exec m s).2.scope

namespace Filling

theorem bind {m : ReadM α} {k : α → ReadM β} (hm : Filling m) (hk : ∀ a, Filling (k a)) :
    Filling (m >>= k) := by
  intro s hs
  have h := hm s hs
  rw [exec_bind]
  rcases he : exec m s with ⟨_ | a, s'⟩
  · rwa [he] at h
  · rw [he] at h
    exact h.trans (hk a s' h.isMade)

theorem of_bind_quiet {m : ReadM α} {k : α → ReadM β} {mid : α → Prop} (hm : Quiet m mid)
    (hk : ∀ a, mid a → Filling (k a)) : Filling (m >>= k) := by
  intro s hs
  obtain ⟨hp, hmid⟩ := hm s hs.grounded
  have h := hp.fills hs
  rw [exec_bind]
  rcases he : exec m s with ⟨_ | a, s'⟩
  · rwa [he] at h
  · rw [he] at h hmid
    exact h.trans (hk a (hmid a rfl) s' h.isMade)

theorem of_andThen {m : ReadM α} {k : α → ReadM β} (hm : Quiet m fun _ => True)
    (hk : ∀ a, Filling (k a)) : Filling (m >>= k) := of_bind_quiet hm fun a _ => hk a

theorem pure (a : α) : Filling (Pure.pure a) := fun _ hs => .refl hs

theorem throw (f : Failure) : Filling (throw f : ReadM α) := fun _ hs => .refl hs

theorem adapt {m : ReadM α} (h : Filling m) (g : Failure → Failure) :
    Filling (ExceptT.adapt g m) := fun s hs => by rw [exec_adapt]; exact h s hs

end Filling

theorem exec_place (e : Entry) (s : ReadState) : exec (Statement.place e) s =
    match s.scope.place s.mode e with
    | (.ok (placed, events), scope) => (.ok placed, { s with scope, log := s.log ++ events })
    | (.error f, scope) => (.error f, { s with scope }) := by
  simp only [exec, Statement.place, ExceptT.run, ExceptT.mk, StateT.run]
  rcases s.scope.place s.mode e with ⟨_ | ⟨_, _⟩, _⟩ <;> rfl

theorem Filling.place {e : Entry} (he : e.Checked) : Filling (Statement.place e) := by
  intro s hs
  rw [exec_place]
  rcases s with ⟨scope, mode, log⟩
  cases scope with
  | stored => contradiction
  | fresh es around removed =>
    simp only [Scope.place]
    cases hp : e.place mode es with
    | error f => exact .fresh id
    | ok p => exact .fresh fun h => checked_hereditary.place h he hp
  | staged es below =>
    simp only [Scope.place]
    cases hp : e.place mode es with
    | error f => exact .staged id (.refl hs)
    | ok p => exact .staged (fun h => checked_hereditary.place h he hp) (.refl hs)

theorem Filling.placeEach {es : List Entry} (he : AllChecked es) : Filling (placeEach es) := by
  induction es with
  | nil => exact .pure _
  | cons e es ih =>
    unfold Statement.placeEach
    exact .bind (.place (he e (by simp))) fun _ =>
      .bind (ih fun x hx => he x (List.mem_cons_of_mem _ hx)) fun _ => .pure _

theorem Filling.placeAll {es : List Entry} (he : AllChecked es) : Filling (placeAll es) := by
  unfold Statement.placeAll
  refine .of_andThen (.get fun _ => trivial) fun s => ?_
  split
  · exact .of_andThen .lift_any fun _ => .placeEach he
  · exact .placeEach he

theorem exec_inBlock (m : ReadM α) (s : ReadState) : exec (inBlock m) s =
    match exec m { s with scope := .staged [] s.scope } with
    | (r, ⟨.staged es below, mode, log⟩) => (r.map (·, es), ⟨below, mode, log⟩)
    | (r, inside) => (r.map (·, []), inside) := by
  simp only [exec, inBlock, ExceptT.run, ExceptT.mk, StateT.run]
  rcases m { s with scope := .staged [] s.scope } with ⟨_, ⟨_ | _ | _, _, _⟩⟩ <;> rfl

theorem Quiet.inBlock {m : ReadM α} (hm : Filling m) :
    Quiet (inBlock m) fun p => AllChecked p.2 := by
  intro s hs
  have h := hm { s with scope := .staged [] s.scope } hs
  rw [exec_inBlock]
  generalize exec m { s with scope := .staged [] s.scope } = r at h ⊢
  obtain ⟨r, ⟨scope, mode, log⟩⟩ := r
  cases h with
  | staged hc hb =>
    refine ⟨hb, fun p hp => ?_⟩
    cases r with
    | error f => contradiction
    | ok a =>
      obtain rfl := Except.ok.inj hp
      exact hc (by simp [AllChecked])

theorem Quiet.inDictionary {m : ReadM α} (hm : Filling m) :
    Quiet (inDictionary m) fun p => AllChecked p.2 := by
  intro s hs
  have h := hm { s with scope := s.scope.inner } trivial
  rw [exec_inDictionary]
  refine ⟨.refl hs, fun p hp => ?_⟩
  generalize exec m { s with scope := s.scope.inner } = r at h hp
  obtain ⟨r, ⟨scope, mode, log⟩⟩ := r
  cases h with
  | fresh hc =>
    cases r with
    | error f => contradiction
    | ok a =>
      obtain rfl := Except.ok.inj hp
      exact hc (by simp [AllChecked])

/-! ### Statements -/

section Statements

variable {setup : Setup} {budget : Nat} {run : DirectiveRunner}

theorem Quiet.readTokens {i : Input} : Quiet (readTokens setup budget i) fun _ => True := .expanding

theorem Quiet.surroundings : Quiet (surroundings setup) fun _ => True :=
  .andThen (.get fun _ => trivial) fun _ => .pure trivial

theorem Quiet.mapM {γ : Type} {f : γ → ReadM β} {post : β → Prop} {l : List γ}
    (hf : ∀ a ∈ l, Quiet (f a) post) : Quiet (l.mapM f) fun bs => ∀ b ∈ bs, post b := by
  induction l with
  | nil => exact .pure (by simp)
  | cons a l ih =>
    rw [List.mapM_cons]
    refine .bind (hf a (by simp)) fun b hb => ?_
    refine .bind (ih fun x hx => hf x (List.mem_cons_of_mem _ hx)) fun bs hbs => ?_
    exact .pure (List.forall_mem_cons.mpr ⟨hb, hbs⟩)

theorem Quiet.copy (e : Entry) : Quiet (liftM e.copy) Entry.Checked :=
  .lift fun e' h => by
    obtain ⟨h, rfl⟩ := copy_eq_ok.mp h
    exact h

theorem Quiet.splice {name : String} {t : Token} {i : Input} :
    Quiet (splice setup name t i) fun p => AllChecked p.1 := by
  unfold Statement.splice
  refine .andThen .surroundings fun around => .andThen .lift_any fun target => ?_
  split
  · exact .throw _
  · refine .andThen .lift_any fun following => ?_
    split <;> exact .bind (.mapM fun e _ => .copy e) fun es hes => .pure hes

theorem Quiet.checked (h : Heading) : Quiet (liftM h.checked) fun h' => h'.failure? = none :=
  .lift fun h' hh => by
    obtain ⟨hf, rfl⟩ := Heading.checked_eq_ok.mp hh
    exact hf

theorem Quiet.copyDictionary {h : Heading} {name : String} {t : Token} {target : Heading}
    {es : List Entry} {i : Input} :
    Quiet (copyDictionary h name t target es i) fun p => p.1.Checked := by
  unfold Statement.copyDictionary
  refine .andThen .lift_any fun found => ?_
  extract_lets copied
  have hcopied (p : Taken Int i) : Quiet (copied p) fun p => p.1.Checked := by
    refine .bind (.copy _) fun e he => .pure ?_
    exact he.withHead
  rcases found with _ | ⟨⟨y, l⟩, rest⟩
  · exact .andThen (.pure trivial) hcopied
  · cases y <;> first | exact .andThen (.pure trivial) hcopied | exact .throw_bind _

theorem Quiet.readPrimitive {h : Heading} {i : Input} :
    Quiet (readEntry.readPrimitive setup budget h i) fun p => p.1.Checked := by
  unfold Statement.readEntry.readPrimitive
  refine .andThen .readTokens fun ⟨⟨ts, endLine⟩, rest⟩ => ?_
  exact .bind (.checked _) fun h' hh => .pure (checked_primitive.mpr hh)

/-- The entries of inputs with fewer than `size` tokens are filled in. -/
def FillingBelow (setup : Setup) (budget : Nat) (run : DirectiveRunner) (size : Nat) : Prop :=
  ∀ (i : Input), i.size < size → ∀ n closing stops,
    Filling (readEntries setup budget run n closing stops i)

theorem Quiet.readEntry {n : Nat} {h : Heading} {i : Input}
    (hi : FillingBelow setup budget run i.size) :
    Quiet (readEntry setup budget run n h i) fun p => p.1.Checked := by
  rw [readEntry.eq_def]
  refine .andThen .lift_any fun found => ?_
  split
  · exact .bind (.checked _) fun h' hh => .pure (checked_primitive.mpr hh)
  · next rest =>
    split
    · exact .throw_bind _
    · refine .bind (.checked h) fun h' hh => ?_
      refine .bind (.inDictionary (hi rest.input rest.lt _ _ _)) fun p hes => ?_
      exact .pure (checked_dictionary.mpr ⟨hh, hes⟩)
  · next name line rest =>
    refine .andThen .surroundings fun around => ?_
    split
    · exact .bind .copyDictionary fun p hp => .pure hp
    · exact .readPrimitive
  · exact .readPrimitive

theorem Filling.readStatement {n : Nat} {t : Token} {i : Input}
    (hrun : ∀ n t i, Quiet (run n t i) fun p => AllChecked p.1)
    (hi : FillingBelow setup budget run i.size) :
    Filling (readStatement setup budget run n t i) := by
  rw [readStatement.eq_def]
  refine .adapt ?_ _
  split
  · exact .of_bind_quiet (hrun n t i) fun p hp => .bind (.placeAll hp) fun _ => .pure _
  · exact .of_bind_quiet .splice fun p hp => .bind (.placeAll hp) fun _ => .pure _
  · exact .of_bind_quiet (.readEntry hi) fun p hp => .bind (.place hp) fun _ => .pure _
  · exact .of_bind_quiet (.readEntry hi) fun p hp => .bind (.place hp) fun _ => .pure _
  · exact .throw _

theorem fillingBelow (hrun : ∀ n t i, Quiet (run n t i) fun p => AllChecked p.1) (size : Nat) :
    FillingBelow setup budget run size := by
  induction size with
  | zero => intro i h; omega
  | succ size ih =>
    intro i hi n closing stops
    rw [readEntries.eq_def]
    refine .of_andThen .lift_any fun found => ?_
    split
    · split
      · exact .throw _
      · exact .pure _
    · next t rest =>
      have hlt := rest.lt
      split
      · split
        · exact .pure _
        · exact .throw _
      split
      · exact .bind (ih rest.input (by omega) _ _ _) fun _ => .pure _
      split
      · exact .pure _
      · refine .bind (.readStatement hrun fun j hj => ih j (by omega)) fun p => ?_
        have hle := p.2.le
        exact .bind (ih p.2.input (by omega) _ _ _) fun _ => .pure _

/-! ### Directives -/

theorem Quiet.changing {g : ReadState → ReadState}
    (h : ∀ s : ReadState, s.scope.Grounded → s.scope.Prunes (g s).scope) :
    Quiet (modify g : ReadM PUnit) fun _ => True := fun s hs => ⟨h s hs, fun _ _ => trivial⟩

theorem Quiet.remove {t : Token} {i : Input} {names : List Token} :
    Quiet (remove t i names) fun _ => True := by
  unfold Statement.remove
  extract_lets wanted removing
  split
  · exact .throw_bind _
  · dsimp only [removing]
    split
    · exact .changing fun s hs => .removeThrough hs _
    · exact .andThen (.changing fun s hs => .remove hs _) fun _ => .throw _

theorem Quiet.changeMode {t : Token} {i : Input} :
    Quiet (changeMode setup t i) fun p => AllChecked p.1 := by
  unfold Statement.changeMode
  refine .andThen .lift_any fun ⟨argument, rest⟩ => ?_
  dsimp only
  split
  · have hset (mode : InputMode) :
        Quiet (do modify fun s => { s with mode }; return ([], rest.toRest) : ReadM _)
          fun p => AllChecked p.1 :=
      .andThen (.changing fun s hs => .refl hs) fun _ => .pure (by simp [AllChecked])
    split
    · exact .andThen (.pure trivial) hset
    · split
      · exact .andThen (.pure trivial) hset
      · exact .throw_bind _
  · exact .throw _

theorem Quiet.conditional {entries : List String → (i : Input) → ReadM (Taken (Option Token) i)}
    (he : ∀ stops i, Filling (entries stops i)) {own : Directive} {t : Token} {taken : Bool}
    {i : Input} : Quiet (conditional entries own t taken i) fun p => AllChecked p.1 := by
  unfold Statement.conditional
  split
  · refine .bind (.inBlock (he _ _)) fun ⟨⟨ending, rest⟩, es⟩ hes => ?_
    dsimp only
    split
    · exact .throw _
    · split
      · exact .andThen .lift_any fun _ => .pure hes
      · exact .pure hes
  · refine .andThen .lift_any fun ⟨ending, rest⟩ => ?_
    dsimp only
    split
    · refine .bind (.inBlock (he _ _)) fun ⟨⟨ending, rest⟩, es⟩ hes => ?_
      dsimp only
      split
      · exact .throw _
      · split
        · exact .throw _
        · exact .pure hes
    · exact .pure (by simp [AllChecked])

theorem Quiet.runDirective (budget : Nat) :
    ∀ n t i, Quiet (runDirective setup budget n t i) fun p => AllChecked p.1 := by
  induction budget with
  | zero => intro n t i; exact .throw _
  | succ budget ih =>
    intro n t i
    unfold Statement.runDirective
    extract_lets entries argument
    have he (closing stops i) : Filling (entries closing stops i) :=
      fillingBelow ih _ i (Nat.lt_succ_self _) _ _ _
    have ha (i) : Quiet (argument i) fun _ => True := .expanding
    have hnil : AllChecked [] := by simp [AllChecked]
    refine .andThen .lift_any fun d => ?_
    cases d with
    | includeFile optional =>
      refine .andThen .expanding fun p => ?_
      dsimp only
      split
      · exact .pure hnil
      · refine .andThen .expanding fun file => ?_
        exact .bind (.inBlock (he none [] file)) fun p hp => .pure hp
    | ifEqual =>
      refine .andThen (ha _) fun left => .andThen (ha _) fun right => ?_
      exact .bind (.conditional (he _)) fun p hp => .pure hp
    | ifTrue =>
      refine .andThen (ha _) fun p => ?_
      dsimp only
      split
      · exact .throw _
      · exact .bind (.conditional (he _)) fun p hp => .pure hp
    | remove =>
      exact .andThen (ha _) fun names => .andThen .remove fun _ => .pure hnil
    | inputMode => exact .changeMode
    | otherwise | endIf | calculate | negate | blank => exact .throw _

end Statements

end CaseDict
