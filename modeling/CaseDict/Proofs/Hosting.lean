import CaseDict.Proofs.Framing
import CaseDict.Proofs.Limits
/-! # Reading into a block of an empty dictionary

What is read into a block that an empty dictionary holds is what is read into a dictionary of its
own: names denote the same from both, unless they lead out of the block to the dictionary that holds
it, which is empty as long as the block is read (`Lookup.scopedEntry_hosted`). So the two reads make
the same entries, or the one in the block fails at such a name (`Framing.hosted_ends`). -/

namespace CaseDict

open Expansion Statement Entry

namespace Lookup

/-- The scoped name begins at the outermost dictionary or further out than where it stands. -/
def IsRooted (name : String) : Prop :=
  name.toList.head? = some '!' ∨ (components name.toList).head? = some ".."

theorem IsRooted.not_identifier {name : String} (h : IsRooted name) :
    Text.isIdentifier name = false := by
  have hstart (c : Char) (cs : List Char) (hc : Text.isNameStart c = false)
      (hn : name.toList = c :: cs) : Text.isIdentifier name = false := by
    rw [Text.isIdentifier, hn]
    simp [hc]
  unfold IsRooted components at h
  cases hn : name.toList with
  | nil => rw [Text.isIdentifier, hn]
  | cons c cs =>
    refine hstart c cs ?_ hn
    rw [hn] at h
    rcases h with h | h
    · obtain rfl := Option.some.inj h
      decide
    · by_cases hc : c = '/'
      · subst hc
        decide
      · obtain ⟨w, ws, hw⟩ := List.exists_cons_of_ne_nil (List.splitOn_ne_nil '/' cs)
        have hsplit : (c :: cs).splitOn '/' = (c :: w) :: ws := by
          rw [List.splitOn_cons_eq_if_modifyHead, if_neg (by simpa using hc), hw]
          rfl
        rw [hsplit, List.filterMap_cons] at h
        have hdots : String.ofList (c :: w) = ".." := by simpa using h
        have hlist := congrArg String.toList hdots
        rw [String.toList_ofList] at hlist
        obtain ⟨rfl, -⟩ := List.cons.inj hlist
        decide

/-- The first frames end with a block of an empty dictionary, the second ones with a dictionary of
the same entries. -/
inductive Hosted : List (Frame Entry) → List (Frame Entry) → Prop
  | block (es : List Entry) : Hosted [⟨es, true⟩, ⟨[], false⟩] [⟨es, false⟩]
  | cons (f : Frame Entry) {fs fs' : List (Frame Entry)} (h : Hosted fs fs') :
      Hosted (f :: fs) (f :: fs')

variable {fs fs' : List (Frame Entry)}

theorem Hosted.dropWhile (h : Hosted fs fs') :
    Hosted (fs.dropWhile (·.transparent)) (fs'.dropWhile (·.transparent)) ∨
      fs.dropWhile (·.transparent) = [⟨[], false⟩] := by
  induction h with
  | block => exact .inr rfl
  | cons f h ih =>
    rw [List.dropWhile_cons, List.dropWhile_cons]
    split
    · exact ih
    · exact .inl (.cons f h)

theorem Hosted.outward (h : Hosted fs fs') :
    Hosted (outward fs) (outward fs') ∨ outward fs = [⟨[], false⟩] ∨ outward fs = [] := by
  unfold Lookup.outward
  rcases h.dropWhile with h | h
  · generalize fs.dropWhile (·.transparent) = gs, fs'.dropWhile (·.transparent) = gs' at h
    cases h with
    | block => exact .inr (.inl rfl)
    | cons f h => exact h.dropWhile.imp_right .inl
  · rw [h]
    exact .inr (.inr rfl)

theorem Hosted.getLast? (h : Hosted fs fs') : fs.getLast? = some ⟨[], false⟩ := by
  induction h with
  | block => rfl
  | cons f h ih => rw [List.getLast?_cons, ih]; rfl

theorem Hosted.findOutward (h : Hosted fs fs') (name : String) :
    findOutward inspection name fs = findOutward inspection name fs' := by
  unfold Lookup.findOutward
  induction h with
  | block es =>
    rw [List.findSome?_cons, List.findSome?_cons]
    rfl
  | cons f h ih => rw [List.findSome?_cons, List.findSome?_cons, ih]

theorem follow_of_nil (everywhere : Bool) (path : List String) :
    follow inspection [] everywhere path = none := by
  induction path generalizing everywhere with
  | nil => rfl
  | cons name path ih =>
    unfold follow
    split
    · exact ih false
    · rfl

/-- Nothing is found in an empty dictionary. -/
theorem follow_of_empty (everywhere : Bool) (path : List String) :
    follow inspection [⟨[], false⟩] everywhere path = none := by
  cases path with
  | nil => rfl
  | cons name path =>
    unfold follow
    split
    · exact follow_of_nil false path
    · cases everywhere <;> rfl

theorem Hosted.follow_of_ne (h : Hosted fs fs') {name : String} (hn : name ≠ "..")
    (everywhere : Bool) (path : List String) :
    follow inspection fs everywhere (name :: path) =
      follow inspection fs' everywhere (name :: path) := by
  have hfind := h.findOutward name
  unfold follow
  rw [if_neg hn, if_neg hn, hfind]
  cases h <;> rfl

theorem Hosted.follow (h : Hosted fs fs') (everywhere : Bool) (path : List String) :
    follow inspection fs everywhere path = follow inspection fs' everywhere path ∨
      follow inspection fs everywhere path = none := by
  induction path generalizing fs fs' everywhere with
  | nil => exact .inr rfl
  | cons name path ih =>
    by_cases hn : name = ".."
    · unfold Lookup.follow
      rw [if_pos hn, if_pos hn]
      rcases h.outward with h | h | h
      · exact ih h false
      · exact .inr (h ▸ follow_of_empty false path)
      · exact .inr (h ▸ follow_of_nil false path)
    · exact .inl (h.follow_of_ne hn everywhere path)

/-- Names denote the same, unless they lead out of the block. -/
theorem scopedEntry_hosted (h : Hosted fs fs') (name : String) :
    scopedEntry inspection fs name = scopedEntry inspection fs' name ∨
      IsRooted name ∧ scopedEntry inspection fs name = none := by
  unfold scopedEntry
  split
  · next path hn =>
    rw [h.getLast?]
    exact .inr ⟨.inl (by rw [hn]; rfl), follow_of_empty false _⟩
  · by_cases hc : (components name.toList).head? = some ".."
    · exact (h.follow true _).imp_right fun hnone => ⟨.inr hc, hnone⟩
    · generalize components name.toList = path at hc
      cases path with
      | nil => exact .inl rfl
      | cons c cs => exact .inl (h.follow_of_ne (fun he => hc (he ▸ rfl)) true cs)

end Lookup

/-- A name that leads out of a block was looked up in vain. -/
def Failure.IsRooted (f : Failure) : Prop :=
  ∃ name line source, Lookup.IsRooted name ∧
    (f = .diagnostic ⟨.undefinedVariable name, line, source⟩ ∨
      ∃ limit, f = .diagnostic ⟨.expansionTooDeep (Symbol.reference name).text limit, line, source⟩)

theorem Failure.IsRooted.within {f : Failure} (h : f.IsRooted) (name : String) :
    (f.within name).IsRooted := by
  obtain ⟨n, line, source, hn, rfl | ⟨limit, rfl⟩⟩ := h
  · exact ⟨n, line, _, hn, .inl rfl⟩
  · exact ⟨n, line, _, hn, .inr ⟨limit, rfl⟩⟩

/-- Two reads with logs of their own, until the first one looks up a name in vain that leads out of
the block it reads. -/
def Link.hosted : Link (List Event) := { rel := fun _ _ => True, parts := Failure.IsRooted }

theorem Link.hosted_loses {setup : Setup} {name : String} (h : Lookup.IsRooted name) :
    Link.hosted.Loses setup name where
  identifier := h.not_identifier
  undefined line := ⟨name, line, none, h, .inl rfl⟩
  tooDeep {t} ht source := by
    refine ⟨name, t.line, some source, h, .inr ⟨setup.settings.maxExpansion, ?_⟩⟩
    rw [Context.tooDeep, Token.text, ht]
    rfl
  after := rfl

namespace Framing

/-- A block of an empty dictionary and a dictionary with the same entries. -/
def hosted : Framing.Placing where
  outermost s s' := ∃ es removed removed', s = .staged es (.fresh [] [] removed) ∧
    s' = .fresh es [] removed' ∧ AllCarry Token.AllLiteral es
  members := SameCarry Token.AllLiteral
  contents := SameCarry Token.AllLiteral
  around fs fs' := Lookup.Hosted fs fs' ∧ ∀ f ∈ fs', AllCarry Token.AllLiteral f.entries
  nil := .nil _
  filter := @SameCarry.filter _
  made := by
    rintro _ _ ⟨es, removed, removed', rfl, rfl, -⟩
    have hany (es : List Entry) : AllCarry (fun _ => True) es := fun _ _ _ _ => trivial
    exact ⟨⟨hany es, hany [], List.forall_mem_nil _⟩, hany es, List.forall_mem_nil _⟩
  entries := by
    rintro _ _ ⟨es, removed, removed', rfl, rfl, h⟩
    exact ⟨rfl, h⟩
  refill := by
    rintro _ _ es _ ⟨-, removed, removed', rfl, rfl, -⟩ ⟨rfl, h⟩
    exact ⟨es, removed, removed', rfl, rfl, h⟩
  frames := by
    rintro _ _ ⟨es, removed, removed', rfl, rfl, h⟩
    exact ⟨.block es, List.forall_mem_singleton.mpr h⟩
  cons {fs fs' es es'} h he transparent := by
    obtain ⟨rfl, he⟩ := he
    exact ⟨.cons _ h.1, List.forall_mem_cons.mpr ⟨he, h.2⟩⟩
  removeThrough := by
    rintro _ _ ⟨es, removed, removed', rfl, rfl, h⟩ what
    have hnil : Removal.applyAll what [] = [] :=
      List.eq_nil_iff_forall_not_mem.mpr (forall_mem_applyAll (List.forall_mem_nil _) what)
    refine ⟨_, removed ++ what, _, ?_, rfl, forall_mem_applyAll h what⟩
    rw [Scope.removeThrough, Scope.removeThrough, Scope.remove, hnil]

theorem membersOf_hosted {x : Scope.Kind} :
    hosted.membersOf x = SameCarry Token.AllLiteral := by
  cases x <;> rfl

theorem hosted_finds {heading : Heading → Heading → Prop}
    (hh : ∀ h, heading h h) {setup : Setup} {fs fs' : List (Frame Entry)}
    (h : hosted.around fs fs') (name : String) :
    Option.Rel (Alike heading Token.AllLiteral (SameCarry Token.AllLiteral))
        (Lookup.scopedEntry inspection fs name) (Lookup.scopedEntry inspection fs' name) ∨
      Link.hosted.Loses setup name ∧ Lookup.scopedEntry inspection fs name = none := by
  refine (Lookup.scopedEntry_hosted h.1 name).imp (fun hsame => ?_)
    fun ⟨hroot, hnone⟩ => ⟨Link.hosted_loses hroot, hnone⟩
  rw [hsame]
  cases hf : Lookup.scopedEntry inspection fs' name with
  | none => exact .none
  | some e => exact .some (.refl hh (Lookup.scopedEntry_has carries_hereditary.inner h.2 hf))

end Framing

theorem Setup.hosting (setup : Setup) :
    Courses Link.hosted (Framing.hosted.link Link.hosted (Same fun _ => True)) (.freely True) .never
      (SameCarry Token.AllLiteral) setup setup := by
  refine Framing.courses_same (fun _ => trivial) rfl (fun _ name h => h.within name)
    (fun _ _ _ _ => trivial) Link.stops_never (fun _ _ _ _ _ => trivial)
    (fun _ => Framing.membersOf_hosted)
    (fun fs fs' hf name => Framing.hosted_finds (fun _ => ⟨rfl, fun _ => trivial⟩) hf name)
    (fun e e' => Alike.same) (fun _ h => h)
    (fun mode es e p _ hes he hp => carries_hereditary.place hes he hp)
    fun _ _ _ _ _ _ _ => trivial

namespace Reader

/-- A text that is read into a block of an empty dictionary. -/
theorem entries_hosted (setup : Setup) (depth : Int) (i : Input) {s s' : ReadState}
    (hs : (Framing.hosted.link Link.hosted (Same fun _ => True) .outermost).rel s s') :
    (Framing.hosted.link Link.hosted (Same fun _ => True) .outermost).Ends
      (Leaves (.freely True) (Same fun _ => True)) (exec (entries setup depth 0 none [] i) s)
      (exec (entries setup depth 0 none [] i) s') := by
  have h : Follows (Framing.hosted.link Link.hosted (Same fun _ => True) .outermost)
      (Watched.entries .never setup depth 0 none [] i) (entries setup depth 0 none [] i)
      (Leaves (.freely True) (Same fun _ => True)) :=
    setup.hosting.entries (.inl rfl) ⟨fun _ _ => trivial, fun _ _ => trivial⟩ 0 none []
  rw [Watched.entries_never] at h
  exact h.ends s s' hs

/-- A text that is read at a greater depth under a limit that is as much higher. -/
theorem exec_entries_deeper {setup : Setup} {expansion depth : Int} {i : Input}
    (hle : setup.settings.maxExpansion ≤ expansion)
    (hb : (setup.limited expansion setup.settings.maxNesting).settings.budget depth =
      setup.settings.budget 0) {p : Taken (Option Token) i} {s : ReadState}
    (h : exec (entries setup 0 0 none [] i) (start setup) = (.ok p, s)) :
    ∃ p', exec (entries (setup.limited expansion setup.settings.maxNesting) depth 0 none [] i)
      (start setup) = (.ok p', s) := by
  have hloose : (Link.upTo Failure.AtLimit : Link (List Event)).Loose .expansionOverflow :=
    ⟨.inl, rfl⟩
  have hcourses : SharedCourses (.upTo Failure.AtLimit) .free Eq setup
      (setup.limited expansion setup.settings.maxNesting) :=
    .literal Link.stops_never (fun _ name h => h.within name) rfl rfl rfl
      (.inr ⟨hle, hloose⟩) (.inl rfl)
  have hf := hcourses.readEntries (.inl hb.symm) (hcourses.runs (.inl hb.symm))
    (Vocabulary.knows_free i) 0 none [] (x := ())
  rw [Watched.runDirective_never, Watched.readEntries_never] at hf
  have hends := hf.ends (start setup) (start setup) ⟨rfl, Scope.carries_nil, rfl, rfl⟩
  unfold Reader.entries at h ⊢
  dsimp only at h ⊢
  rw [h] at hends
  generalize exec (readEntries (setup.limited expansion setup.settings.maxNesting) _ _ 0 none [] i)
    (start setup) = q at hends ⊢
  obtain ⟨r, s'⟩ := q
  cases hends with
  | ok hab hs =>
    obtain ⟨hscope, -, hmode, hlog⟩ := hs
    obtain ⟨scope, mode, log⟩ := s
    obtain ⟨scope', mode', log'⟩ := s'
    cases hscope
    cases hmode
    cases hlog
    exact ⟨_, rfl⟩

end Reader

end CaseDict
