import CaseDict.Proofs.Run
/-! # Two runs side by side

Two computations are run from related states. As long as nothing parts the runs they give related
results and leave related states; some failures of the first run may part them, and then the second
one goes on alone (`Follows`). A `Link` says which states are related, which failures part the runs,
and what is kept of the second run from then on.

What holds of one run is said by running it beside itself (`Link.same`). -/

namespace CaseDict

variable {σ α β γ δ : Type}

/-- How two runs are linked. -/
structure Link (σ : Type) where
  /-- The states of the two runs are related. -/
  rel : σ → σ → Prop
  /-- Both runs may end with the failure. -/
  shares : Failure → Prop := fun _ => True
  /-- The first run may end with the failure while the second one goes on. -/
  parts : Failure → Prop := fun _ => False
  /-- What holds of the second run when it is alone; nothing is said of it if this is none. -/
  after : Option (σ → Prop) := none

namespace Link

/-- Both runs are in the same state until the first fails with what parts them. -/
def upTo (parts : Failure → Prop) : Link σ := { rel := Eq, parts }

/-- Both runs are in the same state all along. -/
def same : Link σ := .upTo fun _ => False

/-- The second run is alone and has still come to something that `post` allows. -/
def Alone (L : Link σ) (post : α → β → Prop) (p : Except Failure β × σ) : Prop :=
  ∀ after ∈ L.after, after p.2 ∧ ∀ b, p.1 = .ok b → ∃ a, post a b

/-- What two linked runs come to. -/
inductive Ends (L : Link σ) (post : α → β → Prop) :
    Except Failure α × σ → Except Failure β × σ → Prop
  | ok {a : α} {b : β} {s s' : σ} (h : post a b) (hs : L.rel s s') :
      Ends L post (.ok a, s) (.ok b, s')
  | error {f : Failure} {s s' : σ} (hf : L.shares f) : Ends L post (.error f, s) (.error f, s')
  | parted {f : Failure} {s : σ} {p : Except Failure β × σ} (hf : L.parts f) (hp : L.Alone post p) :
      Ends L post (.error f, s) p

/-- What two results are that do not depend on the state. -/
inductive Meets (L : Link σ) (post : α → β → Prop) : Except Failure α → Except Failure β → Prop
  | ok {a : α} {b : β} (h : post a b) : Meets L post (.ok a) (.ok b)
  | error {f : Failure} (hf : L.shares f) : Meets L post (.error f) (.error f)
  | parted {f : Failure} {r : Except Failure β} (hf : L.parts f) (hl : L.after = none) :
      Meets L post (.error f) r

variable {L : Link σ} {post post' : α → β → Prop} {p : Except Failure β × σ}

theorem Alone.mono (h : L.Alone post p) (hp : ∀ a b, post a b → post' a b) : L.Alone post' p :=
  fun after ha => (h after ha).imp_right fun h b hb => (h b hb).imp fun a => hp a b

theorem Alone.adapt (h : L.Alone post p) (g : Failure → Failure) :
    L.Alone post (p.1.mapError g, p.2) := by
  refine fun after ha => (h after ha).imp_right fun h b hb => ?_
  obtain ⟨_ | b', s⟩ := p
  · contradiction
  · exact h b hb

theorem Alone.of_none (h : L.after = none) : L.Alone post p := fun after ha => by
  rw [h] at ha
  contradiction

theorem Meets.refl {r : Except Failure α} {post : α → α → Prop} (h : ∀ a, r = .ok a → post a a)
    (hf : ∀ f, r = .error f → L.shares f) : L.Meets post r r := by
  cases r with
  | ok a => exact .ok (h a rfl)
  | error f => exact .error (hf f rfl)

theorem Meets.mono {r : Except Failure α} {r' : Except Failure β} (h : L.Meets post r r')
    (hp : ∀ a b, r = .ok a → r' = .ok b → post a b → post' a b) : L.Meets post' r r' := by
  cases h with
  | ok h => exact .ok (hp _ _ rfl rfl h)
  | error hf => exact .error hf
  | parted hf hl => exact .parted hf hl

theorem Meets.bind {r : Except Failure α} {r' : Except Failure β} {mid : α → β → Prop}
    {post : γ → δ → Prop} {k : α → Except Failure γ} {k' : β → Except Failure δ}
    (h : L.Meets mid r r') (hk : ∀ a b, mid a b → L.Meets post (k a) (k' b)) :
    L.Meets post (r >>= k) (r' >>= k') := by
  cases h with
  | ok h => exact hk _ _ h
  | error hf => exact .error hf
  | parted hf hl => exact .parted hf hl

end Link

/-- The second computation gives what the first one gives until the first one leaves it; what they
give satisfies `post`. -/
structure Follows (L : Link σ) (m : ExceptT Failure (StateM σ) α)
    (m' : ExceptT Failure (StateM σ) β) (post : α → β → Prop) : Prop where
  ends : ∀ s s', L.rel s s' → L.Ends post (exec m s) (exec m' s')
  stays : ∀ after ∈ L.after, ∀ s, after s → L.Alone post (exec m' s)

/-- The two results are the same, and `post` holds of it. -/
abbrev Same (post : α → Prop) (a b : α) : Prop := a = b ∧ post a

/-- Nothing is said of the two results. -/
abbrev Any (_ : α) (_ : β) : Prop := True

namespace Follows

variable {L : Link σ} {m : ExceptT Failure (StateM σ) α} {m' : ExceptT Failure (StateM σ) β}
  {k : α → ExceptT Failure (StateM σ) γ} {k' : β → ExceptT Failure (StateM σ) δ}
  {post post' : α → β → Prop}

theorem pure {a : α} {b : β} (h : post a b) : Follows L (Pure.pure a) (Pure.pure b) post where
  ends _ _ hs := .ok h hs
  stays after ha s hs := fun after' ha' => by
    obtain rfl := Option.some.inj (ha.symm.trans ha')
    exact ⟨hs, fun _ hb => ⟨a, Except.ok.inj hb ▸ h⟩⟩

theorem lift {r : Except Failure α} {r' : Except Failure β} (h : L.Meets post r r') :
    Follows L (liftM r) (liftM r') post where
  ends s s' hs := by
    rw [exec_lift, exec_lift]
    cases h with
    | ok h => exact .ok h hs
    | error hf => exact .error hf
    | parted hf hl => exact .parted hf (.of_none hl)
  stays after ha s hs := fun after' ha' => by
    obtain rfl := Option.some.inj (ha.symm.trans ha')
    rw [exec_lift]
    refine ⟨hs, fun b hb => ?_⟩
    cases h with
    | ok h => exact ⟨_, Except.ok.inj hb ▸ h⟩
    | error => contradiction
    | parted _ hl =>
      rw [hl] at ha
      contradiction

theorem lift_self {r : Except Failure α} {post : α → α → Prop} (h : ∀ a, r = .ok a → post a a)
    (hf : ∀ f, r = .error f → L.shares f) : Follows L (liftM r) (liftM r) post := lift (.refl h hf)

theorem lift_same {r : Except Failure α} (hf : ∀ f, r = .error f → L.shares f) :
    Follows L (liftM r) (liftM r) (Same fun a => r = .ok a) := lift_self (fun _ h => ⟨rfl, h⟩) hf

theorem lift_any {r : Except Failure α} (hf : ∀ f, r = .error f → L.shares f) :
    Follows L (liftM r) (liftM r) (Same fun _ => True) := lift_self (fun _ _ => ⟨rfl, trivial⟩) hf

theorem pure_same {a : α} : Follows L (Pure.pure a) (Pure.pure a) (Same fun _ => True) :=
  pure ⟨rfl, trivial⟩

theorem throw {f : Failure} (hf : L.shares f) : Follows L (throw f) (throw f) post :=
  lift (.error hf : L.Meets post (.error f) (.error f))

/-- From the start the second run is alone, and nothing is said of it. -/
theorem left {f : Failure} (hf : L.parts f) (hl : L.after = none) :
    Follows L (MonadExcept.throw f) m' post where
  ends _ _ _ := .parted hf (.of_none hl)
  stays _ _ _ _ := .of_none hl

theorem left_bind {f : Failure} {post : γ → β → Prop} (hf : L.parts f) (hl : L.after = none) :
    Follows L (MonadExcept.throw f >>= k) m' post := left hf hl

theorem changing {g g' : σ → σ} (h : ∀ s s', L.rel s s' → L.rel (g s) (g' s'))
    (ha : ∀ after ∈ L.after, ∀ s, after s → after (g' s)) :
    Follows L (modify g : ExceptT Failure (StateM σ) PUnit) (modify g') Any where
  ends s s' hs := .ok trivial (h s s' hs)
  stays after hafter s hs := fun after' hafter' => by
    obtain rfl := Option.some.inj (hafter.symm.trans hafter')
    exact ⟨ha after hafter s hs, fun _ _ => ⟨⟨⟩, trivial⟩⟩

theorem mono (h : Follows L m m' post) (hp : ∀ a b, post a b → post' a b) :
    Follows L m m' post' where
  ends s s' hs := by
    have h := h.ends s s' hs
    generalize exec m s = p, exec m' s' = p' at h ⊢
    cases h with
    | ok h ht => exact .ok (hp _ _ h) ht
    | error hf => exact .error hf
    | parted hf ht => exact .parted hf (ht.mono hp)
  stays after ha s hs := (h.stays after ha s hs).mono hp

/-- What is alone stays alone. -/
theorem alone_bind {mid : α → β → Prop} {post : γ → δ → Prop}
    (hk : ∀ a b, mid a b → Follows L (k a) (k' b) post) {s : σ} (h : L.Alone mid (exec m' s)) :
    L.Alone post (exec (m' >>= k') s) := by
  intro after ha
  obtain ⟨hs, hr⟩ := h after ha
  rw [exec_bind]
  generalize exec m' s = p at hs hr ⊢
  obtain ⟨_ | b, t⟩ := p
  · exact ⟨hs, fun _ hb => by contradiction⟩
  · obtain ⟨a, hab⟩ := hr b rfl
    exact (hk a b hab).stays after ha t hs after ha

theorem bind {mid : α → β → Prop} {post : γ → δ → Prop} (hm : Follows L m m' mid)
    (hk : ∀ a b, mid a b → Follows L (k a) (k' b) post) :
    Follows L (m >>= k) (m' >>= k') post where
  ends s s' hs := by
    have h := hm.ends s s' hs
    have halone (h : L.Alone mid (exec m' s')) := alone_bind hk h
    rw [exec_bind] at halone
    rw [exec_bind, exec_bind]
    generalize exec m s = p, exec m' s' = p' at h halone ⊢
    cases h with
    | ok hab ht => exact (hk _ _ hab).ends _ _ ht
    | error hf => exact .error hf
    | parted hf hp => exact .parted hf (halone hp)
  stays after ha s hs := alone_bind hk (hm.stays after ha s hs)

theorem throw_bind {post : γ → δ → Prop} {f : Failure} (hf : L.shares f) :
    Follows L (MonadExcept.throw f >>= k) (MonadExcept.throw f >>= k') post := throw hf

theorem bind_same {k : α → ExceptT Failure (StateM σ) γ} {k' : α → ExceptT Failure (StateM σ) δ}
    {m m' : ExceptT Failure (StateM σ) α} {mid : α → Prop} {post : γ → δ → Prop} (hm : Follows L m m' (Same mid))
    (hk : ∀ a, mid a → Follows L (k a) (k' a) post) : Follows L (m >>= k) (m' >>= k') post :=
  .bind hm fun a _ ⟨hab, ha⟩ => hab ▸ hk a ha

theorem adapt (h : Follows L m m' post) {g : Failure → Failure}
    (hs : ∀ f, L.shares f → L.shares (g f)) (hg : ∀ f, L.parts f → L.parts (g f)) :
    Follows L (ExceptT.adapt g m) (ExceptT.adapt g m') post where
  ends s s' hrel := by
    have h := h.ends s s' hrel
    rw [exec_adapt, exec_adapt]
    generalize exec m s = p, exec m' s' = p' at h ⊢
    cases h with
    | ok h ht => exact .ok h ht
    | error hf => exact .error (hs _ hf)
    | parted hf ht =>
      exact .parted (hg _ hf) (ht.adapt g)
  stays after ha s ht := (h.stays after ha s ht).adapt g

/-- A computation is run between entering a state and leaving it, and inside the runs may be linked
in another way. -/
theorem between {S S' : Link σ} {n : ExceptT Failure (StateM σ) (α × γ)}
    {n' : ExceptT Failure (StateM σ) (β × γ)} {m : ExceptT Failure (StateM σ) α}
    {m' : ExceptT Failure (StateM σ) β} {post : α → β → Prop} {out : γ → γ → Prop}
    (enter : σ → σ) (leave : σ → σ → γ × σ) (h : Follows S' m m' post)
    (hn : ∀ s, exec n s = ((exec m (enter s)).1.map (·, (leave s (exec m (enter s)).2).1),
      (leave s (exec m (enter s)).2).2))
    (hn' : ∀ s, exec n' s = ((exec m' (enter s)).1.map (·, (leave s (exec m' (enter s)).2).1),
      (leave s (exec m' (enter s)).2).2))
    (henter : ∀ s s', S.rel s s' → S'.rel (enter s) (enter s'))
    (hleave : ∀ s s' t t', S.rel s s' → S'.rel t t' →
      S.rel (leave s t).2 (leave s' t').2 ∧ out (leave s t).1 (leave s' t').1)
    (hfails : ∀ f, (S'.shares f → S.shares f) ∧ (S'.parts f → S.parts f))
    (halone : ∀ after ∈ S.after, ∃ after' ∈ S'.after, (∀ s, after s → after' (enter s)) ∧
      ∀ s t, (after s ∨ ∃ s', S.rel s' s) → after' t →
        after (leave s t).2 ∧ ∃ b, out b (leave s t).1) :
    Follows S n n' fun p q => post p.1 q.1 ∧ out p.2 q.2 := by
  have hrest {s : σ} {p : Except Failure β × σ}
      (hs : ∀ after ∈ S.after, after s ∨ ∃ s', S.rel s' s) (hp : S'.Alone post p) :
      S.Alone (fun (p : α × γ) (q : β × γ) => post p.1 q.1 ∧ out p.2 q.2)
        (p.1.map (·, (leave s p.2).1), (leave s p.2).2) := by
    intro after ha
    obtain ⟨after', ha', -, hleaves⟩ := halone after ha
    obtain ⟨ht, hr⟩ := hp after' ha'
    obtain ⟨ht', b, hb⟩ := hleaves s p.2 (hs after ha) ht
    refine ⟨ht', fun q hq => ?_⟩
    rcases p with ⟨_ | a', t⟩
    · contradiction
    · obtain ⟨a, ha'⟩ := hr a' rfl
      obtain rfl := Except.ok.inj hq
      exact ⟨(a, b), ha', hb⟩
  constructor
  · intro s s' hs
    have h := h.ends _ _ (henter s s' hs)
    rw [hn, hn']
    generalize exec m (enter s) = p, exec m' (enter s') = p' at h ⊢
    cases h with
    | ok hab ht =>
      obtain ⟨hrel, hout⟩ := hleave _ _ _ _ hs ht
      exact .ok ⟨hab, hout⟩ hrel
    | error hf => exact .error ((hfails _).1 hf)
    | parted hf hp => exact .parted ((hfails _).2 hf) (hrest (fun _ _ => .inr ⟨s, hs⟩) hp)
  · intro after ha s hs
    rw [hn']
    obtain ⟨after', ha', henters, -⟩ := halone after ha
    exact hrest (fun after'' ha'' => .inl (Option.some.inj (ha.symm.trans ha'') ▸ hs))
      (h.stays after' ha' _ (henters s hs))

end Follows

/-! ### Computations that fail -/

/-- Two runs in related states, until the first one fails. -/
def Link.loosely (rel : σ → σ → Prop) : Link σ := { rel, parts := fun _ => True }

/-- The computation fails in every state. -/
def Stuck (m : ExceptT Failure (StateM σ) α) : Prop := ∀ s, ∃ f u, exec m s = (.error f, u)

namespace Stuck

variable {m : ExceptT Failure (StateM σ) α} {k : α → ExceptT Failure (StateM σ) β}

theorem throw (f : Failure) : Stuck (throw f : ExceptT Failure (StateM σ) α) :=
  fun s => ⟨f, s, rfl⟩

theorem bind (h : Stuck m) : Stuck (m >>= k) := fun s => by
  obtain ⟨f, u, hx⟩ := h s
  exact ⟨f, u, by rw [exec_bind, hx]⟩

theorem of_bind (h : ∀ a, Stuck (k a)) : Stuck (m >>= k) := fun s => by
  rw [exec_bind]
  rcases exec m s with ⟨f | a, u⟩
  · exact ⟨f, u, rfl⟩
  · exact h a u

theorem follows (h : Stuck m) {rel : σ → σ → Prop} {m' : ExceptT Failure (StateM σ) β}
    {post : α → β → Prop} : Follows (.loosely rel) m m' post where
  ends s _ _ := by
    obtain ⟨f, u, hx⟩ := h s
    rw [hx]
    exact .parted trivial (.of_none rfl)
  stays _ ha := by contradiction

end Stuck

/-- The computation fails with `f` in every state. -/
def FailsWith (f : Failure) (m : ExceptT Failure (StateM σ) α) : Prop :=
  ∀ s, ∃ u, exec m s = (.error f, u)

namespace FailsWith

variable {f : Failure} {m : ExceptT Failure (StateM σ) α} {k : α → ExceptT Failure (StateM σ) β}

theorem throw : FailsWith f (throw f : ExceptT Failure (StateM σ) α) := fun s => ⟨s, rfl⟩

theorem bind (h : FailsWith f m) : FailsWith f (m >>= k) := fun s => by
  obtain ⟨u, hx⟩ := h s
  exact ⟨u, by rw [exec_bind, hx]⟩

/-- A computation that fails is followed by any other if its failure parts the runs. -/
theorem parts (h : FailsWith f m) {L : Link σ} (hparts : L.parts f) (hl : L.after = none)
    {m' : ExceptT Failure (StateM σ) β} {post : α → β → Prop} : Follows L m m' post where
  ends s _ _ := by
    obtain ⟨u, hx⟩ := h s
    rw [hx]
    exact .parted hparts (.of_none hl)
  stays _ _ _ _ := .of_none hl

end FailsWith

end CaseDict
