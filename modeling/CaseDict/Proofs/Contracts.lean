import CaseDict.Proofs.Sharing
/-! # What one run comes to

A contract says which states a computation is run in and which failures it may end with; under it
the computation ensures a property of its result (`Ensures`). -/

namespace CaseDict

open Expansion Statement

variable {σ α β : Type}

/-- The states that a computation keeps to, and the failures it may end with in a state. -/
structure Contract (σ : Type) where
  inv : σ → Prop := fun _ => True
  fails : Failure → σ → Prop

/-- What a result is, or else the failure. -/
inductive Settles (fails : Failure → Prop) (post : α → Prop) : Except Failure α → Prop
  | ok {a : α} (ha : post a) : Settles fails post (.ok a)
  | error {f : Failure} (hf : fails f) : Settles fails post (.error f)

theorem Settles.mono {fails : Failure → Prop} {r : Except Failure α} {post post' : α → Prop}
    (hr : Settles fails post r) (h : ∀ a, post a → post' a) : Settles fails post' r := by
  cases hr with
  | ok ha => exact .ok (h _ ha)
  | error hf => exact .error hf

theorem Settles.bind {fails : Failure → Prop} {r : Except Failure α} {k : α → Except Failure β}
    {mid : α → Prop} {post : β → Prop} (hr : Settles fails mid r)
    (hk : ∀ a, mid a → Settles fails post (k a)) : Settles fails post (r >>= k) := by
  cases hr with
  | ok ha => exact hk _ ha
  | error hf => exact .error hf

namespace Contract

/-- What a run comes to under a contract. -/
inductive Comes (C : Contract σ) (post : α → Prop) : Except Failure α × σ → Prop
  | ok {a : α} {s : σ} (hs : C.inv s) (ha : post a) : Comes C post (.ok a, s)
  | error {f : Failure} {s : σ} (hf : C.fails f s) : Comes C post (.error f, s)

end Contract

/-- In every state of the contract the computation comes to what it may come to, and to a result
with `post` if to any. -/
def Ensures (C : Contract σ) (m : ExceptT Failure (StateM σ) α) (post : α → Prop) : Prop :=
  ∀ s, C.inv s → C.Comes post (exec m s)

namespace Ensures

variable {C D : Contract σ} {m : ExceptT Failure (StateM σ) α} {post post' : α → Prop}

theorem pure {a : α} (h : post a) : Ensures C (Pure.pure a) post := fun _ hs => .ok hs h

theorem throw {f : Failure} (h : ∀ s, C.fails f s) : Ensures C (throw f) post :=
  fun s _ => .error (h s)

theorem throw_bind {k : α → ExceptT Failure (StateM σ) β} {f : Failure} {post : β → Prop}
    (h : ∀ s, C.fails f s) : Ensures C (MonadExcept.throw f >>= k) post := throw h

theorem lift {r : Except Failure α} (ha : ∀ a, r = .ok a → post a)
    (hf : ∀ f, r = .error f → ∀ s, C.fails f s) : Ensures C (liftM r) post := fun s hs => by
  rw [exec_lift]
  cases r with
  | ok a => exact .ok hs (ha a rfl)
  | error f => exact .error (hf f rfl s)

theorem settled {r : Except Failure α} {fails : Failure → Prop} (h : Settles fails post r)
    (hf : ∀ f s, fails f → C.fails f s) : Ensures C (liftM r) post := fun s hs => by
  rw [exec_lift]
  cases h with
  | ok ha => exact .ok hs ha
  | error h => exact .error (hf _ s h)

theorem modify {g : σ → σ} {post : PUnit → Prop} (h : ∀ s, C.inv s → C.inv (g s))
    (hp : post ⟨⟩) : Ensures C (modify g : ExceptT Failure (StateM σ) PUnit) post :=
  fun s hs => .ok (h s hs) hp

theorem mono (h : Ensures C m post) (hp : ∀ a, post a → post' a) : Ensures C m post' :=
  fun s hs => by
    have h := h s hs
    generalize exec m s = p at h ⊢
    cases h with
    | ok ht ha => exact .ok ht (hp _ ha)
    | error hf => exact .error hf

theorem bind {k : α → ExceptT Failure (StateM σ) β} {mid : α → Prop} {post : β → Prop}
    (hm : Ensures C m mid) (hk : ∀ a, mid a → Ensures C (k a) post) : Ensures C (m >>= k) post :=
  fun s hs => by
    have h := hm s hs
    rw [exec_bind]
    generalize exec m s = p at h ⊢
    cases h with
    | ok ht ha => exact hk _ ha _ ht
    | error hf => exact .error hf

/-- Failures are told otherwise. -/
theorem adapt {g : Failure → Failure} (h : Ensures C m post) (hd : D.inv = C.inv)
    (hf : ∀ f s, C.fails f s → D.fails (g f) s) : Ensures D (ExceptT.adapt g m) post :=
  fun s hs => by
    have h := h s (hd ▸ hs)
    rw [exec_adapt]
    generalize exec m s = p at h ⊢
    cases h with
    | ok ht ha => exact .ok (hd ▸ ht) ha
    | error he => exact .error (hf _ _ he)

/-- More failures may be ended with. -/
theorem weaken (h : Ensures C m post) (hd : D.inv = C.inv)
    (hf : ∀ f s, C.fails f s → D.fails f s) : Ensures D m post := fun s hs => by
  have h := h s (hd ▸ hs)
  generalize exec m s = p at h ⊢
  cases h with
  | ok ht ha => exact .ok (hd ▸ ht) ha
  | error he => exact .error (hf _ _ he)

/-- A computation that is run between entering a state and leaving it. -/
theorem between {n : ExceptT Failure (StateM σ) (α × β)} (out : β → Prop) (enter : σ → σ)
    (leave : σ → σ → β × σ) (h : Ensures C m post)
    (hn : ∀ s, exec n s = ((exec m (enter s)).1.map (·, (leave s (exec m (enter s)).2).1),
      (leave s (exec m (enter s)).2).2))
    (henter : ∀ s, D.inv s → C.inv (enter s))
    (hleave : ∀ s t, D.inv s → C.inv t → D.inv (leave s t).2 ∧ out (leave s t).1)
    (hf : ∀ f s t, C.fails f t → D.fails f (leave s t).2) :
    Ensures D n fun p => post p.1 ∧ out p.2 := fun s hs => by
  have h := h _ (henter s hs)
  rw [hn]
  generalize exec m (enter s) = p at h ⊢
  cases h with
  | ok ht ha =>
    obtain ⟨hinv, hout⟩ := hleave s _ hs ht
    exact .ok hinv ⟨ha, hout⟩
  | error he => exact .error (hf _ s _ he)

end Ensures

end CaseDict
