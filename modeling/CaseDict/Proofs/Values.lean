import CaseDict.Proofs.Hereditary
import CaseDict.Scope
/-! # The values in a dictionary

A property of values holds in an entry if all values in it have it, at any depth (`Entry.Carries`),
and in a scope if it holds in all entries that names are looked up among (`Scope.Carries`). Placing,
merging and removing entries make no new values, so they keep it. -/

namespace CaseDict

namespace Entry

mutual

/-- The values of an entry and of all entries in it. -/
def values : Entry → List (List Token)
  | .primitive _ ts => [ts]
  | .dictionary _ es => valuesOf es

def valuesOf : List Entry → List (List Token)
  | [] => []
  | e :: es => e.values ++ valuesOf es

end

theorem mem_valuesOf {v : List Token} {es : List Entry} :
    v ∈ valuesOf es ↔ ∃ e ∈ es, v ∈ e.values := by
  induction es with
  | nil => simp [valuesOf]
  | cons e es ih => simp [valuesOf, ih]

variable {V : List Token → Prop}

/-- All values in the entry have the property. -/
def Carries (V : List Token → Prop) (e : Entry) : Prop := ∀ v ∈ e.values, V v

/-- All values in the entries have the property. -/
abbrev AllCarry (V : List Token → Prop) (es : List Entry) : Prop := ∀ e ∈ es, e.Carries V

theorem carries_primitive {h : Heading} {ts : List Token} :
    (primitive h ts).Carries V ↔ V ts := by simp [Carries, values]

theorem carries_dictionary {h : Heading} {es : List Entry} :
    (dictionary h es).Carries V ↔ AllCarry V es := by
  simp only [Carries, values, mem_valuesOf]
  exact ⟨fun h e he v hv => h v ⟨e, he, hv⟩, fun h v ⟨e, he, hv⟩ => h e he v hv⟩

theorem carries_hereditary : Hereditary (Carries V) where
  inner hd := carries_dictionary.mp hd
  refill _ _ _ hes := carries_dictionary.mpr hes

theorem Carries.withHead {e : Entry} (he : e.Carries V) (h : Heading) :
    (e.withHead h).Carries V := by
  cases e <;> exact he

end Entry

namespace Scope

open Entry

variable {V : List Token → Prop} {s : Scope}

/-- All values have the property, also those in the dictionaries around. Nothing is said of a scope
that is stored, which no text is read into from its beginning. -/
def Carries (V : List Token → Prop) : Scope → Prop
  | fresh es around _ => AllCarry V es ∧ ∀ f ∈ around, AllCarry V f.entries
  | staged es below => AllCarry V es ∧ below.Carries V
  | stored .. => False

theorem carries_nil : (fresh [] []).Carries V := ⟨List.forall_mem_nil _, List.forall_mem_nil _⟩

theorem Carries.entries (h : s.Carries V) : AllCarry V s.entries := by
  cases s with
  | stored => contradiction
  | fresh | staged => exact h.1

theorem Carries.frames (h : s.Carries V) : ∀ f ∈ s.frames, AllCarry V f.entries := by
  induction s with
  | stored => contradiction
  | fresh es around removed => exact List.forall_mem_cons.mpr h
  | staged es below ih => exact List.forall_mem_cons.mpr ⟨h.1, ih h.2⟩

theorem Carries.inner (h : s.Carries V) : s.inner.Carries V := ⟨List.forall_mem_nil _, h.frames⟩

theorem Carries.remove (h : s.Carries V) (rs : List Removal) : (s.remove rs).Carries V := by
  cases s with
  | stored => contradiction
  | fresh | staged => exact ⟨forall_mem_applyAll h.1 rs, h.2⟩

theorem Carries.removeThrough (h : s.Carries V) (rs : List Removal) :
    (s.removeThrough rs).Carries V := by
  induction s with
  | stored => contradiction
  | fresh => exact h.remove rs
  | staged es below ih => exact ⟨forall_mem_applyAll h.1 rs, ih h.2⟩

/-- The scope with other entries, unless it is stored. -/
def refill (es : List Entry) : Scope → Scope
  | fresh _ around removed => fresh es around removed
  | staged _ below => staged es below
  | stored ws d placed removed => stored ws d placed removed

theorem Carries.refill (h : s.Carries V) {es : List Entry} (hes : AllCarry V es) :
    (s.refill es).Carries V := by
  cases s with
  | stored => contradiction
  | fresh | staged => exact ⟨hes, h.2⟩

theorem Carries.entries_refill (h : s.Carries V) (es : List Entry) :
    (s.refill es).entries = es := by
  cases s with
  | stored => contradiction
  | fresh | staged => rfl

/-- Placing an entry in a scope is placing it among its entries. -/
theorem Carries.place_eq (h : s.Carries V) (mode : InputMode) (e : Entry) :
    s.place mode e = match e.place mode s.entries with
      | .ok p => (.ok (p.placed, p.events), s.refill p.entries)
      | .error f => (.error f, s) := by
  cases s with
  | stored => contradiction
  | fresh | staged => rfl

theorem Carries.place (h : s.Carries V) {e : Entry} (he : e.Carries V) (mode : InputMode) :
    (s.place mode e).2.Carries V := by
  rw [h.place_eq]
  cases hp : e.place mode s.entries with
  | error f => exact h
  | ok p => exact h.refill (carries_hereditary.place h.entries he hp)

end Scope

end CaseDict
