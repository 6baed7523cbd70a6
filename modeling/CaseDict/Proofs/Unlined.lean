import CaseDict.Proofs.Framing
import CaseDict.Proofs.RoundTrip
/-! # Entries on other lines

Lines are noted but never asked for: looking up, removing, copying, merging and placing entries does
the same to entries that differ in their lines only. -/

namespace CaseDict

open Entry

variable {e e' : Entry} {es es' : List Entry}

theorem Heading.failure?_unlined (h : Heading) :
    h.unlined.failure?.isSome = h.failure?.isSome := by
  unfold failure? unlined
  cases h.isPattern <;> simp

namespace Entry

theorem unlinedAll_eq_map (es : List Entry) : unlinedAll es = es.map unlined := by
  induction es with
  | nil => rfl
  | cons e es ih => rw [unlinedAll, ih, List.map_cons]

@[simp] theorem head_unlined (e : Entry) : e.unlined.head = e.head.unlined := by
  cases e <;> simp [unlined, head]

@[simp] theorem keyword_unlined (e : Entry) : e.unlined.keyword = e.keyword := by
  cases e <;> simp [unlined, keyword, head, Heading.unlined]

@[simp] theorem isDictionary_unlined (e : Entry) : e.unlined.isDictionary = e.isDictionary := by
  cases e <;> simp [unlined, isDictionary]

@[simp] theorem isNamed_unlined (h : Heading) (name : String) :
    h.unlined.isNamed name = h.isNamed name := rfl

@[simp] theorem isMatched_unlined (h : Heading) (name : String) :
    h.unlined.isMatched name = h.isMatched name := rfl

theorem filter_unlined (es : List Entry) (keep : String → Bool) :
    unlinedAll (es.filter fun e => keep e.keyword) =
      (unlinedAll es).filter fun e => keep e.keyword := by
  rw [unlinedAll_eq_map, unlinedAll_eq_map, List.filter_map]
  simp [Function.comp_def]

theorem without_unlined (keyword : String) (es : List Entry) :
    without keyword (unlinedAll es) = unlinedAll (without keyword es) :=
  (filter_unlined es (· != keyword)).symm

theorem newest?_unlined (keyword : String) (es : List Entry) :
    newest? keyword (unlinedAll es) = (newest? keyword es).map unlined := by
  unfold newest?
  rw [unlinedAll_eq_map, ← List.map_reverse, List.find?_map]
  simp only [Function.comp_def, keyword_unlined]

theorem unlinedAll_append (es es' : List Entry) :
    unlinedAll (es ++ es') = unlinedAll es ++ unlinedAll es' := by
  simp [unlinedAll_eq_map]

theorem changeLast_unlined {change change' : Entry → Option Entry} {es : List Entry}
    (h : ∀ e ∈ es, change' e.unlined = (change e).map unlined) :
    changeLast change' (unlinedAll es) = (changeLast change es).map unlinedAll := by
  induction es with
  | nil => rfl
  | cons e es ih =>
    obtain ⟨he, hes⟩ := List.forall_mem_cons.mp h
    rw [unlinedAll, changeLast, changeLast, ih hes, he]
    cases changeLast change es with
    | some rest => rfl
    | none => cases change e <;> rfl

/-! ### Merging -/

theorem unlined_mergedHead (h h' : Heading) : (mergedHead h h').unlined = h.unlined := by
  unfold mergedHead
  split <;> rfl

theorem mergedHead_unlined (h h' : Heading) : mergedHead h.unlined h'.unlined = h.unlined := by
  have hend : h'.unlined.endLine = -1 := rfl
  rw [mergedHead, hend, if_neg (by decide)]

theorem findNamed_unlined (name : String) (es : List Entry) :
    (unlinedAll es).reverse.find? (·.head.isNamed name) =
      (es.reverse.find? (·.head.isNamed name)).map unlined := by
  rw [unlinedAll_eq_map, ← List.map_reverse, List.find?_map]
  simp [Function.comp_def]

mutual

theorem mergeAll_unlined : ∀ (own es : List Entry),
    mergeAll (unlinedAll own) (unlinedAll es) = unlinedAll (mergeAll own es)
  | own, [] => rfl
  | own, e :: es => by
    rw [unlinedAll, mergeAll, mergeAll, mergeOne_unlined own e, mergeAll_unlined _ es]

theorem mergeOne_unlined : ∀ (own : List Entry) (e : Entry),
    mergeOne (unlinedAll own) e.unlined = unlinedAll (mergeOne own e)
  | own, .primitive h ts => by
    rw [unlined, mergeOne, mergeOne, unlinedAll_append, ← without_unlined]
    rfl
  | own, .dictionary h es => by
    have hreplaced : without h.keyword (unlinedAll own) ++ [.dictionary h.unlined (unlinedAll es)] =
        unlinedAll (without h.keyword own ++ [.dictionary h es]) := by
      rw [unlinedAll_append, ← without_unlined]
      rfl
    have hmerged : changeLast (fun e => if e.head.isNamed h.keyword then e.inner?.map fun inner =>
          dictionary (mergedHead e.head h.unlined) (mergeAll inner (unlinedAll es)) else none)
        (unlinedAll own) =
      (changeLast (fun e => if e.head.isNamed h.keyword then e.inner?.map fun inner =>
          dictionary (mergedHead e.head h) (mergeAll inner es) else none) own).map unlinedAll := by
      refine changeLast_unlined fun e _ => ?_
      cases e with
      | primitive k ts => cases hk : k.isNamed h.keyword <;> simp [unlined, head, inner?, hk]
      | dictionary k inner =>
        cases hk : k.isNamed h.keyword with
        | true =>
          simp only [unlined, head, inner?, isNamed_unlined, hk, if_true, Option.map_some,
            mergeAll_unlined inner es, mergedHead_unlined, unlined_mergedHead]
        | false => simp [unlined, head, hk]
    rw [unlined, mergeOne, mergeOne, show h.unlined.keyword = h.keyword from rfl, findNamed_unlined,
      hmerged]
    cases own.reverse.find? (·.head.isNamed h.keyword) with
    | none => exact hreplaced
    | some found =>
      cases found with
      | primitive => exact hreplaced
      | dictionary =>
        simp only [Option.map_some, unlined]
        cases changeLast _ own with
        | none => exact hreplaced
        | some merged => rfl

end

theorem merge_unlined (own other : Entry) :
    merge own.unlined other.unlined = (merge own other).unlined := by
  cases own <;> cases other <;>
    simp [merge, unlined, mergeAll_unlined, mergedHead_unlined, unlined_mergedHead]

theorem mergeNewest_unlined (e : Entry) (es : List Entry) :
    mergeNewest e.unlined (unlinedAll es) = unlinedAll (mergeNewest e es) := by
  unfold mergeNewest
  rw [changeLast_unlined]
  · cases changeLast _ es <;> rfl
  · intro old _
    rw [keyword_unlined, keyword_unlined, merge_unlined]
    split <;> rfl

/-! ### Placing -/

/-- What a dictionary holds after an entry was placed, if it could be placed. -/
theorem place_unlined (mode : InputMode) (es : List Entry) (e : Entry) :
    (place mode (unlinedAll es) e.unlined).toOption.map Placed.entries =
      (place mode es e).toOption.map fun p => unlinedAll p.entries := by
  have happend (es : List Entry) : unlinedAll es ++ [e.unlined] = unlinedAll (es ++ [e]) := by
    rw [unlinedAll_append]
    rfl
  unfold place
  rw [keyword_unlined, newest?_unlined]
  cases newest? e.keyword es with
  | none => exact congrArg some (happend es)
  | some old =>
    rw [Option.map_some]
    dsimp only
    rw [isDictionary_unlined, isDictionary_unlined]
    cases mode.placement (old.isDictionary && e.isDictionary) with
    | append => exact congrArg some (happend es)
    | merge => exact congrArg some (mergeNewest_unlined e es)
    | replace =>
      refine congrArg some ?_
      dsimp only
      rw [without_unlined]
      exact happend _
    | ignore => rfl
    | refuse => rfl

theorem lookup_isSome {known known' : List (String × Int)}
    (h : known'.map Prod.fst = known.map Prod.fst) (keyword : String) :
    (known'.lookup keyword).isSome = (known.lookup keyword).isSome := by
  induction known generalizing known' with
  | nil =>
    obtain rfl := List.map_eq_nil_iff.mp h
    rfl
  | cons p known ih =>
    obtain ⟨q, known', rfl, hq, hknown⟩ := List.map_eq_cons_iff.mp h
    obtain ⟨⟨k, line⟩, ⟨_, line'⟩⟩ := p, q
    obtain rfl := hq
    rw [List.lookup_cons, List.lookup_cons]
    cases keyword == _ with
    | true => rfl
    | false => exact ih hknown

/-- Whether a keyword is new does not depend on lines. -/
theorem checkNew_unlined {known known' : List (String × Int)} {es es' : List Entry}
    (hknown : known'.map Prod.fst = known.map Prod.fst)
    (h : es'.map keyword = es.map keyword) (hok : checkNew known es = .ok ()) :
    checkNew known' es' = .ok () := by
  induction es generalizing known known' es' with
  | nil =>
    obtain rfl := List.map_eq_nil_iff.mp h
    rfl
  | cons e es ih =>
    obtain ⟨e', es', rfl, he, hes⟩ := List.map_eq_cons_iff.mp h
    have hlookup := lookup_isSome hknown e.keyword
    rw [checkNew] at hok
    cases hl : known.lookup e.keyword with
    | some line =>
      rw [hl] at hok
      contradiction
    | none =>
      rw [hl] at hok hlookup
      have hnone : known'.lookup e.keyword = none := by simpa using hlookup
      rw [checkNew, he, hnone]
      exact ih (by simp [hknown]) hes hok

/-! ### Copying and looking up -/

mutual

theorem headings_unlined : ∀ e : Entry, headings e.unlined = (headings e).map Heading.unlined
  | .primitive h ts => rfl
  | .dictionary h es => by
    rw [unlined, headings, headings, headingsOf_unlined es, List.map_cons]

theorem headingsOf_unlined : ∀ es : List Entry,
    headingsOf (unlinedAll es) = (headingsOf es).map Heading.unlined
  | [] => rfl
  | e :: es => by
    rw [unlinedAll, headingsOf, headingsOf, headings_unlined e, headingsOf_unlined es,
      List.map_append]

end

/-- Whether a pattern is malformed does not depend on lines. -/
theorem findSome?_failure?_unlined (hs : List Heading) :
    ((hs.map Heading.unlined).findSome? Heading.failure?).isSome =
      (hs.findSome? Heading.failure?).isSome := by
  induction hs with
  | nil => rfl
  | cons h hs ih =>
    rw [List.map_cons, List.findSome?_cons, List.findSome?_cons]
    have hsome := h.failure?_unlined
    cases hf : h.failure? with
    | none =>
      have hnone : h.unlined.failure? = none := by simpa [hf] using hsome
      rw [hnone]
      exact ih
    | some f =>
      rw [hf] at hsome
      obtain ⟨f', hf'⟩ := Option.isSome_iff_exists.mp hsome
      rw [hf']
      rfl

theorem find_unlined (name : String) (es : List Entry) :
    Lookup.find inspection name (unlinedAll es) = (Lookup.find inspection name es).map unlined := by
  have hfind (p : Heading → Bool) (hp : ∀ h : Heading, p h.unlined = p h) :
      (unlinedAll es).reverse.find? (fun e => p e.head) =
        (es.reverse.find? fun e => p e.head).map unlined := by
    rw [unlinedAll_eq_map, ← List.map_reverse, List.find?_map]
    simp only [Function.comp_def, head_unlined, hp]
  unfold Lookup.find Lookup.findNamed Lookup.findMatched
  dsimp only [inspection]
  rw [hfind (·.isNamed name) fun _ => rfl, hfind (·.isMatched name) fun _ => rfl]
  cases es.reverse.find? fun e => e.head.isNamed name <;> rfl

theorem find_corresponds (h : unlinedAll es' = unlinedAll es) :
    Lookup.Corresponds (fun e e' => e'.unlined = e.unlined) es es' := by
  intro name
  have hfind := find_unlined name es'
  rw [h, find_unlined name es] at hfind
  cases hf : Lookup.find inspection name es <;> cases hf' : Lookup.find inspection name es' <;>
    rw [hf, hf'] at hfind
  · exact .none
  · contradiction
  · contradiction
  · exact .some (Option.some.inj hfind).symm

end Entry

end CaseDict
