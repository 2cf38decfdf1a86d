import DynLisp.Value.Basic

/-! Descriptors as patterns. A bare quote leaves open what is quoted, and a bare foreign
descriptor which class its object has; filling these in orders the descriptors. A descriptor
accepts what arises from it in this way, and it also accepts a quote that is left open where it
says itself what is quoted. The descriptors of values leave nothing open. -/

namespace DynLisp.Descriptor

/-- The second is the first with open positions filled in. -/
inductive Fills : Descriptor → Descriptor → Prop where
  | same (d) : Fills d d
  | payload (d) : Fills quote (quoteOf d)
  | object (id) : Fills foreign (foreignOf id)
  | inside {d e} (h : Fills d e) : Fills (quoteOf d) (quoteOf e)

/-- A quote, at whatever depth, that does not say what is quoted. -/
def EndsBare : Descriptor → Prop
  | quote => True
  | quoteOf d => d.EndsBare
  | _ => False

variable {p q r : Descriptor}

theorem fillsInside {d e : Descriptor} : Fills (quoteOf d) (quoteOf e) ↔ Fills d e := by
  constructor
  · intro h
    cases h with
    | same => exact .same d
    | inside h => exact h
  · exact .inside

theorem Fills.trans (left : Fills p q) (right : Fills q r) : Fills p r := by
  induction left generalizing r with
  | same => exact right
  | payload d =>
    cases right with
    | same => exact .payload d
    | inside => exact .payload _
  | object id =>
    cases right with
    | same => exact .object id
  | @inside d e h ih =>
    cases right with
    | same => exact .inside h
    | inside further => exact .inside (ih further)

theorem Fills.antisymm (left : Fills p q) (right : Fills q p) : p = q := by
  induction left with
  | same => rfl
  | payload => cases right
  | object => cases right
  | inside _ ih => rw [ih (fillsInside.1 right)]

/-- What an open quote is filled in to is a quote, so it is only ever another one that it accepts. -/
theorem Fills.comparable (left : Fills p q) (right : Fills r q) (bare : r.EndsBare)
    (closed : ¬ q.EndsBare) : Fills p r ∨ Fills r p := by
  induction right generalizing p with
  | same => exact absurd bare closed
  | payload d =>
    cases left with
    | same => exact .inr (.payload d)
    | payload => exact .inl (.same _)
    | @inside c => exact .inr (.payload c)
  | object => exact bare.elim
  | @inside d e h ih =>
    cases left with
    | same => exact .inr (.inside h)
    | payload => exact .inl (.payload d)
    | inside other => exact (ih other bare closed).imp .inside .inside

theorem acceptsIff (p q : Descriptor) :
    p.accepts q = true ↔ Fills p q ∨ q.EndsBare ∧ Fills q p := by
  induction p, q using accepts.induct with
  | case1 => exact iff_of_true rfl (.inl (.same _))
  | case2 d => exact iff_of_true rfl (.inl (.payload d))
  | case3 d => exact iff_of_true rfl (.inr ⟨trivial, .payload d⟩)
  | case4 d e ih => rw [accepts, ih, fillsInside, fillsInside, EndsBare]
  | case5 => exact iff_of_true rfl (.inl (.same _))
  | case6 id => exact iff_of_true rfl (.inl (.object id))
  | case7 d e =>
    have onlySame : d.accepts e = true ↔ d = e := by
      rw [accepts] <;> simp_all
    rw [onlySame]
    constructor
    · rintro rfl
      exact .inl (.same d)
    · rintro (h | ⟨bare, h⟩) <;> cases h <;> simp_all [EndsBare]

theorem acceptsClosed (closed : ¬ q.EndsBare) : p.accepts q = true ↔ Fills p q := by
  rw [acceptsIff]
  exact or_iff_left fun bare => closed bare.1

theorem acceptsTrans (closed : ¬ q.EndsBare) (left : p.accepts q = true)
    (right : q.accepts r = true) : p.accepts r = true := by
  have filled := (acceptsClosed closed).1 left
  rw [acceptsIff] at right ⊢
  rcases right with further | ⟨bare, back⟩
  · exact .inl (filled.trans further)
  · exact (filled.comparable back bare closed).imp_right fun h => ⟨bare, h⟩

theorem acceptsForeign : p.accepts foreign = true ↔ p = foreign := by
  rw [acceptsClosed id]
  constructor
  · intro h
    cases h
    rfl
  · rintro rfl
    exact .same _

theorem descriptorClosed {v : Value} {d : Descriptor} (typed : v.descriptor? = some d) :
    ¬ d.EndsBare := by
  induction v using Value.descriptor?.induct generalizing d with
  | case8 v ih =>
    obtain ⟨e, inner, rfl⟩ := Option.map_eq_some_iff.1 typed
    exact fun bare => ih inner bare
  | case13 v =>
    rw [Value.descriptor?] at typed <;> simp_all
  | _ =>
    cases typed
    exact id

/-- Accepting is filling in, which is an order, except where a quote is left open on the right that
the left side fills in. No value has such a descriptor, so of the type of a value the order holds as
it stands. -/
theorem acceptsByFilling (p q : Descriptor) :
    ((p.accepts q = true ↔ Fills p q) ↔ ¬ (q.EndsBare ∧ Fills q p ∧ p ≠ q)) ∧
    (p.accepts q = true ↔ Fills p q ∨ q.EndsBare ∧ Fills q p) ∧
    (p = q → p.accepts q = true) ∧
    (¬ q.EndsBare → ∀ r : Descriptor, p.accepts q = true → q.accepts r = true →
      p.accepts r = true) ∧
    (¬ p.EndsBare → ¬ q.EndsBare → p.accepts q = true → q.accepts p = true → p = q) ∧
    (p.accepts foreign = true ↔ p = foreign) ∧
    ∀ v : Value, v.descriptor? = some q → (p.accepts q = true ↔ Fills p q) := by
  refine ⟨?_, acceptsIff p q, ?_, fun closed r => acceptsTrans closed, ?_, acceptsForeign,
    fun v typed => acceptsClosed (descriptorClosed typed)⟩
  · rw [acceptsIff]
    constructor
    · rintro meets ⟨bare, back, different⟩
      exact different ((meets.1 (.inr ⟨bare, back⟩)).antisymm back)
    · intro agrees
      refine or_iff_left_of_imp ?_
      rintro ⟨bare, back⟩
      by_cases same : p = q
      · rw [same]
        exact .same q
      · exact absurd ⟨bare, back, same⟩ agrees
  · rintro rfl
    exact (acceptsIff p p).2 (.inl (.same p))
  · intro left right there back
    exact ((acceptsClosed right).1 there).antisymm ((acceptsClosed left).1 back)

theorem quotedObjectAccepted :
    let v : Value := .quote (.foreign ⟨0, .base 0 "Point" [], []⟩ 3)
    v.descriptor? = some (quoteOf (foreignOf 3)) ∧
      Fills (quoteOf foreign) (quoteOf (foreignOf 3)) ∧ ¬ (quoteOf foreign).EndsBare ∧
      quote.accepts (quoteOf foreign) = true ∧ quote.accepts (quoteOf (foreignOf 3)) = true := by
  intro v
  have typed : v.descriptor? = some (quoteOf (foreignOf 3)) := rfl
  obtain ⟨_, _, _, _, _, _, values⟩ := acceptsByFilling (quoteOf foreign) (quoteOf (foreignOf 3))
  obtain ⟨_, _, _, transitive, _⟩ := acceptsByFilling quote (quoteOf foreign)
  exact ⟨typed, (values v typed).1 rfl, id, rfl, transitive id (quoteOf (foreignOf 3)) rfl rfl⟩

/-- Accepting what is left open, a quote of a text leads on to a quote of a truth value. -/
theorem payloadAcceptsBare :
    let p := quoteOf text
    p.accepts quote = true ∧ ¬ Fills p quote ∧ quote.accepts p = true ∧ p ≠ quote ∧
      quote.accepts (quoteOf bool) = true ∧ p.accepts (quoteOf bool) = false := by
  intro p
  have unfilled : ¬ Fills (quoteOf text) quote := by
    intro h
    cases h
  have different : quoteOf text ≠ quote := by decide
  exact ⟨rfl, unfilled, rfl, different, rfl, rfl⟩

end DynLisp.Descriptor
