import DynLisp.Proofs.Equality
import DynLisp.Proofs.Occurrence
import DynLisp.Value.Printer

/-! Texts of equal values. Equality overlooks the sign of zero and the name of a builtin. The source
text shows of these only the names, the host's look shows both, but the signs not inside of
lambdas. Nothing else tells equal values apart, so long as what has an identity is seen in one
state. -/

namespace DynLisp

namespace Number

theorem sameZeros {x y : Number} (same : x.same y = true) :
    x = y ∨ ∃ s t, x = zero.withSign s ∧ y = zero.withSign t := by
  have cores := (sameCore x y).1 same
  cases x with
  | nan | infinite => cases y <;> simp_all [core]
  | finite s r =>
    cases y with
    | nan | infinite => simp [core] at cores
    | finite t q =>
      obtain ⟨signs, rfl⟩ : (s && r.val != 0) = (t && q.val != 0) ∧ r = q := by
        simpa [core] using cores
      by_cases bottom : r.val = 0
      · obtain rfl : r = ⟨0, by decide⟩ := Fin.ext bottom
        exact .inr ⟨s, t, rfl, rfl⟩
      · refine .inl ?_
        have nonzero : (r.val != 0) = true := bne_iff_ne.2 bottom
        rw [nonzero, Bool.and_true, Bool.and_true] at signs
        rw [signs]

theorem sameSource {x y : Number} (same : x.same y = true) : x.source = y.source := by
  have unsigned (s : Bool) : (zero.withSign s).source = "0" := by cases s <;> rfl
  rcases sameZeros same with rfl | ⟨s, t, rfl, rfl⟩
  · rfl
  · rw [unsigned, unsigned]

theorem numeralFollowed {x y : Number} (same : x.same y = true) (s t : String) :
    x.numeral ++ s = y.numeral ++ t ↔ x.isNegative = y.isNegative ∧ s = t := by
  -- the sign stands before the digits, so no continuation makes up for it
  have apart (s t : String) : "0.0" ++ s ≠ "-0.0" ++ t := fun texts => by
    simpa using congrArg String.toList texts
  rcases sameZeros same with rfl | ⟨a, b, rfl, rfl⟩
  · simp [String.append_right_inj]
  · have shown (c : Bool) : (zero.withSign c).numeral = if c then "-0.0" else "0.0" := by
      cases c <;> rfl
    have sign (c : Bool) : (zero.withSign c).isNegative = c := rfl
    rw [shown, shown, sign, sign]
    cases a <;> cases b <;> simp [String.append_right_inj, apart, (apart _ _).symm]

end Number

namespace Value

def HasIdentity : Value → Prop
  | foreign _ _ => True
  | v => v.IsRaw

/-- What both values hold of one identity is in one state. -/
def Coherent (v w : Value) : Prop :=
  ∀ x y : Value, x.Occurs v → y.Occurs w → x.HasIdentity → x.same y = true → x = y

mutual

/-- Builtins in the same place have the same name. -/
def NamesAgree : Value → Value → Prop
  | builtin f, builtin g => f.name = g.name
  | list vs, list ws => NamesAgreeAll vs ws
  | quote v, quote w => v.NamesAgree w
  | lambda _ vs, lambda _ ws => NamesAgreeAll vs ws
  | _, _ => True

def NamesAgreeAll : List Value → List Value → Prop
  | v :: vs, w :: ws => v.NamesAgree w ∧ NamesAgreeAll vs ws
  | _, _ => True

end

mutual

/-- Numbers in the same place have the same sign; bodies of lambdas are left out. -/
def SignsAgree : Value → Value → Prop
  | number x, number y => x.isNegative = y.isNegative
  | list vs, list ws => SignsAgreeAll vs ws
  | quote v, quote w => v.SignsAgree w
  | _, _ => True

def SignsAgreeAll : List Value → List Value → Prop
  | v :: vs, w :: ws => v.SignsAgree w ∧ SignsAgreeAll vs ws
  | _, _ => True

end

variable {v w : Value} {vs ws : List Value}

theorem Coherent.items (coherent : (list vs).Coherent (list ws)) :
    ∀ v ∈ vs, ∀ w ∈ ws, v.Coherent w :=
  fun _ left _ right x y inside other => coherent x y (.item left inside) (.item right other)

theorem Coherent.forms {params names : List String}
    (coherent : (lambda params vs).Coherent (lambda names ws)) : ∀ v ∈ vs, ∀ w ∈ ws, v.Coherent w :=
  fun _ left _ right x y inside other => coherent x y (.form left inside) (.form right other)

theorem Coherent.payload (coherent : (quote v).Coherent (quote w)) : v.Coherent w :=
  fun x y inside other => coherent x y (.payload inside) (.payload other)

theorem coherentCons (coherent : ∀ a ∈ v :: vs, ∀ b ∈ w :: ws, a.Coherent b) :
    v.Coherent w ∧ ∀ a ∈ vs, ∀ b ∈ ws, a.Coherent b :=
  ⟨coherent v (.head _) w (.head _),
    fun a left b right => coherent a (.tail _ left) b (.tail _ right)⟩

theorem Coherent.itself (coherent : v.Coherent w) (identity : v.HasIdentity)
    (same : v.same w = true) : v = w :=
  coherent v w .here .here identity same

theorem coherentWithin (without : v.Within fun x => ¬ x.HasIdentity) : v.Coherent w := by
  intro x _ inside _ identity _
  refine absurd identity (without x inside ?_)
  cases x <;> trivial

theorem derivedSame (s typeName : String) (w : Value) :
    (derivedText s typeName).same w = (text s).same w := by
  cases w <;> rfl

/-- A text of a class of the host's own looks like the text that it is. -/
theorem textLook {s : String} (same : (text s).same w = true) :
    (text s).source = w.source ∧ (text s).inspect = w.inspect := by
  cases w <;> simp_all [Value.same, source, inspect]

/-- Goes down into the parts of values, and relates opaque ones only where their texts are alike. -/
structure ShowsAlike (R : Value → Value → Prop) : Prop where
  items {vs ws : List Value} (related : R (list vs) (list ws)) : ∀ p ∈ vs.zip ws, R p.1 p.2
  forms {params names : List String} {vs ws : List Value}
    (related : R (lambda params vs) (lambda names ws)) : ∀ p ∈ vs.zip ws, R p.1 p.2
  payload {v w : Value} (related : R (quote v) (quote w)) : R v w
  hidden {v w : Value} (related : R v w) (kept : v.IsOpaque) (same : v.same w = true) :
    v.source = w.source

mutual

theorem alikeSource {R : Value → Value → Prop} (alike : ShowsAlike R) :
    (v w : Value) → R v w → v.same w = true → v.source = w.source
  | number x, w, _, same => by
    cases w with
    | number y => exact Number.sameSource same
    | _ => simp [Value.same] at same
  | list vs, w, related, same => by
    cases w with
    | list ws => rw [source, source, alikeSources alike vs ws (alike.items related) same]
    | _ => simp [Value.same] at same
  | quote v, w, related, same => by
    cases w with
    | quote w => rw [source, source, alikeSource alike v w (alike.payload related) same]
    | _ => simp [Value.same] at same
  | lambda params vs, w, related, same => by
    cases w with
    | lambda others ws =>
      obtain ⟨rfl, bodies⟩ : params = others ∧ sameAll vs ws = true := by
        simpa [Value.same] using same
      rw [source, source, alikeSources alike vs ws (alike.forms related) bodies]
    | _ => simp [Value.same] at same
  | text _, _, _, same => (textLook same).1
  | derivedText s typeName, w, _, same => (textLook (derivedSame s typeName w ▸ same)).1
  | bool _, w, _, same | symbol _, w, _, same | nil, w, _, same | type _, w, _, same => by
    cases w <;> simp_all [Value.same]
  | builtin _, w, related, same | foreign _ _, w, related, same | absent, w, related, same
  | integer _ _, w, related, same | tuple _ _, w, related, same | object _, w, related, same
  | stranger _ _ _, w, related, same | hostQuote _ _, w, related, same =>
    alike.hidden related trivial same

theorem alikeSources {R : Value → Value → Prop} (alike : ShowsAlike R) : (vs ws : List Value) →
    (∀ p ∈ vs.zip ws, R p.1 p.2) → sameAll vs ws = true → sources vs = sources ws
  | [], ws, _, same => by cases ws <;> simp_all [sameAll]
  | v :: vs, ws, related, same => by
    cases ws with
    | nil => simp [sameAll] at same
    | cons w ws =>
      obtain ⟨head, tail⟩ : v.same w = true ∧ sameAll vs ws = true := by simpa [sameAll] using same
      obtain ⟨first, rest⟩ := List.forall_mem_cons.1 related
      rw [sources, sources, alikeSource alike v w first head, alikeSources alike vs ws rest tail]

end

theorem namesAgreePairs (names : NamesAgreeAll vs ws) : ∀ p ∈ vs.zip ws, p.1.NamesAgree p.2 := by
  induction vs generalizing ws with
  | nil => exact nofun
  | cons v vs ih =>
    cases ws with
    | nil => exact nofun
    | cons w ws => exact List.forall_mem_cons.2 ⟨names.1, ih names.2⟩

theorem coherentShowsAlike : ShowsAlike fun v w => v.Coherent w ∧ v.NamesAgree w where
  items := fun ⟨coherent, names⟩ p member =>
    have ⟨left, right⟩ := List.of_mem_zip member
    ⟨coherent.items p.1 left p.2 right, namesAgreePairs names p member⟩
  forms := fun ⟨coherent, names⟩ p member =>
    have ⟨left, right⟩ := List.of_mem_zip member
    ⟨coherent.forms p.1 left p.2 right, namesAgreePairs names p member⟩
  payload := fun ⟨coherent, names⟩ => ⟨coherent.payload, names⟩
  hidden {v w} := fun ⟨coherent, names⟩ kept same => by
    cases v with
    | builtin f =>
      cases w with
      | builtin g => rw [source, source, show f.name = g.name from names]
      | _ => simp [Value.same] at same
    | derivedText s typeName => exact (textLook (derivedSame s typeName w ▸ same)).1
    | foreign | absent | integer | tuple | object | stranger | hostQuote =>
      rw [coherent.itself trivial same]
    | _ => exact kept.elim

theorem sameSource (v w : Value) (same : v.same w = true) (coherent : v.Coherent w)
    (names : v.NamesAgree w) : v.source = w.source :=
  alikeSource coherentShowsAlike v w ⟨coherent, names⟩ same

mutual

-- Stated with what follows, since the items of a list follow each other.
theorem lookFollowed : (v w : Value) → v.same w = true → v.Coherent w → v.NamesAgree w →
    ∀ s t : String, v.inspect ++ s = w.inspect ++ t ↔ v.SignsAgree w ∧ s = t
  | number x, w, same, _, _ => by
    cases w with
    | number y => exact Number.numeralFollowed same
    | _ => simp [Value.same] at same
  | list vs, w, same, coherent, names => by
    cases w with
    | list ws =>
      intro s t
      simp only [inspect, String.append_assoc, String.append_right_inj,
        looksFollowed vs ws same coherent.items names, SignsAgree]
    | _ => simp [Value.same] at same
  | quote v, w, same, coherent, names => by
    cases w with
    | quote w =>
      intro s t
      simp only [inspect, String.append_assoc, String.append_right_inj,
        lookFollowed v w same coherent.payload names, SignsAgree]
    | _ => simp [Value.same] at same
  | lambda params vs, w, same, coherent, names => by
    have alike : (lambda params vs).inspect = w.inspect := by
      cases w with
      | lambda others ws => exact sameSource _ _ same coherent names
      | _ => simp [Value.same] at same
    simp [alike, SignsAgree, String.append_right_inj]
  | builtin f, w, same, _, names => by
    cases w with
    | builtin g =>
      obtain ⟨_, arities⟩ : f.primitive = g.primitive ∧ f.arity = g.arity := by
        simpa [Value.same, Builtin.same] using same
      simp [inspect, Builtin.inspect, arities, show f.name = g.name from names, SignsAgree,
        String.append_right_inj]
    | _ => simp [Value.same] at same
  | text s, w, same, _, _ => by
    simp [(textLook same).2, SignsAgree, String.append_right_inj]
  | derivedText s typeName, w, same, _, _ => by
    rw [derivedSame] at same
    simp [show (derivedText s typeName).inspect = w.inspect from (textLook same).2, SignsAgree,
      String.append_right_inj]
  | bool _, w, same, _, _ | symbol _, w, same, _, _ | nil, w, same, _, _ | type _, w, same, _, _ => by
    cases w <;> simp_all [Value.same, SignsAgree, String.append_right_inj]
  | foreign _ _, w, same, coherent, _ | absent, w, same, coherent, _
  | integer _ _, w, same, coherent, _ | tuple _ _, w, same, coherent, _
  | object _, w, same, coherent, _ | stranger _ _ _, w, same, coherent, _
  | hostQuote _ _, w, same, coherent, _ => by
    simp [← coherent.itself trivial same, SignsAgree, String.append_right_inj]

theorem looksFollowed : (vs ws : List Value) → sameAll vs ws = true →
    (∀ v ∈ vs, ∀ w ∈ ws, v.Coherent w) → NamesAgreeAll vs ws →
    ∀ s t : String, ", ".intercalate (inspections vs) ++ s = ", ".intercalate (inspections ws) ++ t ↔
      SignsAgreeAll vs ws ∧ s = t
  | [], ws, same, _, _ => by
    cases ws with
    | nil => simp [inspections, SignsAgreeAll]
    | cons => simp [sameAll] at same
  | v :: vs, ws, same, coherent, names => by
    cases ws with
    | nil => simp [sameAll] at same
    | cons w ws =>
      obtain ⟨head, tail⟩ : v.same w = true ∧ sameAll vs ws = true := by simpa [sameAll] using same
      have first := lookFollowed v w head (coherentCons coherent).1 names.1
      have rest := looksFollowed vs ws tail (coherentCons coherent).2 names.2
      intro s t
      cases vs with
      | nil =>
        obtain rfl : ws = [] := by cases ws <;> simp_all [sameAll]
        simp [inspections, SignsAgreeAll, first]
      | cons =>
        cases ws with
        | nil => simp [sameAll] at tail
        | cons =>
          simp only [inspections, String.intercalate_cons_cons, String.append_assoc] at rest ⊢
          rw [first, String.append_right_inj, rest]
          exact and_assoc.symm

end

theorem sameLook (same : v.same w = true) (coherent : v.Coherent w) (names : v.NamesAgree w) :
    v.inspect = w.inspect ↔ v.SignsAgree w := by
  simpa using lookFollowed v w same coherent names "" ""

end Value

end DynLisp
