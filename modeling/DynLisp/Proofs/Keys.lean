import DynLisp.Proofs.Look
import DynLisp.Value.Distinct

/-! Keys of equal values, and what a collection keeps. Values that are equal to the host have one
key, except for quotes, whose key is a look: it tells apart payloads that are equal but differ in
the sign of a zero or in the name of a builtin. So a collection keeps one of several equal values,
and of such quotes each. -/

namespace DynLisp.Value

/-- Two quotes of which the look shows a difference that equality overlooks. -/
def LooksApart (a b : Value) : Prop :=
  ∃ v w, a = quote v ∧ b = quote w ∧ ¬ (v.NamesAgree w ∧ v.SignsAgree w)

variable {a b v w : Value} {d : Descriptor} {k l : HashKey} {n : Int}

theorem keyOfSteps (counted : v.hostSteps? = some n) : v.hashKey = .ok (.steps n) := by
  cases v <;> simp_all [hostSteps?, hashKey]

theorem hostEqualTyped (typed : a.descriptor? = some d) : a.hostEqual b = true ↔
    (∃ n, a.hostSteps? = some n ∧ b.hostSteps? = some n) ∨
      (a.hostSteps? = none ∨ b.hostSteps? = none) ∧ a.same b = true := by
  unfold hostEqual
  split
  -- what only the host holds is compared in a way of its own
  case h_1 | h_2 => simp [descriptor?] at typed
  case h_3 =>
    split
    next n m left right => simpa [left, right] using eq_comm
    next uncounted =>
      have other : a.hostSteps? = none ∨ b.hostSteps? = none := by
        cases left : a.hostSteps? with
        | none => exact .inl rfl
        | some n =>
          cases right : b.hostSteps? with
          | none => exact .inr rfl
          | some m => exact absurd right (uncounted n m left)
      simp only [other, true_and]
      refine (or_iff_right ?_).symm
      rintro ⟨n, left, right⟩
      exact uncounted n n left right

theorem hostEqualSelf (typed : v.descriptor? = some d) : v.hostEqual v = true := by
  rw [hostEqualTyped typed, v.sameCore]
  cases v.hostSteps? <;> simp

theorem quoteKeys (coherent : (quote v).Coherent (quote w))
    (equal : (quote v).hostEqual (quote w) = true) (names : v.NamesAgree w) :
    (quote v).hashKey = (quote w).hashKey ↔ v.SignsAgree w := by
  have payloads : v.same w = true := by simpa [hostEqual, hostSteps?, Value.same] using equal
  simp [hashKey, sameLook payloads coherent.payload names]

/-- The key is made of what equality compares, but for the look of a quote. -/
theorem sameKeys (typed : a.descriptor? = some d) (coherent : a.Coherent b) (same : a.same b = true) :
    a.hashKey = b.hashKey ∨ a.LooksApart b := by
  cases a with
  | number x =>
    cases b with
    | number y =>
      rcases Number.sameZeros same with rfl | ⟨s, t, rfl, rfl⟩
      · exact .inl rfl
      · have bottom (s : Bool) : (Number.zero.withSign s).toSteps? = some 0 := by cases s <;> rfl
        simp [hashKey, bottom]
    | _ => simp [Value.same] at same
  | quote v =>
    cases b with
    | quote w =>
      by_cases agree : v.NamesAgree w ∧ v.SignsAgree w
      · have equal : (quote v).hostEqual (quote w) = true := by
          simpa [hostEqual, hostSteps?] using same
        exact .inl ((quoteKeys coherent equal agree.1).2 agree.2)
      · exact .inr ⟨v, w, rfl, rfl, agree⟩
    | _ => simp [Value.same] at same
  | list vs =>
    cases b with
    | list ws => exact .inl rfl
    | _ => simp [Value.same] at same
  | foreign o id => rw [coherent.itself trivial same]; exact .inl rfl
  | bool | symbol | text | derivedText | nil | builtin | lambda | type =>
    cases b <;> simp_all [Value.same, Builtin.same, hashKey]
  | _ => simp [descriptor?] at typed

theorem equalKeys (typed : a.descriptor? = some d) (coherent : a.Coherent b)
    (equal : a.hostEqual b = true) : a.hashKey = b.hashKey ∨ a.LooksApart b := by
  rcases (hostEqualTyped typed).1 equal with ⟨n, left, right⟩ | ⟨_, same⟩
  · exact .inl ((keyOfSteps left).trans (keyOfSteps right).symm)
  · exact sameKeys typed coherent same

/-- An entry joins the others unless one of them has its key and equals it. -/
def record (kept : List (Value × HashKey)) (entry : Value × HashKey) : List (Value × HashKey) :=
  if kept.any fun other => other.2 == entry.2 && other.1.hostEqual entry.1 then kept
  else kept ++ [entry]

theorem distinctRecords (vs : List Value) : distinct vs =
    (hashKeys vs).map fun keys => ((vs.zip keys).foldl record []).map Prod.fst := by
  rw [distinct]
  cases hashKeys vs <;> rfl

theorem hashKeysGive {vs : List Value} (hashable : ∀ v ∈ vs, ∃ k, v.hashKey = .ok k) :
    ∃ entries : List (Value × HashKey), entries.map Prod.fst = vs ∧
      hashKeys vs = .ok (entries.map Prod.snd) ∧
      ∀ entry ∈ entries, entry.1.hashKey = .ok entry.2 := by
  induction vs with
  | nil => exact ⟨[], rfl, rfl, List.forall_mem_nil _⟩
  | cons v vs ih =>
    obtain ⟨k, first⟩ := hashable v (.head _)
    obtain ⟨entries, rfl, keys, exact⟩ := ih fun w member => hashable w (.tail _ member)
    refine ⟨(v, k) :: entries, rfl, ?_, List.forall_mem_cons.2 ⟨first, exact⟩⟩
    rw [hashKeys, first, keys]
    rfl

/-- What a collection keeps of the entries that were put into it. -/
structure Records (entries kept : List (Value × HashKey)) : Prop where
  part : kept.Sublist entries
  represented : ∀ entry ∈ entries, ∃ other ∈ kept,
    other.2 = entry.2 ∧ other.1.hostEqual entry.1 = true
  apart : kept.Pairwise fun e f => e.2 = f.2 → e.1.hostEqual f.1 = false

theorem Records.record {entries kept : List (Value × HashKey)} {entry : Value × HashKey}
    (records : Records entries kept) (reflexive : entry.1.hostEqual entry.1 = true) :
    Records (entries ++ [entry]) (record kept entry) := by
  unfold Value.record
  split
  next present =>
    obtain ⟨other, member, found⟩ := List.any_eq_true.1 present
    refine ⟨records.part.trans (List.sublist_append_left _ _), ?_, records.apart⟩
    intro e inside
    rcases List.mem_append.1 inside with before | last
    · exact records.represented e before
    · obtain rfl := List.mem_singleton.1 last
      exact ⟨other, member, by simpa using found⟩
  next fresh =>
    refine ⟨records.part.append_right _, ?_, ?_⟩
    · intro e inside
      rcases List.mem_append.1 inside with before | last
      · obtain ⟨other, member, found⟩ := records.represented e before
        exact ⟨other, List.mem_append_left _ member, found⟩
      · obtain rfl := List.mem_singleton.1 last
        exact ⟨e, List.mem_append_right _ (.head _), rfl, reflexive⟩
    · refine List.pairwise_append.2 ⟨records.apart, List.pairwise_singleton _ _, ?_⟩
      intro e member f last keys
      obtain rfl := List.mem_singleton.1 last
      simp only [List.any_eq_true, not_exists, not_and] at fresh
      simpa [keys] using fresh e member

theorem Records.foldl {entries kept : List (Value × HashKey)} (records : Records entries kept)
    (rest : List (Value × HashKey)) (reflexive : ∀ e ∈ rest, e.1.hostEqual e.1 = true) :
    Records (entries ++ rest) (rest.foldl Value.record kept) := by
  induction rest generalizing entries kept with
  | nil => simpa using records
  | cons e rest ih =>
    have next := records.record (reflexive e (.head _))
    simpa using ih next fun f member => reflexive f (.tail _ member)

theorem distinctKeeps {vs : List Value} (typed : ∀ v ∈ vs, ∃ d, v.descriptor? = some d)
    (hashable : ∀ v ∈ vs, ∃ k, v.hashKey = .ok k) (coherent : ∀ v ∈ vs, ∀ w ∈ vs, v.Coherent w) :
    ∃ ws : List Value, distinct vs = .ok ws ∧ ws.Sublist vs ∧
      (∀ v ∈ vs, ∃ w ∈ ws, w.hashKey = v.hashKey ∧ w.hostEqual v = true) ∧
      ws.Pairwise fun a b => a.hostEqual b = true → a.LooksApart b := by
  obtain ⟨entries, rfl, keys, keyed⟩ := hashKeysGive hashable
  have start : Records [] [] := ⟨.slnil, List.forall_mem_nil _, .nil⟩
  have records := start.foldl entries fun e member => by
    obtain ⟨d, known⟩ := typed e.1 (List.mem_map_of_mem member)
    exact hostEqualSelf known
  rw [List.nil_append] at records
  refine ⟨_, ?_, records.part.map Prod.fst, ?_, ?_⟩
  · have zipped : (entries.map Prod.fst).zip (entries.map Prod.snd) = entries :=
      (List.zip_of_prod rfl rfl).symm
    rw [distinctRecords, keys, Except.map, zipped]
  · rw [List.forall_mem_map]
    intro e member
    obtain ⟨other, inside, key, equal⟩ := records.represented e member
    refine ⟨other.1, List.mem_map_of_mem inside, ?_, equal⟩
    rw [keyed e member, keyed other (records.part.subset inside), key]
  · refine List.pairwise_map.2 (records.apart.imp_of_mem ?_)
    intro e f left right apart equal
    have left := records.part.subset left
    have right := records.part.subset right
    have first := List.mem_map_of_mem (f := Prod.fst) left
    have second := List.mem_map_of_mem (f := Prod.fst) right
    obtain ⟨d, known⟩ := typed e.1 first
    refine (equalKeys known (coherent _ first _ second) equal).resolve_left fun keys => ?_
    rw [keyed e left, keyed f right] at keys
    injection keys with keys
    simp [apart keys] at equal

/-- Equal values have one key, and of equal values a collection keeps the first one, except where
quotes look different: those whose payloads agree in the names have one key only if they agree in
the signs as well. -/
theorem equalValuesShareKey (vs : List Value) (typed : ∀ v ∈ vs, ∃ d, v.descriptor? = some d)
    (coherent : ∀ v ∈ vs, ∀ w ∈ vs, v.Coherent w) :
    (∀ a ∈ vs, ∀ b ∈ vs, a.hostEqual b = true → a.hashKey = b.hashKey ∨ a.LooksApart b) ∧
    (∀ v w, quote v ∈ vs → quote w ∈ vs → (quote v).hostEqual (quote w) = true →
      v.NamesAgree w → ((quote v).hashKey = (quote w).hashKey ↔ v.SignsAgree w)) ∧
    ((∀ v ∈ vs, ∃ k, v.hashKey = .ok k) →
      ∃ ws : List Value, distinct vs = .ok ws ∧ ws.Sublist vs ∧
        (∀ v ∈ vs, ∃ w ∈ ws, w.hashKey = v.hashKey ∧ w.hostEqual v = true) ∧
        ws.Pairwise fun a b => a.hostEqual b = true → a.LooksApart b) := by
  refine ⟨fun a left b right equal => ?_, fun v w left right => ?_, fun hashable => ?_⟩
  · obtain ⟨d, known⟩ := typed a left
    exact equalKeys known (coherent a left b right) equal
  · exact quoteKeys (coherent _ left _ right)
  · exact distinctKeeps typed hashable coherent

/-- Inside of a lambda the sign of a zero is not shown. -/
theorem quotedLambdasShareKey :
    let v := lambda [] [number Number.zero]
    let w := lambda [] [number Number.zero.neg]
    v ≠ w ∧ (quote v).hashKey = (quote w).hashKey ∧
      ∃ ws : List Value, distinct [quote v, quote w] = .ok ws ∧ ws ≠ [quote v, quote w] := by
  intro v w
  have different : v ≠ w := by
    simp [v, w, Number.zero, Number.neg, Number.withSign, Number.isNegative]
  have equal : (quote v).hostEqual (quote w) = true := by decide
  have agree : v.NamesAgree w ∧ v.SignsAgree w := by
    simp [v, w, NamesAgree, NamesAgreeAll, SignsAgree]
  have plain (b : Bool) : (quote (lambda [] [number (Number.zero.withSign b)])).Within
      fun x => ¬ x.HasIdentity :=
    withinQuote.2 (withinLambda.2 (List.forall_mem_singleton.2 (atomWithin trivial)))
  obtain ⟨_, quotes, collects⟩ := equalValuesShareKey [quote v, quote w]
    (List.forall_mem_cons.2 ⟨⟨_, rfl⟩, List.forall_mem_singleton.2 ⟨_, rfl⟩⟩)
    (List.forall_mem_cons.2 ⟨fun _ _ => coherentWithin (plain false),
      List.forall_mem_singleton.2 fun _ _ => coherentWithin (plain true)⟩)
  have shared := (quotes v w (.head _) (.tail _ (.head _)) equal agree.1).2 agree.2
  obtain ⟨ws, gives, _, _, apart⟩ := collects
    (List.forall_mem_cons.2 ⟨⟨_, rfl⟩, List.forall_mem_singleton.2 ⟨_, rfl⟩⟩)
  refine ⟨different, shared, ws, gives, ?_⟩
  rintro rfl
  obtain ⟨_, _, ⟨⟩, ⟨⟩, disagree⟩ := (List.pairwise_pair.1 apart) equal
  exact disagree agree

/-- Two equal quotes, of the two zeros or of one function under two names, are both kept. -/
theorem equalQuotesKept :
    let a := quote (number Number.zero)
    let b := quote (number Number.zero.neg)
    let f := quote (builtin ⟨"+", .add, .any, false⟩)
    let g := quote (builtin ⟨"plus", .add, .any, false⟩)
    a.hostEqual b = true ∧ a.hashKey ≠ b.hashKey ∧ distinct [a, b] = .ok [a, b] ∧
      f.hostEqual g = true ∧ f.hashKey ≠ g.hashKey ∧ distinct [f, g] = .ok [f, g] := by
  intro a b f g
  have zeros : a.hashKey ≠ b.hashKey := by
    intro keys
    injection keys with keys
    injection keys with looks
    revert looks
    decide
  have names : f.hashKey ≠ g.hashKey := by
    intro keys
    injection keys with keys
    injection keys with looks
    revert looks
    decide
  exact ⟨by decide, zeros, rfl, by decide, names, rfl⟩

end DynLisp.Value
