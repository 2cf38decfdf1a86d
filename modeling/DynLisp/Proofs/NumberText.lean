import DynLisp.Number.Decimal
import DynLisp.Proofs.Characters

/-! The texts of numbers, with the decimal each stands for: digits of any script, a point
and more digits, an exponent, and a minus sign before all of it. Reading such a text gives
the number nearest to the decimal. -/

namespace DynLisp

open Piece Decimal

inductive ExponentText : List Char → Int → Prop where
  | none : ExponentText [] 0
  | plain {e ds} (mark : e = 'e' ∨ e = 'E') (some : ds ≠ []) (digits : ∀ d ∈ ds, isDigit d = true) :
      ExponentText (e :: ds) (digitsValue ds)
  | plus {e ds} (mark : e = 'e' ∨ e = 'E') (some : ds ≠ []) (digits : ∀ d ∈ ds, isDigit d = true) :
      ExponentText (e :: '+' :: ds) (digitsValue ds)
  | minus {e ds} (mark : e = 'e' ∨ e = 'E') (some : ds ≠ [])
      (digits : ∀ d ∈ ds, isDigit d = true) :
      ExponentText (e :: '-' :: ds) (-(digitsValue ds : Int))

inductive UnsignedText (negative : Bool) : List Char → Decimal → Prop where
  | whole {ds exponent e} (some : ds ≠ []) (digits : ∀ d ∈ ds, isDigit d = true)
      (rest : ExponentText exponent e) :
      UnsignedText negative (ds ++ exponent) ⟨negative, digitsValue ds, e⟩
  | point {ds fs exponent e} (some : ds ≠ []) (digits : ∀ d ∈ ds, isDigit d = true)
      (fraction : ∀ d ∈ fs, isDigit d = true) (rest : ExponentText exponent e) :
      UnsignedText negative (ds ++ '.' :: (fs ++ exponent))
        ⟨negative, digitsValue (ds ++ fs), e - fs.length⟩

inductive NumberText : List Char → Decimal → Prop where
  | plain {cs d} (unsigned : UnsignedText false cs d) : NumberText cs d
  | minus {cs d} (unsigned : UnsignedText true cs d) : NumberText ('-' :: cs) d

theorem digitNe {c d : Char} (h : isDigit c = true) (other : isDigit d = false) : c ≠ d := by
  rintro rfl
  simp [other] at h

def isNumberChar (c : Char) : Bool := isDigit c || ['.', 'e', 'E', '+', '-'].contains c

theorem numberCharOutside {p : Char → Bool} (digits : ∀ c, isDigit c = true → p c = false)
    (marks : ['.', 'e', 'E', '+', '-'].any p = false) {c : Char}
    (h : isNumberChar c = true) : p c = false := by
  rcases (Bool.or_eq_true _ _).mp h with digit | mark
  · exact digits c digit
  · exact Bool.eq_false_iff.2 (List.any_eq_false.1 marks c (List.contains_iff_mem.1 mark))

theorem digitNotMargin {c : Char} (h : isDigit c = true) : Number.isMargin c = false := by
  cases blank : isBlank c with
  | true => simp [blankNotDigit blank] at h
  | false => simp [Number.isMargin, blank]

theorem digitNotUnderscore {c : Char} (h : isDigit c = true) : (c == '_') = false := by
  simpa using digitNe h (by decide)

theorem digitToLower {c : Char} (h : isDigit c = true) : c.toLower = c := by
  obtain ⟨start, member, low, high⟩ := digitStart h
  have far : ∀ start ∈ digitZeros, start = 48 ∨ 1000 < start := by decide
  have apart := far start member
  unfold Char.toLower
  split
  · rename_i upper
    have range : 65 ≤ c.toNat ∧ c.toNat ≤ 90 := by
      simpa [UInt32.le_iff_toNat_le] using upper
    omega
  · rfl

theorem exponentChars {cs : List Char} {e : Int} (h : ExponentText cs e) :
    ∀ c ∈ cs, isNumberChar c = true := by
  have digit {ds : List Char} (digits : ∀ d ∈ ds, isDigit d = true) :
      ∀ d ∈ ds, isNumberChar d = true := fun d member => by simp [isNumberChar, digits d member]
  cases h with
  | none => simp
  | plain mark _ digits =>
    rintro c (_ | ⟨_, member⟩)
    · rcases mark with rfl | rfl <;> decide
    · exact digit digits c member
  | plus mark _ digits | minus mark _ digits =>
    rintro c (_ | ⟨_, _ | ⟨_, member⟩⟩)
    · rcases mark with rfl | rfl <;> decide
    · decide
    · exact digit digits c member

theorem unsignedChars {negative : Bool} {cs : List Char} {d : Decimal}
    (h : UnsignedText negative cs d) : ∀ c ∈ cs, isNumberChar c = true := by
  intro c member
  cases h with
  | whole _ digits rest =>
    rcases List.mem_append.1 member with inside | inside
    · simp [isNumberChar, digits c inside]
    · exact exponentChars rest c inside
  | point _ digits fraction rest =>
    rcases List.mem_append.1 member with inside | inside
    · simp [isNumberChar, digits c inside]
    · rcases List.mem_cons.1 inside with rfl | inside
      · decide
      · rcases List.mem_append.1 inside with inside | inside
        · simp [isNumberChar, fraction c inside]
        · exact exponentChars rest c inside

theorem unsignedHead {negative : Bool} {cs : List Char} {d : Decimal}
    (h : UnsignedText negative cs d) : ∃ c rest, cs = c :: rest ∧ isDigit c = true := by
  cases h with
  | @whole ds _ _ some digits _ | @point ds _ _ _ some digits _ _ =>
    obtain ⟨c, ds, rfl⟩ := List.exists_cons_of_ne_nil some
    exact ⟨c, _, rfl, digits c List.mem_cons_self⟩

theorem exponentStops {cs : List Char} {e : Int} (h : ExponentText cs e) :
    Stops isDigit cs ∧ cs.head? ≠ some '.' := by
  have other : isDigit 'e' = false ∧ isDigit 'E' = false := by decide
  cases h with
  | none => exact ⟨nofun, nofun⟩
  | plain mark | plus mark | minus mark =>
    rcases mark with rfl | rfl <;> simp [Stops, other]

theorem exponentRead {cs : List Char} {e : Int} (h : ExponentText cs e) :
    exponent? cs = some e := by
  have allDigits {ds : List Char} (digits : ∀ d ∈ ds, isDigit d = true) :
      ds.all isDigit = true := List.all_eq_true.2 digits
  cases h with
  | none => rfl
  | @plain e ds mark some digits =>
    obtain ⟨d, ds, rfl⟩ := List.exists_cons_of_ne_nil some
    have digit := digits d List.mem_cons_self
    have notMinus : d ≠ '-' := digitNe digit (by decide)
    have notPlus : d ≠ '+' := digitNe digit (by decide)
    rcases mark with rfl | rfl <;> simp [exponent?, allDigits digits, notMinus, notPlus]
  | plus mark some digits =>
    rcases mark with rfl | rfl <;> simp [exponent?, allDigits digits, some]
  | minus mark some digits =>
    rcases mark with rfl | rfl <;> simp [exponent?, allDigits digits, some]

theorem unsignedRead {negative : Bool} {cs : List Char} {d : Decimal}
    (h : UnsignedText negative cs d) : unsigned? negative cs = some d := by
  cases h with
  | @whole ds exponent e some digits rest =>
    obtain ⟨stops, noPoint⟩ := exponentStops rest
    have take := takeWhileRun digits stops
    have drop := dropWhileRun digits stops
    unfold unsigned?
    rw [take, drop]
    split
    rename_i fraction rest parts
    split at parts
    · simp at noPoint
    · cases parts
      simp [some, exponentRead rest]
  | @point ds fs exponent e some digits fraction rest =>
    have stop : Stops isDigit ('.' :: (fs ++ exponent)) := by
      rintro c ⟨⟩
      decide
    obtain ⟨stops, _⟩ := exponentStops rest
    unfold unsigned?
    simp only [takeWhileRun digits stop, dropWhileRun digits stop, takeWhileRun fraction stops,
      dropWhileRun fraction stops, exponentRead rest]
    simp [some]

theorem withoutSeparatorsSame {cs : List Char} (plain : ∀ c ∈ cs, (c == '_') = false)
    (afterDigit : Bool) : withoutSeparators? afterDigit cs = some cs := by
  induction cs generalizing afterDigit with
  | nil => rfl
  | cons c cs ih =>
    have first := plain c List.mem_cons_self
    have rest := ih (fun d member => plain d (List.mem_cons_of_mem c member)) (isDigit c)
    unfold withoutSeparators?
    split
    · contradiction
    · rename_i same
      cases same
      simp at first
    · rename_i same
      cases same
      simp [first, rest]

theorem dropWhileNone {p : Char → Bool} {cs : List Char} (none : ∀ c ∈ cs, p c = false) :
    cs.dropWhile p = cs := by
  cases cs with
  | nil => rfl
  | cons c cs => simp [none c List.mem_cons_self]

theorem digitNoWord {negative : Bool} {c : Char} {cs : List Char} (h : isDigit c = true) :
    Number.ofWord? negative (c :: cs) = none := by
  have first : (c :: cs).map Char.toLower = c :: cs.map Char.toLower := by
    rw [List.map_cons, digitToLower h]
  have differs (d : Char) (ds : List Char) (other : isDigit d = false) :
      String.ofList (c :: cs.map Char.toLower) ≠ String.ofList (d :: ds) := by
    intro same
    rw [String.ofList_inj, List.cons.injEq] at same
    exact digitNe h other same.1
  unfold Number.ofWord?
  rw [first]
  split
  · rename_i same
    exact absurd same (differs 'i' ['n', 'f'] (by decide))
  · rename_i same
    exact absurd same (differs 'i' ['n', 'f', 'i', 'n', 'i', 't', 'y'] (by decide))
  · rename_i same
    exact absurd same (differs 'n' ['a', 'n'] (by decide))
  · rfl

theorem numberChars {cs : List Char} {d : Decimal} (h : NumberText cs d) :
    ∀ c ∈ cs, isNumberChar c = true := by
  cases h with
  | plain unsigned => exact unsignedChars unsigned
  | minus unsigned =>
    rintro c (_ | ⟨_, member⟩)
    · decide
    · exact unsignedChars unsigned c member

theorem numberTextRead {cs : List Char} {d : Decimal} (h : NumberText cs d) :
    Number.ofText? (String.ofList cs) = some d.toNumber := by
  have plain {c : Char} (char : isNumberChar c = true) : (c == '_') = false :=
    numberCharOutside (fun _ => digitNotUnderscore) (by decide) char
  have inner : ((cs.dropWhile Number.isMargin).reverse.dropWhile Number.isMargin).reverse = cs := by
    have margin : ∀ c ∈ cs, Number.isMargin c = false := fun c member =>
      numberCharOutside (fun _ => digitNotMargin) (by decide) (numberChars h c member)
    rw [dropWhileNone margin, dropWhileNone (by simpa using margin), List.reverse_reverse]
  unfold Number.ofText?
  simp only [String.toList_ofList, inner]
  cases h with
  | plain unsigned =>
    obtain ⟨c, rest, same, digit⟩ := unsignedHead unsigned
    have notMinus : c ≠ '-' := digitNe digit (by decide)
    have notPlus : c ≠ '+' := digitNe digit (by decide)
    have separated := withoutSeparatorsSame (fun c member => plain (unsignedChars unsigned c member))
    have read := unsignedRead unsigned
    subst same
    simp [notMinus, notPlus, digitNoWord digit, separated, read]
  | minus unsigned =>
    obtain ⟨c, rest, same, digit⟩ := unsignedHead unsigned
    have separated := withoutSeparatorsSame (fun c member => plain (unsignedChars unsigned c member))
    have read := unsignedRead unsigned
    subst same
    simp [digitNoWord digit, separated, read]

end DynLisp
