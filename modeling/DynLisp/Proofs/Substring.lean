import DynLisp.Proofs.Settled

/-! Pieces of texts. A bound stands for a place between the characters, and a piece is the run of
characters between two places. To cut a text at a bound and to put both pieces together gives
the text again, wherever the bound lies. -/

namespace DynLisp

open Evaluator

namespace Library

/-- The place that a bound stands for: counted from the end if the bound is below zero, and never
outside of the text. -/
def place (length : Nat) (bound : Int) : Int :=
  max 0 (min length (if bound < 0 then bound + length else bound))

/-- The characters of the text from the first place up to the other; none if that is not after it. -/
def IsRun (s piece : String) (first past : Int) : Prop :=
  (past ≤ first → piece = "") ∧
    (first < past → ∃ front back, s = front ++ piece ++ back ∧ front.length = first ∧
      (front ++ piece).length = past)

theorem clampPlace (length : Nat) (bound : Int) : clamp length bound = place length bound := by
  unfold clamp place
  split <;> omega

theorem clampWithin (length : Nat) (bound : Int) : clamp length bound ≤ length := by
  have := clampPlace length bound
  unfold place at this
  omega

theorem takeRun (s : String) (first : Nat) {past : Nat} (within : past ≤ s.length) :
    IsRun s (.ofList ((s.toList.drop first).take (past - first))) first past := by
  have length : s.toList.length = s.length := String.length_toList
  constructor
  · intro empty
    rw [Nat.sub_eq_zero_of_le (by omega), List.take_zero, String.ofList_nil]
  · intro some
    refine ⟨.ofList (s.toList.take first), .ofList (s.toList.drop past), ?_, ?_, ?_⟩
    · have parts : s.toList = s.toList.take first ++ (s.toList.drop first).take (past - first) ++
          s.toList.drop past := by
        rw [← List.take_add, Nat.add_sub_cancel' (by omega), List.take_append_drop]
      rw [← String.ofList_append, ← String.ofList_append, ← parts, String.ofList_toList]
    · simp
      omega
    · simp
      omega

theorem sliceFrom (s : String) (start : Int) :
    IsRun s (slice s start none) (place s.length start) s.length := by
  have run := takeRun s (clamp s.length start) (Nat.le_refl s.length)
  rw [clampPlace] at run
  simpa only [slice, String.length_toList] using run

theorem sliceBetween (s : String) (start stop : Int) :
    IsRun s (slice s start (some stop)) (place s.length start) (place s.length stop) := by
  have run := takeRun s (clamp s.length start) (clampWithin s.length stop)
  rw [clampPlace, clampPlace] at run
  simpa only [slice, String.length_toList] using run

theorem sliceJoin (s : String) (bound : Int) :
    slice s 0 (some bound) ++ slice s bound none = s := by
  have start : clamp s.toList.length 0 = 0 := Nat.zero_min s.toList.length
  have rest : ((s.toList.drop (clamp s.toList.length bound)).take
      (s.toList.length - clamp s.toList.length bound)) =
      s.toList.drop (clamp s.toList.length bound) := List.take_of_length_le (by simp)
  simp only [slice, start, rest, List.drop_zero, Nat.sub_zero]
  rw [← String.ofList_append, List.take_append_drop, String.ofList_toList]

theorem substringFrom (s : String) {x : Number} {a : Int} (whole : x.toInt? = some a) :
    substring [.text s, .number x] = .ok (.text (slice s a none)) := by
  simp only [substring, List.mapM_cons, List.mapM_nil, Value.asIntegerWhole whole]
  rfl

theorem substringBetween (s : String) {x y : Number} {a b : Int} (start : x.toInt? = some a)
    (stop : y.toInt? = some b) :
    substring [.text s, .number x, .number y] = .ok (.text (slice s a (some b))) := by
  simp only [substring, List.mapM_cons, List.mapM_nil, Value.asIntegerWhole start,
    Value.asIntegerWhole stop]
  rfl

theorem concatTexts (limit : Nat) (s t : String) :
    concat limit [.text s, .text t] = .ok (.text (s ++ t)) := by
  simp [concat, Value.shown, Value.nesting, Value.display, bind, Except.bind]
  rfl

end Library

section

variable (host : Host) (n : Nat) {m : Machine} (cuts : m.Knows "substr")
include cuts

theorem settlesSubstring (s : String) (bounds : List Number)
    (count : bounds.length = 1 ∨ bounds.length = 2) :
    (atDepth host (n + 2)).Settles m (.calling "substr" (.text s :: bounds.map .number))
      (Library.substring (.text s :: bounds.map .number)) := by
  refine settlesCall host n cuts ⟨rfl, fun _ _ _ => rfl⟩ ((Arity.acceptsAmong _ _).2 ?_) ?_
  · simp
    omega
  · rw [List.forall₂_same, List.forall_mem_cons, List.forall_mem_map]
    exact ⟨rfl, fun x _ => rfl⟩

theorem settlesFrom (s : String) {x : Number} {a : Int} (whole : x.toInt? = some a) :
    (atDepth host (n + 2)).Settles m (.calling "substr" [.text s, .number x])
      (.ok (.text (Library.slice s a none))) := by
  have settled := settlesSubstring host n cuts s [x] (.inl rfl)
  rwa [List.map_singleton, Library.substringFrom s whole] at settled

theorem settlesBetween (s : String) {x y : Number} {a b : Int} (start : x.toInt? = some a)
    (stop : y.toInt? = some b) :
    (atDepth host (n + 2)).Settles m (.calling "substr" [.text s, .number x, .number y])
      (.ok (.text (Library.slice s a (some b)))) := by
  have settled := settlesSubstring host n cuts s [x, y] (.inr rfl)
  rwa [List.map_cons, List.map_singleton, Library.substringBetween s start stop] at settled

/-- For bounds that are whole numbers `substr` never fails. It gives the run of characters between
their places, and what it cuts at one place `str` puts together again. -/
theorem substringCuts (joins : m.Knows "str") (s : String) :
    (∀ x k, x.toInt? = some k →
      (atDepth host (n + 3)).Settles m
        (.calling "str" [.calling "substr" [.text s, .number .zero, .number x],
          .calling "substr" [.text s, .number x]]) (.ok (.text s))) ∧
    (∀ x a, x.toInt? = some a → ∃ piece,
      (atDepth host (n + 2)).Settles m (.calling "substr" [.text s, .number x]) (.ok (.text piece)) ∧
        Library.IsRun s piece (Library.place s.length a) s.length) ∧
    ∀ x y a b, x.toInt? = some a → y.toInt? = some b → ∃ piece,
      (atDepth host (n + 2)).Settles m (.calling "substr" [.text s, .number x, .number y])
        (.ok (.text piece)) ∧
          Library.IsRun s piece (Library.place s.length a) (Library.place s.length b) := by
  refine ⟨fun x k whole => ?_, fun x a whole => ?_, fun x y a b start stop => ?_⟩
  · have zero : Number.zero.toInt? = some 0 := rfl
    -- The operands are evaluated in the scope of the call, which hides no name.
    have front := settlesBetween host n cuts.entered s zero whole
    have back := settlesFrom host n cuts.entered s whole
    have concats : Builtin.Computes host ⟨"str", .concat, .any, false⟩
        (Library.concat host.nesting) := ⟨rfl, fun ev same args => by rw [← same]; rfl⟩
    have joined := settlesCall host (n + 1) joins concats rfl (.cons front (.cons back .nil))
    rwa [Library.concatTexts, Library.sliceJoin] at joined
  · exact ⟨_, settlesFrom host n cuts s whole, Library.sliceFrom s a⟩
  · exact ⟨_, settlesBetween host n cuts s start stop, Library.sliceBetween s a b⟩

end

/-- A bound beyond all texts stands for their start. -/
theorem cutFarBefore :
    let m := Machine.reading "" .newline
    let far : Number := .finite true ⟨rankLimit - 1, by decide⟩
    let last : Number := .ofInt (-1)
    m.Knows "substr" ∧ m.Knows "str" ∧ (∃ k, far.toInt? = some k) ∧ last.toInt? = some (-1) ∧
      (atDepth (.bare 400 400) 3).Settles m
        (.calling "str" [.calling "substr" [.text "aé", .number .zero, .number far],
          .calling "substr" [.text "aé", .number far]]) (.ok (.text "aé")) ∧
      (∃ piece, (atDepth (.bare 400 400) 2).Settles m (.calling "substr" [.text "aé", .number last])
        (.ok (.text piece)) ∧ Library.IsRun "aé" piece 1 2) ∧
      ∃ piece, (atDepth (.bare 400 400) 2).Settles m
        (.calling "substr" [.text "aé", .number .zero, .number last]) (.ok (.text piece)) ∧
        Library.IsRun "aé" piece 0 1 := by
  intro m far last
  have bounds : far.toInt?.isSome = true ∧ last.toInt? = some (-1) := by decide +kernel
  obtain ⟨k, whole⟩ := Option.isSome_iff_exists.1 bounds.1
  obtain ⟨joined, rest, between⟩ := substringCuts (.bare 400 400) 0 (m := m) rfl rfl "aé"
  exact ⟨rfl, rfl, ⟨k, whole⟩, bounds.2, joined far k whole, rest last (-1) bounds.2,
    between .zero last 0 (-1) rfl bounds.2⟩

end DynLisp
