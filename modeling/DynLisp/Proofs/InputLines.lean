import DynLisp.Proofs.Settled

/-! What `input` reads. Where a line ends is a rule of the stream, and `input` leaves out a newline
at the end only. A call takes one line or, where it fails, nothing; so repeated calls give all the
lines in order, and at the end of the text they fail. -/

namespace DynLisp

open Evaluator Run

namespace LineRule

variable (rule : LineRule)

/-- The lines of a text, each with what ends it. -/
def lines (cs : List Char) : List (List Char) :=
  if some : cs = [] then []
  else
    have shorter : (rule.split cs).2.length < cs.length := by
      have parts := congrArg List.length (rule.joins cs)
      have first := List.length_pos_iff.2 (rule.advances cs some)
      rw [List.length_append] at parts
      omega
    (rule.split cs).1 :: lines (rule.split cs).2
termination_by cs.length

variable {rule} {cs line : List Char} {rest : List (List Char)}

variable (rule) in
theorem splitNil : rule.split [] = ([], []) := by
  obtain ⟨line, rest⟩ := List.append_eq_nil_iff.1 (rule.joins [])
  exact Prod.ext line rest

theorem linesNil : rule.lines [] = [] := by
  rw [lines, dif_pos rfl]

theorem linesSome (some : cs ≠ []) :
    rule.lines cs = (rule.split cs).1 :: rule.lines (rule.split cs).2 := by
  rw [lines, dif_neg some]

variable (rule) in
theorem linesJoin (cs : List Char) : (rule.lines cs).flatten = cs := by
  fun_induction lines rule cs with
  | case1 => rfl
  | case2 cs some shorter ih => rw [List.flatten_cons, ih, rule.joins]

theorem linesNone : rule.lines cs = [] ↔ cs = [] := by
  refine ⟨fun none => ?_, fun none => none ▸ linesNil⟩
  rw [← rule.linesJoin cs, none]
  rfl

theorem linesFirst (first : rule.lines cs = line :: rest) :
    rule.split cs = (line, rest.flatten) ∧ rule.lines rest.flatten = rest ∧ line ≠ [] := by
  have some : cs ≠ [] := fun none => nomatch first.symm.trans (linesNone.2 none)
  rw [linesSome some] at first
  obtain ⟨rfl, rfl⟩ := List.cons_eq_cons.1 first
  rw [linesJoin]
  exact ⟨rfl, rfl, rule.advances cs some⟩

variable (rule cs) in
theorem linesDrop (k : Nat) :
    rule.lines ((rule.lines cs).drop k).flatten = (rule.lines cs).drop k := by
  induction k generalizing cs with
  | zero => rw [List.drop_zero, linesJoin]
  | succ k ih =>
    cases found : rule.lines cs with
    | nil => exact linesNil
    | cons line rest =>
      have after := ih rest.flatten
      rwa [(linesFirst found).2.1] at after

theorem newlineEnds (cs : List Char) : newline.lines ('\n' :: cs) = ['\n'] :: newline.lines cs :=
  linesSome (List.cons_ne_nil _ _)

/-- A plain character joins the line that begins after it. -/
theorem newlineJoins {c : Char} (plain : c ≠ '\n') (cs : List Char) :
    newline.lines (c :: cs) = match newline.lines cs with
      | [] => [[c]]
      | line :: rest => (c :: line) :: rest := by
  have split : newline.split (c :: cs) = (c :: (newline.split cs).1, (newline.split cs).2) := by
    show splitNewline (c :: cs) = _
    rw [splitNewline.eq_3 c cs plain]
    rfl
  rw [linesSome (List.cons_ne_nil c cs), split]
  by_cases none : cs = []
  · subst none
    rw [linesNil]
    exact congrArg _ linesNil
  · rw [linesSome none]

theorem splitAlike (newlines : '\r' ∉ cs) : anyEnd.split cs = newline.split cs := by
  show splitAnyEnd cs = splitNewline cs
  fun_induction splitAnyEnd cs with
  | case1 | case2 => rfl
  | case3 | case4 => simp at newlines
  | case5 c cs newline both carriage ih =>
    rw [List.mem_cons, not_or] at newlines
    rw [splitNewline, ih newlines.2]
    exact newline

theorem linesAlike (newlines : '\r' ∉ cs) : anyEnd.lines cs = newline.lines cs := by
  fun_induction lines anyEnd cs with
  | case1 => exact linesNil.symm
  | case2 cs some _ ih =>
    have parts := anyEnd.joins cs
    have later : '\r' ∉ (anyEnd.split cs).2 := fun member =>
      newlines (parts ▸ List.mem_append_right _ member)
    rw [linesSome some, ih later, splitAlike newlines]

end LineRule

open LineRule

def withoutNewline (line : List Char) : List Char :=
  if line.getLast? = some '\n' then line.dropLast else line

/-- The pieces between newlines; what stands after the last one counts if it is not empty. -/
def newlinePieces (cs : List Char) : List (List Char) :=
  let pieces := cs.splitOn '\n'
  if pieces.getLast? = some [] then pieces.dropLast else pieces

theorem piecesNewline (cs : List Char) : newlinePieces ('\n' :: cs) = [] :: newlinePieces cs := by
  have parts : ('\n' :: cs).splitOn '\n' = [] :: cs.splitOn '\n' :=
    List.splitOnP_cons_eq_if_modifyHead '\n' cs
  obtain ⟨piece, rest, pieces⟩ := List.exists_cons_of_ne_nil (List.splitOn_ne_nil '\n' cs)
  simp only [newlinePieces, parts, pieces, List.getLast?_cons_cons, List.dropLast_cons_cons]
  split <;> rfl

theorem piecesPlain {c : Char} (plain : c ≠ '\n') (cs : List Char) :
    newlinePieces (c :: cs) = match newlinePieces cs with
      | [] => [[c]]
      | piece :: rest => (c :: piece) :: rest := by
  have parts : (c :: cs).splitOn '\n' = (cs.splitOn '\n').modifyHead (c :: ·) := by
    have head := List.splitOnP_cons_eq_if_modifyHead (p := (· == '\n')) c cs
    rwa [if_neg (by simp [plain])] at head
  obtain ⟨piece, rest, pieces⟩ := List.exists_cons_of_ne_nil (List.splitOn_ne_nil '\n' cs)
  simp only [newlinePieces, parts, pieces, List.modifyHead_cons]
  cases rest with
  | nil => cases piece <;> simp
  | cons next rest =>
    simp only [List.getLast?_cons_cons, List.dropLast_cons_cons]
    split <;> rfl

theorem withoutNewlineCons (c : Char) {line : List Char} (some : line ≠ []) :
    withoutNewline (c :: line) = c :: withoutNewline line := by
  obtain ⟨d, line, rfl⟩ := List.exists_cons_of_ne_nil some
  simp only [withoutNewline, List.getLast?_cons_cons, List.dropLast_cons_cons]
  split <;> rfl

theorem linesPieces (cs : List Char) :
    (newline.lines cs).map withoutNewline = newlinePieces cs := by
  induction cs with
  | nil =>
    rw [linesNil]
    rfl
  | cons c cs ih =>
    by_cases ends : c = '\n'
    · rw [ends, newlineEnds, List.map_cons, ih, piecesNewline]
      rfl
    · rw [newlineJoins ends, piecesPlain ends, ← ih]
      cases found : newline.lines cs with
      | nil => simp [withoutNewline, ends]
      | cons line rest =>
        rw [List.map_cons, List.map_cons, withoutNewlineCons c (linesFirst found).2.2]

namespace InputStream

def lines (s : InputStream) : List (List Char) := s.ends.lines s.rest

/-- The stream after that many requests, each of which took a line. -/
def past (s : InputStream) (k : Nat) : InputStream :=
  { s with rest := (s.lines.drop k).flatten, requests := s.requests + k }

theorem pastNone (s : InputStream) : s.past 0 = s := by
  rw [past, List.drop_zero, lines, linesJoin]
  rfl

theorem linesPast (s : InputStream) (k : Nat) : (s.past k).lines = s.lines.drop k :=
  linesDrop s.ends s.rest k

theorem pastPast (s : InputStream) (j k : Nat) : (s.past j).past k = s.past (j + k) := by
  rw [past, linesPast, List.drop_drop, past, past, Nat.add_assoc]

theorem readLinePast {s : InputStream} (works : s.failure? s.requests = none) :
    s.readLine = (.ok (s.lines.headD []), s.past 1) := by
  rw [readLine, works]
  cases found : s.lines with
  | nil =>
    simp only [past, found, linesNone.1 found, s.ends.splitNil]
    rfl
  | cons line rest => simp only [past, found, (linesFirst found).1]; rfl

end InputStream

inductive Reads (m : Machine) : Except Fault Value → Machine → Prop where
  | refused {fault} (fails : m.input.failure? m.input.requests = some fault) :
      Reads m (.error fault.fault) { m with input.requests := m.input.requests + 1 }
  | ended (works : m.input.failure? m.input.requests = none) (none : m.input.lines = []) :
      Reads m (.error (.lisp (.stream .endOfInput))) { m with input := m.input.past 1 }
  | line {line rest} (works : m.input.failure? m.input.requests = none)
      (first : m.input.lines = line :: rest) :
      Reads m (.ok (.text (.ofList (withoutNewline line)))) { m with input := m.input.past 1 }

/-- After a prompt, which is written and flushed. -/
def Machine.afterPrompt (m : Machine) (s : String) : Machine :=
  { m with output := ⟨m.output.written ++ s, m.output.requests + 2, m.output.failure?⟩ }

/-- How a call with a prompt ends. The prompt is written before anything is read. -/
inductive Prompted (m : Machine) (p : Value) : Except Fault Value → Machine → Prop where
  | noText (other : ∀ s, p.asText ≠ .ok s) :
      Prompted m p (.error (.lisp (.wrongType [.text] p))) m
  | unwritten {s fault} (text : p.asText = .ok s)
      (fails : m.output.failure? m.output.requests (.write s) = some fault) :
      Prompted m p (.error fault.fault) { m with output.requests := m.output.requests + 1 }
  | unflushed {s fault} (text : p.asText = .ok s)
      (writes : m.output.failure? m.output.requests (.write s) = none)
      (fails : m.output.failure? (m.output.requests + 1) .flush = some fault) :
      Prompted m p (.error fault.fault) (m.afterPrompt s)
  | asked {s result after} (text : p.asText = .ok s)
      (writes : m.output.failure? m.output.requests (.write s) = none)
      (flushes : m.output.failure? (m.output.requests + 1) .flush = none)
      (reads : Reads (m.afterPrompt s) result after) : Prompted m p result after

theorem shownLine {line : List Char} (some : line ≠ []) :
    (if line.isEmpty then fail (.lisp (.stream .endOfInput))
      else if line.getLast? == .some '\n' then return .text (.ofList line.dropLast)
      else return .text (.ofList line) : Run Value) =
      pure (.text (.ofList (withoutNewline line))) := by
  have more : line.isEmpty = false := List.isEmpty_eq_false_iff.2 some
  simp only [more, withoutNewline, beq_iff_eq, Bool.false_eq_true, if_false]
  split <;> rfl

theorem readsLine (m : Machine) :
    Reads m ((Library.input []).exec m).1 ((Library.input []).exec m).2 := by
  show Reads m (Prod.fst (exec (readLine >>= _) m)) (Prod.snd (exec (readLine >>= _) m))
  cases works : m.input.failure? m.input.requests with
  | some fault =>
    have failed : readLine.exec m =
        (.error fault.fault, { m with input.requests := m.input.requests + 1 }) := by
      rw [execReadLine, InputStream.readLine, works]
      rfl
    rw [execBindError failed]
    exact .refused works
  | none =>
    have taken : readLine.exec m = (.ok (m.input.lines.headD []), { m with input := m.input.past 1 }) := by
      rw [execReadLine, InputStream.readLinePast works]
      rfl
    rw [execBindOk taken]
    cases found : m.input.lines with
    | nil => exact .ended works found
    | cons line rest =>
      rw [List.headD_cons, shownLine (linesFirst found).2.2]
      exact .line works found

theorem requestFails {m : Machine} {r : OutputRequest} {fault : StreamFault}
    (fails : m.output.failure? m.output.requests r = some fault) :
    (request r).exec m =
      (.error fault.fault, { m with output.requests := m.output.requests + 1 }) := by
  rw [execRequest, OutputStream.answer, fails]
  rfl

theorem requestWorks {m : Machine} {r : OutputRequest}
    (works : m.output.failure? m.output.requests r = none) :
    (request r).exec m = (.ok (), { m with
      output := ⟨m.output.written ++ r.text, m.output.requests + 1, m.output.failure?⟩ }) := by
  rw [execRequest, OutputStream.answer, works]
  rfl

theorem promptedLine (m : Machine) (p : Value) :
    Prompted m p ((Library.input [p]).exec m).1 ((Library.input [p]).exec m).2 := by
  have begins : (Library.prompt [p]).exec m =
      (Run.ofExcept p.asText >>= fun s => do write s; flush : Run Unit).exec m := rfl
  rw [Library.input]
  cases text : p.asText with
  | error fault =>
    rw [text] at begins
    rw [execBindError (begins.trans (execBindError rfl))]
    obtain ⟨rfl, other⟩ : fault = .lisp (.wrongType [.text] p) ∧ ∀ s, p.asText ≠ .ok s := by
      cases p <;> cases text <;> exact ⟨rfl, nofun⟩
    exact .noText other
  | ok s =>
    rw [text] at begins
    have asks := begins.trans (execBindOk (execOfExcept (.ok s) m))
    cases writes : m.output.failure? m.output.requests (.write s) with
    | some fault =>
      rw [execBindError (asks.trans (execBindError (requestFails writes)))]
      exact .unwritten text writes
    | none =>
      have wrote := asks.trans (execBindOk (requestWorks writes))
      cases flushes : m.output.failure? (m.output.requests + 1) .flush with
      | some fault =>
        have failed := wrote.trans (requestFails (r := .flush) flushes)
        rw [execBindError failed]
        exact .unflushed text writes flushes
      | none =>
        have done := wrote.trans (requestWorks (r := .flush) flushes)
        simp only [OutputRequest.text, String.append_empty] at done
        rw [execBindOk done]
        exact .asked text writes flushes (readsLine (m.afterPrompt s))

theorem Reads.left {m after : Machine} {result : Except Fault Value}
    (reads : Reads m.entered result after) : Reads m result { after with stack := m.stack } := by
  cases reads with
  | refused fails => exact .refused fails
  | ended works none => exact .ended works none
  | line works first => exact .line works first

theorem Prompted.left {m after : Machine} {p : Value} {result : Except Fault Value}
    (prompted : Prompted m.entered p result after) :
    Prompted m p result { after with stack := m.stack } := by
  cases prompted with
  | noText other => exact .noText other
  | unwritten text fails => exact .unwritten text fails
  | unflushed text writes fails => exact .unflushed text writes fails
  | asked text writes flushes reads =>
    exact .asked text writes flushes (Reads.left (m := m.afterPrompt _) reads)

/-- What fails has taken nothing of the text. -/
theorem Reads.keeps {m after : Machine} {fault : Fault} (reads : Reads m (.error fault) after) :
    after.input.rest = m.input.rest ∧ after.stack = m.stack := by
  cases reads with
  | refused fails => exact ⟨rfl, rfl⟩
  | ended works none =>
    have rest : m.input.rest = [] := linesNone.1 none
    refine ⟨?_, rfl⟩
    show (m.input.lines.drop 1).flatten = _
    rw [none, rest]
    rfl

/-- Nor has it written anything if the prompt is no text. -/
theorem Prompted.keeps {m after : Machine} {p : Value} {fault : Fault}
    (prompted : Prompted m p (.error fault) after) :
    after.input.rest = m.input.rest ∧ after.stack = m.stack ∧
      ((∀ s, p.asText ≠ .ok s) → after.output = m.output) := by
  cases prompted with
  | noText other => exact ⟨rfl, rfl, fun _ => rfl⟩
  | unwritten text fails => exact ⟨rfl, rfl, fun other => absurd text (other _)⟩
  | unflushed text writes fails => exact ⟨rfl, rfl, fun other => absurd text (other _)⟩
  | asked text writes flushes reads =>
    exact ⟨reads.keeps.1, reads.keeps.2, fun other => absurd text (other _)⟩

/-- Evaluates the form again and again, each time in the machine that the time before left. -/
def Evaluator.repeated (ev : Evaluator) (form : Value) :
    Nat → Machine → List (Except Fault Value) × Machine
  | 0, m => ([], m)
  | k + 1, m =>
    let (result, after) := (ev.eval form).exec m
    let (results, last) := ev.repeated form k after
    (result :: results, last)

section

variable (host : Host) (n : Nat) {m : Machine} (knows : m.Knows "input")
include knows

theorem evalInput (ps : List Value) (few : ps.length = 0 ∨ ps.length = 1) :
    ((atDepth host (n + 2)).eval (.calling "input" (ps.map .quote))).exec m =
      let (result, after) := (Library.input ps).exec m.entered
      (result, { after with stack := m.stack }) := by
  have accepted : (Arity.among [0, 1]).accepts ps.length = true :=
    (Arity.acceptsAmong _ _).2 (by simpa using few)
  rw [Value.calling, evalNamedCall host n knows, evalBuiltinQuoted host n rfl, runBuiltin]
  rw [if_pos accepted]
  exact execScoped (Library.localInput ps) m

theorem inputReads : ∃ result after,
    ((atDepth host (n + 2)).eval (.calling "input" [])).exec m = (result, after) ∧
      Reads m result after :=
  ⟨_, _, evalInput host n knows [] (.inl rfl), (readsLine m.entered).left⟩

theorem inputPrompted (p : Value) : ∃ result after,
    ((atDepth host (n + 2)).eval (.calling "input" [.quote p])).exec m = (result, after) ∧
      Prompted m p result after :=
  ⟨_, _, evalInput host n knows [p] (.inr rfl), (promptedLine m.entered p).left⟩

theorem repeatedInput (works : ∀ i, m.input.failure? i = none) (k : Nat) :
    (atDepth host (n + 2)).repeated (.calling "input" []) k m =
      ((m.input.lines.take k).map (fun line => .ok (.text (.ofList (withoutNewline line)))) ++
        List.replicate (k - m.input.lines.length) (.error (.lisp (.stream .endOfInput))),
        { m with input := m.input.past k }) := by
  induction k generalizing m with
  | zero =>
    rw [InputStream.pastNone, List.take_zero, Nat.zero_sub]
    rfl
  | succ k ih =>
    obtain ⟨result, after, call, reads⟩ := inputReads host n knows
    have next := ih (m := { m with input := m.input.past 1 }) knows works
    simp only [InputStream.pastPast, InputStream.linesPast, Nat.add_comm 1 k] at next
    rw [Evaluator.repeated, call]
    cases reads with
    | refused fails => cases (works _).symm.trans fails
    | ended _ none =>
      simp only [next, none, List.take_nil, List.drop_nil, List.map_nil, List.nil_append,
        List.length_nil, Nat.sub_zero, List.replicate_succ]
    | @line line rest _ first =>
      simp only [next, first, List.take_succ_cons, List.drop_succ_cons, List.drop_zero,
        List.map_cons, List.cons_append, List.length_cons, Nat.add_sub_add_right]

end

/-- What calls of `input` give and leave, for the lines as the stream ends them. -/
structure ReadsLines (host : Host) (n : Nat) (m : Machine) : Prop where
  whole : m.input.lines.flatten = m.input.rest
  taken : ∀ k, (m.input.lines.take k).flatten ++ (m.input.past k).rest = m.input.rest
  pieces : (m.input.ends = .newline ∨ m.input.ends = .anyEnd ∧ '\r' ∉ m.input.rest) →
    m.input.lines.map withoutNewline = newlinePieces m.input.rest
  inOrder : (∀ i, m.input.failure? i = none) → ∀ k,
    (atDepth host (n + 2)).repeated (.calling "input" []) k m =
      ((m.input.lines.take k).map (fun line => .ok (.text (.ofList (withoutNewline line)))) ++
        List.replicate (k - m.input.lines.length) (.error (.lisp (.stream .endOfInput))),
        { m with input := m.input.past k })
  prompted : ∀ p, ∃ result after,
    ((atDepth host (n + 2)).eval (.calling "input" [.quote p])).exec m = (result, after) ∧
      Prompted m p result after
  failed : ∀ p fault after,
    ((atDepth host (n + 2)).eval (.calling "input" [.quote p])).exec m = (.error fault, after) →
      after.input.rest = m.input.rest ∧ after.stack = m.stack ∧
        ((∀ s, p.asText ≠ .ok s) → after.output = m.output)

end DynLisp
