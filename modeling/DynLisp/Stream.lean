import DynLisp.Fault

/-!
The two streams of the host. A stream answers one request after another, and may refuse any of them,
as the system refuses or with another error of the host. A request that is refused has read or written
nothing.
-/

namespace DynLisp

inductive StreamFault where
  | system (message : String)
  | other (error : HostError)
  deriving DecidableEq, Repr

/-- What the library makes of it: only a failure of the system is an error of the language. -/
def StreamFault.fault : StreamFault → Fault
  | system message => .lisp (.stream (.host message))
  | other error => .host (.raised error)

/-- Where lines end. A text is split into its first line, with what ends it, and the rest. -/
structure LineRule where
  split : List Char → List Char × List Char
  joins : ∀ cs, (split cs).1 ++ (split cs).2 = cs
  advances : ∀ cs, cs ≠ [] → (split cs).1 ≠ []

namespace LineRule

def splitNewline : List Char → List Char × List Char
  | [] => ([], [])
  | '\n' :: cs => (['\n'], cs)
  | c :: cs => (c :: (splitNewline cs).1, (splitNewline cs).2)

def splitAnyEnd : List Char → List Char × List Char
  | [] => ([], [])
  | '\n' :: cs => (['\n'], cs)
  | '\r' :: '\n' :: cs => (['\r', '\n'], cs)
  | '\r' :: cs => (['\r'], cs)
  | c :: cs => (c :: (splitAnyEnd cs).1, (splitAnyEnd cs).2)

/-- Lines end at newlines. -/
def newline : LineRule where
  split := splitNewline
  joins cs := by fun_induction splitNewline cs <;> simp_all
  advances cs some := by
    fun_cases splitNewline cs
    · exact absurd rfl some
    · exact List.cons_ne_nil _ _
    · exact List.cons_ne_nil _ _

/-- Lines end at newlines, at carriage returns, and at a carriage return with the newline after it. -/
def anyEnd : LineRule where
  split := splitAnyEnd
  joins cs := by fun_induction splitAnyEnd cs <;> simp_all
  advances cs some := by
    fun_cases splitAnyEnd cs
    · exact absurd rfl some
    all_goals exact List.cons_ne_nil _ _

end LineRule

/-- The text that is still to be read, its line ends as the stream gives them. A stream is asked for a
line at a time, and says by the number of requests before which of them fail. -/
structure InputStream where
  rest : List Char
  ends : LineRule
  requests : Nat
  failure? : Nat → Option StreamFault

namespace InputStream

def ofText (text : String) (ends : LineRule) : InputStream := ⟨text.toList, ends, 0, fun _ => none⟩

/-- A line is empty only at the end of the text. -/
def readLine (s : InputStream) : Except StreamFault (List Char) × InputStream :=
  match s.failure? s.requests with
  | some fault => (.error fault, { s with requests := s.requests + 1 })
  | none =>
    let (line, rest) := s.ends.split s.rest
    (.ok line, { s with rest, requests := s.requests + 1 })

end InputStream

inductive OutputRequest where
  | write (text : String)
  | flush
  deriving DecidableEq, Repr

def OutputRequest.text : OutputRequest → String
  | write text => text
  | flush => ""

/-- What has been written. Which requests fail may depend on their number and on what they ask. -/
structure OutputStream where
  written : String
  requests : Nat
  failure? : Nat → OutputRequest → Option StreamFault

namespace OutputStream

def empty : OutputStream := ⟨"", 0, fun _ _ => none⟩

def answer (request : OutputRequest) (s : OutputStream) : Except StreamFault Unit × OutputStream :=
  match s.failure? s.requests request with
  | some fault => (.error fault, { s with requests := s.requests + 1 })
  | none =>
    (.ok (), { s with written := s.written ++ request.text, requests := s.requests + 1 })

end OutputStream

end DynLisp
