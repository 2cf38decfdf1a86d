import DynLisp.Evaluator
import DynLisp.Exchange
import DynLisp.Form
import DynLisp.Library.Globals
import DynLisp.Settings

/-!
Sessions: the surface through which a host reads and evaluates source and moves values in and out.
One machine, and so one global scope, lives as long as the session. Source is read as a whole before
any of it is evaluated. The host is the same all along.
-/

namespace DynLisp

inductive Source where
  | text (s : String)
  | bytes (bs : List UInt8)
  deriving Repr

/-- How a session reports that bytes have no text. Only of bytes at fault is it an error of the
language. -/
def Undecodable.fault (encodingName : String) : Undecodable → Fault
  | bytes fault => .lisp (.stream (.undecodable fault))
  | text refusal => .host (.refusedText encodingName refusal)
  | unfaithful label spelling => .host (.unfaithfulLabel label spelling)
  | unsupported => .host (.unsupportedShift encodingName)

def NameFault.fault (encodingName : String) : NameFault → Fault
  | unknown => .host (.unknownEncoding encodingName)
  | notText => .host (.notTextEncoding encodingName)

/-- The text of source; bytes are decoded by the encoding of the settings, which is not looked up
for no bytes at all. -/
def Source.decode (settings : Settings) : Source → Except Fault String
  | text s => .ok s
  | bytes [] => .ok ""
  | bytes bs => do
    let name := settings.encodingName
    let encoding ← (Encoding.ofName name).mapError (NameFault.fault name)
    String.ofList <$> (encoding bs).mapError (Undecodable.fault name)

def Value.refresh (o : HostObject) : Value → Value
  | list items => list (items.map fun v => v.refresh o)
  | quote v => quote (v.refresh o)
  | hostQuote v mark => hostQuote (v.refresh o) mark
  | lambda params body => lambda params (body.map fun v => v.refresh o)
  | tuple items mark => tuple (items.map fun v => v.refresh o) mark
  | foreign p id => if p.isSame o then foreign o id else foreign p id
  | object p => if p.isSame o then object o else object p
  | v => v

def Scope.refresh (o : HostObject) (s : Scope) : Scope :=
  ⟨s.bindings.map fun (name, v) => (name, v.refresh o)⟩

namespace Run

/-- Evaluates a form on behalf of a session, which records an error of the language. -/
def topLevel (host : Host) (form : Value) : Run Value := ExceptT.mk fun m =>
  match (host.evaluator.eval form).exec m with
  | (.error (.lisp e), m) => (.error (.lisp e), { m with log := m.log ++ [.formFailed e.message] })
  | (result, m) => (result, m)

def source (host : Host) (settings : Settings) (code : Source) : Run Value := do
  let text ← ofExcept (code.decode settings)
  let forms ← ofExcept (Form.parse text)
  forms.foldlM (fun _ form => topLevel host form) .nil

end Run

structure Session where
  machine : Machine
  registry : Registry
  settings : Settings
  host : Host

namespace Session

abbrev Answer (α : Type) := Except Fault α × Session

def run {α : Type} (s : Session) (r : Run α) : Answer α :=
  let (result, m) := r.exec s.machine
  (result, { s with machine := m })

def exchange {α : Type} (s : Session) (x : Exchange α) : Answer α :=
  let (result, r) := x.run.run s.registry
  (result, { s with registry := r })

def fresh (host : Host) (settings : Settings) (input : InputStream) (output : OutputStream) :
    Session :=
  ⟨⟨⟨[], Library.globals⟩, input, output, [], 0⟩, .empty, settings, host⟩

def eval (s : Session) (code : Source) : Answer Value := s.run (Run.source s.host s.settings code)

/-- Runs a prelude; none and an empty one leave the session as it is. -/
def start (s : Session) (prelude? : Option String) : Answer Unit :=
  match prelude? with
  | none | some "" => (.ok (), s)
  | some text =>
    let (result, s) := s.eval (.text text)
    (result.map fun _ => (), s)

def evalStream (s : Session) (content : Except StreamFault Source) : Answer Value :=
  match content with
  | .ok code => s.eval code
  | .error fault => (.error fault.fault, s)

def evalAs (s : Session) (code : Source) (t : HostType) : Answer Value :=
  match s.eval code with
  | (.ok v, s) => s.exchange (.fromLisp t v)
  | (.error fault, s) => (.error fault, s)

def setGlobal (s : Session) (name : String) (v : Value) : Answer Unit :=
  let (_, s) := s.run (Run.record (.setGlobal name))
  match s.exchange (.toLisp v) with
  | (.ok v, s) => s.run (Run.onStack (·.bindGlobal name v))
  | (.error fault, s) => (.error fault, s)

def getGlobal (s : Session) (name : String) : Answer Value :=
  match s.machine.stack.globals.get? name with
  | some v => (.ok v, s)
  | none => (.error (.lisp (.undeclared name)), s)

def enterScope (s : Session) : Session :=
  { s with machine.stack := s.machine.stack.enter }

def leaveScope (s : Session) : Answer Unit :=
  match s.machine.stack.leave? with
  | some stack => (.ok (), { s with machine.stack := stack })
  | none => (.error (.host .globalScope), s)

/-- Makes a change to an object visible wherever the session holds it. -/
def refresh (s : Session) (o : HostObject) : Session :=
  let stack := s.machine.stack
  { s with machine.stack := ⟨stack.entered.map (Scope.refresh o), stack.globals.refresh o⟩ }

end Session

end DynLisp
