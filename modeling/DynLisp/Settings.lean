import DynLisp.Text.Class

/-!
Settings taken from environment variables. A variable that is unset or blank counts as not given;
white space around a value does not count.
-/

namespace DynLisp

structure Settings where
  environment : List (String × String)
  deriving Repr

namespace Settings

def value? (s : Settings) (name : String) (fallback? : Option String) : Option String :=
  match s.environment.lookup name with
  | none => fallback?
  | some raw => if (strip raw).isEmpty then fallback? else some (strip raw)

def encodingName (s : Settings) : String :=
  (s.value? "MINILISP_SOURCE_ENCODING" none).getD "utf-8"

def prelude? (s : Settings) : Option String := s.value? "MINILISP_PRELUDE" none

def levels : List (String × Int) := [("CRITICAL", 50), ("FATAL", 50), ("ERROR", 40), ("WARN", 30),
  ("WARNING", 30), ("INFO", 20), ("DEBUG", 10), ("NOTSET", 0)]

/-- Capitals of the Latin alphabet, also of its dotless and its long letter. -/
def capital (c : Char) : Char :=
  if c == 'ı' then 'I' else if c == 'ſ' then 'S' else c.toUpper

/-- The log level of a name, in capitals or not; a warning's for unknown names. -/
def logLevel (s : Settings) : Int :=
  let name := (s.value? "MINILISP_LOG_LEVEL" none).getD "WARNING"
  (levels.lookup (.ofList (name.toList.map capital))).getD 30

end Settings

structure LogSetup where
  level : Int
  handlers : Nat
  deriving DecidableEq, Repr

namespace LogSetup

def initial : LogSetup := ⟨0, 0⟩

def configure (setup : LogSetup) (s : Settings) (level? : Option Int) : LogSetup :=
  ⟨level?.getD s.logLevel, max setup.handlers 1⟩

/-- Whether messages of level ten reach a handler; level zero defers to that of warnings. -/
def showsDebug (setup : LogSetup) : Bool :=
  setup.handlers != 0 && setup.level != 0 && setup.level ≤ 10

end LogSetup

end DynLisp
