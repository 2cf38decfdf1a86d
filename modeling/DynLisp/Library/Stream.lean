import DynLisp.Library.Numeric

/-!
Input, output, and the end of the program.
-/

namespace DynLisp.Library

def print (limit : Nat) (args : List Value) : Run Value := do
  let texts ← Run.ofExcept (args.mapM (Value.shown limit Value.source))
  Run.write (" ".intercalate texts ++ "\n")
  return .nil

def prompt : List Value → Run Unit
  | [] => return ()
  | v :: _ => do
    Run.write (← Run.ofExcept v.asText)
    Run.flush

def input (args : List Value) : Run Value := do
  prompt args
  let line ← Run.readLine
  if line.isEmpty then Run.fail (.lisp (.stream .endOfInput))
  else if line.getLast? == some '\n' then return .text (.ofList line.dropLast)
  else return .text (.ofList line)

def exitCode : List Value → Except Fault Int
  | [] => .ok 0
  | v :: _ => do (← v.asNumber).truncate

def exit (args : List Value) : Run Value := do
  Run.fail (.host (.exit (← Run.ofExcept (exitCode args))))

end DynLisp.Library
