import Cbmc.Cpp.CleanUp
import Cbmc.Cpp.StaticInitialization
import Cbmc.Cpp.NotTypecheckedRun

/-!
# The passes of `typecheck`

`cpp_typecheckt::typecheck` converts the items of the parse tree, then runs
`static_and_dynamic_initialization`, `typecheck_method_bodies`,
`do_not_typechecked` and `clean_up`, in this order. Conversion and
`typecheck_method_bodies` are defined in other files of the front end and are
abstract here: each may change the whole state or stop the run. The passes of this
file are modelled and proved about in their own modules; the example below runs the
whole sequence on one translation unit.
-/

namespace Cbmc.Cpp

open Util

/-- The parts of `typecheck` defined in other files of the front end. -/
structure TypecheckCollaborators where
  /-- `convert(item)` for every item of the parse tree, in order. -/
  convertItems : CppTypecheckt → Except Failure CppTypecheckt
  initialization : InitializationCollaborators
  /-- `typecheck_method_bodies()`. -/
  typecheckMethodBodies : CppTypecheckt → Except Failure CppTypecheckt
  convertFunction : ConvertFunction

variable (k : TypecheckCollaborators)

/-- `do_not_typechecked` on the type checker's table. The model's bound on the
passes is never reached (`doNotTypechecked_ne_none`): the `none` branch only makes
the function total. -/
def doNotTypecheckedOn (tc : CppTypecheckt) : Except Failure CppTypecheckt := do
  match ← doNotTypechecked k.convertFunction tc.symbolTable with
  | some st => pure { tc with symbolTable := st.table }
  | none => pure tc

/-- `cpp_typecheckt::typecheck`. -/
def typecheck (tc : CppTypecheckt) : Except Failure CppTypecheckt := do
  let tc ← k.convertItems tc
  let tc ← staticAndDynamicInitialization k.initialization tc
  let tc ← k.typecheckMethodBodies tc
  let tc ← doNotTypecheckedOn k tc
  pure (cleanUp tc)

/-- Conversion that declares the static object `x` and the member functions of
`gThenF`, and method bodies that add nothing. -/
def exampleTypecheck : TypecheckCollaborators where
  convertItems tc := pure { tc with
    symbolTable := ⟨[objectX, pendingMember "g" false, pendingMember "f" true], by decide⟩
    dynamicInitializations := ["x"] }
  initialization := exampleCollaborators
  typecheckMethodBodies := pure
  convertFunction := fUsesG

/-- `x` gives its initializer to the new block, and both member bodies are converted. -/
example : (typecheck exampleTypecheck ⟨⟨[], List.nodup_nil⟩, "m", [], [], false⟩).map
    (fun tc => tc.symbolTable.symbols.map fun s => (s.name, s.value.id)) =
      .ok [("x", idNil), ("g", idCode), ("f", idCode), (initSymbolName "m", idCode)] := rfl

end Cbmc.Cpp
