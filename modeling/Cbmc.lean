import Cbmc.Util.Irep
import Cbmc.Util.SymbolTable
import Cbmc.Util.GotoInstructionCode
import Cbmc.Cpp.Typecheckt
import Cbmc.Cpp.CleanUp
import Cbmc.Cpp.StaticInitialization
import Cbmc.Cpp.NotTypechecked
import Cbmc.Cpp.NotTypecheckedRun
import Cbmc.Cpp.NotTypecheckedWorklist
import Cbmc.Cpp.Typecheck
import Cbmc.Cpp.TypecheckExpr
