import Cbmc.Util.Irep
import Mathlib.Data.List.Basic
import Mathlib.Algebra.Group.Nat.Basic

/-!
# Type checking one expression

The entry point `cpp_typecheck(expr, message_handler, ns)` runs `typecheck_expr`
on a fresh type checker, catches the four kinds of exception it lets escape, and
reports failure when the handler's error count changed. Three of the handlers
print the exception's text as an error. The handler for `int` only calls
`error()`, which selects the error stream and prints nothing, so a `throw 0` with
no error message before it goes unnoticed. The count before the run is also
kept in an `unsigned`, which drops all but its low 32 bits.

`typecheck_expr` itself is abstract: any sequence of messages, then a normal
return or one of the caught exceptions.
-/

namespace Cbmc.Cpp

open Util

/-- `messaget::M_ERROR`. -/
def mError : Nat := 1

/-- A message as `message_handlert::print` receives it. -/
structure Message where
  level : Nat
  text : String

/-- `message_handlert`, of which the entry point reads the per-level counts.
`std::size_t` counts never wrap in any run, so they are natural numbers here. -/
structure MessageHandlert where
  messageCount : Nat → Nat

/-- `message_handlert::print`: count the message at its level. -/
def MessageHandlert.print (h : MessageHandlert) (m : Message) : MessageHandlert :=
  ⟨fun level => if level = m.level then h.messageCount level + 1 else h.messageCount level⟩

/-- The exceptions the entry point catches. -/
inductive Thrown
  | int (value : Int)
  | cString (e : String)
  | string (e : String)
  | invalidSourceFile (location : Irept) (reason : String)

/-- A run of `typecheck_expr`: the messages it emits, the expression it leaves,
and the exception it ends with, `none` for a normal return. -/
structure TypecheckExprRun where
  messages : List Message
  expr : Irept
  thrown : Option Thrown

/-- What each `catch` clause prints. -/
def catchMessages : Thrown → List Message
  | .int _ => []
  | .cString e => [⟨mError, e⟩]
  | .string e => [⟨mError, e⟩]
  | .invalidSourceFile _ reason => [⟨mError, reason⟩]

/-- `cpp_typecheck(expr, message_handler, ns)`: whether errors were reported,
the expression, and the handler afterwards. -/
def cppTypecheck (run : TypecheckExprRun) (messageHandler : MessageHandlert) :
    Bool × Irept × MessageHandlert :=
  let errorsBefore := messageHandler.messageCount mError % 2 ^ 32
  let afterRun := run.messages.foldl MessageHandlert.print messageHandler
  let afterCatch := match run.thrown with
    | none => afterRun
    | some e => (catchMessages e).foldl MessageHandlert.print afterRun
  (afterCatch.messageCount mError != errorsBefore, run.expr, afterCatch)

/-- The number of error messages in a list. -/
def errorCount (ms : List Message) : Nat := (ms.filter fun m => m.level = mError).length

theorem messageCount_foldl_print (ms : List Message) (h : MessageHandlert) :
    (ms.foldl MessageHandlert.print h).messageCount mError = h.messageCount mError + errorCount ms := by
  induction ms generalizing h with
  | nil => simp [errorCount]
  | cons m ms ih =>
    rw [List.foldl_cons, ih]
    by_cases hm : m.level = mError
    · simp [MessageHandlert.print, errorCount, List.filter_cons, hm]; omega
    · simp [MessageHandlert.print, errorCount, List.filter_cons, hm, Ne.symm hm]

/-- The errors reported in total: those of the run and those its exception adds. -/
def reportedErrors (run : TypecheckExprRun) : Nat :=
  errorCount run.messages + (run.thrown.map fun e => errorCount (catchMessages e)).getD 0

theorem messageCount_cppTypecheck (run : TypecheckExprRun) (h : MessageHandlert) :
    (cppTypecheck run h).2.2.messageCount mError = h.messageCount mError + reportedErrors run := by
  unfold cppTypecheck reportedErrors
  cases run.thrown <;> simp [messageCount_foldl_print, Nat.add_assoc]

/-- Whether an exception prints an error when caught: all but `int`. -/
def Thrown.IsReported : Thrown → Prop
  | .int _ => False
  | _ => True

theorem errorCount_catchMessages (e : Thrown) :
    0 < errorCount (catchMessages e) ↔ e.IsReported := by
  cases e <;> simp [catchMessages, errorCount, Thrown.IsReported, mError]

/-- While the count before the run fits in 32 bits, the entry point reports failure
exactly when `typecheck_expr` printed an error or threw something other than an `int`. -/
theorem cppTypecheck_eq_true_iff (run : TypecheckExprRun) (h : MessageHandlert)
    (hcount : h.messageCount mError < 2 ^ 32) :
    (cppTypecheck run h).1 = true ↔
      (∃ m ∈ run.messages, m.level = mError) ∨ ∃ e, run.thrown = some e ∧ e.IsReported := by
  have hcount' := messageCount_cppTypecheck run h
  simp only [cppTypecheck] at hcount' ⊢
  rw [bne_iff_ne, ne_eq, hcount', Nat.mod_eq_of_lt hcount]
  have hrun : 0 < errorCount run.messages ↔ ∃ m ∈ run.messages, m.level = mError := by
    simp [errorCount, List.length_pos, List.filter_eq_nil_iff]
  cases ht : run.thrown with
  | none => simp [reportedErrors, ht, ← hrun]; omega
  | some e =>
    have he := errorCount_catchMessages e
    simp only [reportedErrors, ht, Option.map_some', Option.getD_some, Option.some.injEq,
      exists_eq_left', ← hrun, ← he]
    omega

/-- `typecheck_expr` throwing a `std::string`. -/
def stringThrow : TypecheckExprRun := ⟨[], Irept.nil, some (.string "no such member")⟩

theorem cppTypecheck_eq_true_iff_stringThrow :
    (⟨fun _ => 0⟩ : MessageHandlert).messageCount mError < 2 ^ 32 ∧
      ((cppTypecheck stringThrow ⟨fun _ => 0⟩).1 = true ↔
        (∃ m ∈ stringThrow.messages, m.level = mError) ∨
          ∃ e, stringThrow.thrown = some e ∧ e.IsReported) :=
  ⟨by decide, cppTypecheck_eq_true_iff stringThrow ⟨fun _ => 0⟩ (by decide)⟩

/-- `typecheck_expr` throwing `0` without printing an error first. -/
def silentThrow : TypecheckExprRun := ⟨[], Irept.nil, some (.int 0)⟩

/-- `typecheck_expr` returning normally without printing anything. -/
def quietReturn : TypecheckExprRun := ⟨[], Irept.nil, none⟩

/-- After a silent `throw 0` the entry point reports success; and with 2^32 errors
counted before, a quiet normal return is reported as failure. -/
theorem cppTypecheck_silent_throw_succeeds :
    (cppTypecheck silentThrow ⟨fun _ => 0⟩).1 = false ∧
      (cppTypecheck quietReturn ⟨fun _ => 2 ^ 32⟩).1 = true :=
  ⟨rfl, rfl⟩

end Cbmc.Cpp
