import Cbmc.Util.Irep
import Mathlib.Data.List.Basic

/-!
# Structural checks of goto instruction code

`code_assignt`, `code_deadt` and `code_function_callt` check the shape of a
`codet`: `check` counts operands, `validate` adds type checks and `validate_full`
first runs `validate_full_expr` on every operand. `DATA_CHECK` fails an invariant
in `INVARIANT` mode and throws `incorrect_goto_program_exceptiont` in `EXCEPTION`
mode, so in `EXCEPTION` mode a validator is meant to return or throw that
exception. The assignment and dead validators do; `code_function_callt::validate`
casts the callee's type with `to_code_type` before anything checks that it is a
code type, and so stops on the cast's precondition instead.

What the classes' constructors build is accepted by their casts and read back by
their accessors (`code_constructors_roundtrip`).
-/

namespace Cbmc.Util

/-- `validation_modet`. -/
inductive ValidationModet
  | INVARIANT
  | EXCEPTION
  deriving DecidableEq, Repr

/-- `DATA_CHECK(vm, condition, message)`. The message is evaluated only when the
condition is false; operand accesses inside either may stop the run first. -/
def dataCheck (vm : ValidationModet) (condition : Except Failure Bool)
    (message : Except Failure String) : Except Failure Unit := do
  if ← condition then pure ()
  else
    let m ← message
    match vm with
    | .INVARIANT => throw (.invariantViolation m)
    | .EXCEPTION => throw (.incorrectGotoProgram m)

/-- `exprt::op0()` to `op3()`: the operand at index `n`, under the precondition that
there are more than `n` operands. -/
def Irept.op (e : Irept) (n : Nat) : Except Failure Irept :=
  match e.sub[n]? with
  | some x => .ok x
  | none => .error (.preconditionViolation ("operands().size() >= " ++ toString (n + 1)))

/-- `to_code_type`: the cast's precondition `can_cast_type<code_typet>(type)`. -/
def toCodeType (type : Irept) : Except Failure Irept :=
  if type.id = idCode then .ok type
  else .error (.preconditionViolation "can_cast_type<code_typet>(type)")

/-- `code_typet::return_type()`. -/
def Irept.returnType (type : Irept) : Irept := type.find idReturnType

section Validators

-- `validate_full_expr(op, ns, vm)`, defined outside this header, for a fixed namespace.
variable (validateFullExpr : Irept → ValidationModet → Except Failure Unit)

namespace CodeAssignt

def check (code : Irept) (vm : ValidationModet) : Except Failure Unit :=
  dataCheck vm (pure (code.sub.length == 2)) (pure "assignment must have two operands")

def validate (code : Irept) (vm : ValidationModet) : Except Failure Unit := do
  check code vm
  dataCheck vm (return (← code.op 0).type == (← code.op 1).type)
    (pure "lhs and rhs of assignment must have same type")

def validateFull (code : Irept) (vm : ValidationModet) : Except Failure Unit := do
  code.sub.forM fun op => validateFullExpr op vm
  validate code vm

end CodeAssignt

namespace CodeDeadt

def check (code : Irept) (vm : ValidationModet) : Except Failure Unit := do
  dataCheck vm (pure (code.sub.length == 1)) (pure "removal (code_deadt) must have one operand")
  dataCheck vm (return (← code.op 0).id == idSymbol)
    (return "removing a non-symbol: " ++ (← code.op 0).id ++ "from scope")

end CodeDeadt

namespace CodeFunctionCallt

def check (code : Irept) (vm : ValidationModet) : Except Failure Unit :=
  dataCheck vm (pure (code.sub.length == 3))
    (pure ("function calls must have three operands:\n1) expression to store the " ++
      "returned values\n2) the function being called\n3) the vector of " ++ "arguments"))

def validate (code : Irept) (vm : ValidationModet) : Except Failure Unit := do
  check code vm
  if (← code.op 0).id ≠ idNil then
    dataCheck vm
      (return (← code.op 0).type == (← toCodeType (← code.op 1).type).returnType)
      (pure "function returns expression of wrong type")

def validateFull (code : Irept) (vm : ValidationModet) : Except Failure Unit := do
  code.sub.forM fun op => validateFullExpr op vm
  validate code vm

end CodeFunctionCallt

end Validators

/-! ### What the checks accept -/

@[simp] theorem dataCheck_true (vm : ValidationModet) (message : Except Failure String) :
    dataCheck vm (.ok true) message = .ok () := rfl

/-- A condition or message that stops the run stops the check. -/
@[simp] theorem dataCheck_error (vm : ValidationModet) (e : Failure) (message : Except Failure String) :
    dataCheck vm (.error e) message = .error e := rfl

theorem dataCheck_ok_eq_ok {vm : ValidationModet} {c : Bool} {m : String} :
    dataCheck vm (.ok c) (.ok m) = .ok () ↔ c = true := by
  cases c
  · cases vm <;> simp [dataCheck]
  · simp

theorem op_of_getElem? {e x : Irept} {n : Nat} (h : e.sub[n]? = some x) : e.op n = .ok x := by
  simp [Irept.op, h]

/-- A check on the number of operands passes exactly when the number is right. -/
theorem dataCheck_count_eq_ok {vm : ValidationModet} {count number : Nat} {m : String} :
    dataCheck vm (pure (count == number)) (pure m) = .ok () ↔ count = number := by
  simp [dataCheck_ok_eq_ok]

theorem CodeAssignt.check_eq_ok (code : Irept) (vm : ValidationModet) :
    check code vm = .ok () ↔ code.sub.length = 2 := dataCheck_count_eq_ok

theorem CodeFunctionCallt.check_eq_ok (code : Irept) (vm : ValidationModet) :
    check code vm = .ok () ↔ code.sub.length = 3 := dataCheck_count_eq_ok

theorem CodeDeadt.check_eq_ok (code : Irept) (vm : ValidationModet) :
    check code vm = .ok () ↔ ∃ op, code.sub = [op] ∧ op.id = idSymbol := by
  by_cases h1 : code.sub.length = 1
  · obtain ⟨a, ha⟩ := List.length_eq_one.1 h1
    simp [check, h1, op_of_getElem? (by simp [ha] : code.sub[0]? = some a), ha,
      dataCheck_ok_eq_ok]
  · refine ⟨fun h => ?_, fun ⟨op, hop, _⟩ => absurd (by simp [hop]) h1⟩
    obtain ⟨u, hu, -⟩ := bind_eq_ok h
    exact absurd (dataCheck_count_eq_ok.1 hu) h1

theorem CodeAssignt.validate_eq_ok (code : Irept) (vm : ValidationModet) :
    validate code vm = .ok () ↔ ∃ lhs rhs, code.sub = [lhs, rhs] ∧ (lhs.type == rhs.type) = true := by
  by_cases h2 : code.sub.length = 2
  · obtain ⟨a, b, hab⟩ := List.length_eq_two.1 h2
    simp [validate, (check_eq_ok code vm).2 h2,
      op_of_getElem? (by simp [hab] : code.sub[0]? = some a),
      op_of_getElem? (by simp [hab] : code.sub[1]? = some b), dataCheck_ok_eq_ok, hab, and_assoc,
      exists_eq_left']
  · refine ⟨fun h => ?_, fun ⟨a, b, hab, _⟩ => absurd (by simp [hab]) h2⟩
    obtain ⟨_, hc, -⟩ := bind_eq_ok h
    exact absurd ((check_eq_ok code vm).1 hc) h2

theorem CodeFunctionCallt.validate_eq_ok (code : Irept) (vm : ValidationModet) :
    validate code vm = .ok () ↔
      ∃ lhs function arguments, code.sub = [lhs, function, arguments] ∧
        (lhs.id ≠ idNil →
          function.type.id = idCode ∧ (lhs.type == function.type.returnType) = true) := by
  by_cases h3 : code.sub.length = 3
  · obtain ⟨l, f, a, hs⟩ := List.length_eq_three.1 h3
    simp only [validate, (check_eq_ok code vm).2 h3, ok_bind,
      op_of_getElem? (by simp [hs] : code.sub[0]? = some l),
      op_of_getElem? (by simp [hs] : code.sub[1]? = some f), hs, List.cons.injEq, and_true]
    by_cases hnil : l.id = idNil
    · simp [hnil, and_assoc, exists_eq_left']
    · by_cases hcode : f.type.id = idCode
      · simp [hnil, hcode, toCodeType, dataCheck_ok_eq_ok, and_assoc, exists_eq_left']
      · simp [hnil, hcode, toCodeType, and_assoc, exists_eq_left']
  · refine ⟨fun h => ?_, fun ⟨l, f, a, hs, _⟩ => absurd (by simp [hs]) h3⟩
    obtain ⟨_, hc, -⟩ := bind_eq_ok h
    exact absurd ((check_eq_ok code vm).1 hc) h3

/-! ### `EXCEPTION` mode -/

/-- What `EXCEPTION` mode promises of a validator: it returns, or throws
`incorrect_goto_program_exceptiont`. -/
def ReturnsOrThrows {α : Type} : Except Failure α → Prop
  | .ok _ => True
  | .error f => ∃ m, f = .incorrectGotoProgram m

@[simp] theorem returnsOrThrows_ok {α : Type} (a : α) : ReturnsOrThrows (.ok a : Except Failure α) :=
  trivial

theorem ReturnsOrThrows.bind {α β : Type} {x : Except Failure α} {f : α → Except Failure β}
    (hx : ReturnsOrThrows x) (hf : ∀ a, x = .ok a → ReturnsOrThrows (f a)) :
    ReturnsOrThrows (x >>= f) := by
  cases x with
  | error e => exact hx
  | ok a => exact hf a rfl

theorem returnsOrThrows_forM {l : List Irept} {f : Irept → Except Failure Unit}
    (hf : ∀ x, ReturnsOrThrows (f x)) : ReturnsOrThrows (l.forM f) := by
  induction l with
  | nil => trivial
  | cons x xs ih => exact (hf x).bind fun _ _ => ih

/-- A `DATA_CHECK` whose condition and message evaluate keeps the promise. -/
theorem dataCheck_exception (c : Bool) (m : String) :
    ReturnsOrThrows (dataCheck .EXCEPTION (pure c) (pure m)) := by
  cases c <;> simp [dataCheck, ReturnsOrThrows]

section Validators

variable (validateFullExpr : Irept → ValidationModet → Except Failure Unit)

theorem CodeAssignt.check_returnsOrThrows (code : Irept) :
    ReturnsOrThrows (check code .EXCEPTION) := dataCheck_exception _ _

theorem CodeAssignt.validate_returnsOrThrows (code : Irept) :
    ReturnsOrThrows (validate code .EXCEPTION) := by
  refine (check_returnsOrThrows code).bind fun _ hc => ?_
  obtain ⟨a, b, hab⟩ : ∃ a b, code.sub = [a, b] :=
    List.length_eq_two.1 ((check_eq_ok code _).1 hc)
  simp only [op_of_getElem? (by simp [hab] : code.sub[0]? = some a),
    op_of_getElem? (by simp [hab] : code.sub[1]? = some b), ok_bind, except_pure]
  exact dataCheck_exception _ _

theorem CodeAssignt.validateFull_returnsOrThrows
    (hexpr : ∀ e, ReturnsOrThrows (validateFullExpr e .EXCEPTION)) (code : Irept) :
    ReturnsOrThrows (validateFull validateFullExpr code .EXCEPTION) :=
  (returnsOrThrows_forM fun x => hexpr x).bind fun _ _ => validate_returnsOrThrows code

theorem validateFull_returnsOrThrows_assignment :
    (∀ e, ReturnsOrThrows ((fun (_ : Irept) (_ : ValidationModet) =>
        (pure () : Except Failure Unit)) e .EXCEPTION)) ∧
      ReturnsOrThrows (CodeAssignt.validateFull (fun _ _ => pure ())
        (.mk idCode [.mk idSymbol [] [], .mk idSymbol [] []] [(idStatement, .mk idAssign [] [])])
        .EXCEPTION) :=
  ⟨fun _ => trivial, CodeAssignt.validateFull_returnsOrThrows (fun _ _ => pure ())
    (fun _ => trivial) _⟩

theorem CodeDeadt.check_returnsOrThrows (code : Irept) :
    ReturnsOrThrows (check code .EXCEPTION) := by
  refine (dataCheck_exception _ _).bind fun _ hc => ?_
  obtain ⟨a, ha⟩ : ∃ a, code.sub = [a] :=
    List.length_eq_one.1 (by simpa using dataCheck_ok_eq_ok.1 hc)
  simp only [op_of_getElem? (by simp [ha] : code.sub[0]? = some a), ok_bind, except_pure]
  exact dataCheck_exception _ _

theorem CodeFunctionCallt.check_returnsOrThrows (code : Irept) :
    ReturnsOrThrows (check code .EXCEPTION) := dataCheck_exception _ _

/-- `code_function_callt::validate` keeps the promise exactly when it never reaches
`to_code_type` on a callee whose type is not a code type. -/
theorem CodeFunctionCallt.validate_returnsOrThrows_iff (code : Irept) :
    ReturnsOrThrows (validate code .EXCEPTION) ↔
      ∀ lhs callee args, code.sub = [lhs, callee, args] → lhs.id ≠ idNil →
        callee.type.id = idCode := by
  by_cases h3 : code.sub.length = 3
  · obtain ⟨lhs, callee, args, hs⟩ := List.length_eq_three.1 h3
    have hc : check code .EXCEPTION = .ok () := (check_eq_ok code _).2 h3
    simp only [validate, hc, ok_bind, op_of_getElem? (by simp [hs] : code.sub[0]? = some lhs),
      op_of_getElem? (by simp [hs] : code.sub[1]? = some callee), hs, List.cons.injEq,
      and_true, and_imp, forall_eq', forall_apply_eq_imp_iff]
    by_cases hnil : lhs.id = idNil
    · simp [hnil]
    · by_cases hcode : callee.type.id = idCode
      · simpa [hnil, hcode, toCodeType] using dataCheck_exception _ _
      · simp [hnil, hcode, toCodeType, dataCheck, ReturnsOrThrows]
  · obtain ⟨m, hc⟩ : ∃ m, check code .EXCEPTION = .error (.incorrectGotoProgram m) :=
      ⟨_, by simp [check, dataCheck, h3]; rfl⟩
    simp only [validate, hc, error_bind]
    exact ⟨fun _ lhs callee args hs => absurd (by simp [hs]) h3, fun _ => ⟨m, rfl⟩⟩

end Validators

/-! ### Casts

`to_code_assign` and its siblings check the statement with a `PRECONDITION`, then
the shape of the code with the class's `check` in its default `INVARIANT` mode
(`to_code_assume` and `to_code_assert` with `validate_operands`), and return their
argument. -/

/-- `validate_operands(value, number, message)`: a `DATA_INVARIANT` on the number of
operands. -/
def validateOperands (value : Irept) (number : Nat) (message : String) : Except Failure Unit :=
  dataCheck .INVARIANT (pure (value.sub.length == number)) (pure message)

/-- The body the casts share, for the class's statement and check. -/
def castCode (statement : String) (check : Irept → Except Failure Unit) (code : Irept) :
    Except Failure Irept := do
  if code.get idStatement ≠ statement then
    throw (.preconditionViolation ("code.get_statement() == ID_" ++ statement))
  check code
  pure code

def toCodeAssign (code : Irept) : Except Failure Irept :=
  castCode idAssign (CodeAssignt.check · .INVARIANT) code

def toCodeDead (code : Irept) : Except Failure Irept :=
  castCode idDead (CodeDeadt.check · .INVARIANT) code

def toCodeFunctionCall (code : Irept) : Except Failure Irept :=
  castCode idFunctionCall (CodeFunctionCallt.check · .INVARIANT) code

def toCodeAssume (code : Irept) : Except Failure Irept :=
  castCode idAssume (validateOperands · 1 "assume must have one operand") code

def toCodeAssert (code : Irept) : Except Failure Irept :=
  castCode idAssert (validateOperands · 1 "assert must have one operand") code

theorem castCode_eq_ok {statement : String} {check : Irept → Except Failure Unit}
    {code r : Irept} :
    castCode statement check code = .ok r ↔
      code.get idStatement = statement ∧ check code = .ok () ∧ r = code := by
  unfold castCode
  by_cases hs : code.get idStatement = statement
  · cases hc : check code with
    | error e => simp [hs, hc]
    | ok u => simp [hs, hc, eq_comm]
  · simp [hs]

/-- `x = f();` as a `codet`, where `f` is a variable of a 32-bit signed type rather
than a function. -/
def callOfNonCode : Irept :=
  let int32 : Irept := .mk idSignedbv [] [(idWidth, .mk "32" [] [])]
  .mk idCode
    [.mk idSymbol [] [(idType, int32), (idIdentifier, .mk "x" [] [])],
     .mk idSymbol [] [(idType, int32), (idIdentifier, .mk "f" [] [])],
     .mk idArguments [] []]
    [(idStatement, .mk idFunctionCall [] [])]

/-- On `callOfNonCode` in `EXCEPTION` mode, `validate` and `validate_full` (with a
`validate_full_expr` that accepts every operand) stop on the precondition of
`to_code_type` rather than throwing `incorrect_goto_program_exceptiont`. -/
theorem function_call_validate_precondition_violation :
    CodeFunctionCallt.validate callOfNonCode .EXCEPTION =
        .error (.preconditionViolation "can_cast_type<code_typet>(type)") ∧
      CodeFunctionCallt.validateFull (fun _ _ => pure ()) callOfNonCode .EXCEPTION =
        .error (.preconditionViolation "can_cast_type<code_typet>(type)") :=
  ⟨rfl, rfl⟩

/-! ### Constructors and accessors

The constructors build a `codet` of the class's statement with the operands the
class expects; the accessors read them back through `op0()` to `op2()`. -/

/-- `codet(statement, operands)` (defined outside this header): an expression with id
`code`, the empty type, the statement as a named sub-tree, and the operands. -/
def codet (statement : String) (operands : List Irept) : Irept :=
  .mk idCode operands [(idType, .mk idEmpty [] []), (idStatement, .mk statement [] [])]

/-- `symbol_exprt`: an expression whose id is `symbol`. -/
structure SymbolExprt where
  expr : Irept
  id_eq : expr.id = idSymbol

/-- `symbol_exprt::get_identifier()`. -/
def SymbolExprt.getIdentifier (symbol : SymbolExprt) : String := symbol.expr.get idIdentifier

/-- `code_assignt()`: `operands().resize(2)` adds two default operands. -/
def codeAssigntDefault : Irept := codet idAssign [default, default]

/-- `code_assignt(lhs, rhs)`. -/
def codeAssignt (lhs rhs : Irept) : Irept := codet idAssign [lhs, rhs]

/-- `code_assignt(lhs, rhs, loc)`: the location is a comment entry. -/
def codeAssigntAt (lhs rhs loc : Irept) : Irept :=
  (codet idAssign [lhs, rhs]).set idCSourceLocation loc

/-- `code_deadt(symbol)`. -/
def codeDeadt (symbol : SymbolExprt) : Irept := codet idDead [symbol.expr]

/-- `code_function_callt(function)`: a nil left-hand side and no arguments. -/
def codeFunctionCallt (function : Irept) : Irept :=
  codet idFunctionCall [Irept.nil, function, .mk idArguments [] []]

/-- `code_function_callt(function, arguments)`: the arguments are written through
`arguments()`, the operands of the third operand. -/
def codeFunctionCalltWithArguments (function : Irept) (arguments : List Irept) : Irept :=
  codet idFunctionCall [Irept.nil, function, .mk idArguments arguments []]

/-- `code_function_callt(lhs, function, arguments)`. -/
def codeFunctionCalltWithLhs (lhs function : Irept) (arguments : List Irept) : Irept :=
  codet idFunctionCall [lhs, function, .mk idArguments arguments []]

/-- `code_assumet(expr)`. -/
def codeAssumet (expr : Irept) : Irept := codet idAssume [expr]

/-- `code_assertt(expr)`. -/
def codeAssertt (expr : Irept) : Irept := codet idAssert [expr]

def CodeAssignt.lhs (code : Irept) : Except Failure Irept := code.op 0

def CodeAssignt.rhs (code : Irept) : Except Failure Irept := code.op 1

/-- `code_deadt::symbol()`: the operand, cast to `symbol_exprt` with no check. -/
def CodeDeadt.symbol (code : Irept) : Except Failure Irept := code.op 0

def CodeDeadt.getIdentifier (code : Irept) : Except Failure String :=
  return (← symbol code).get idIdentifier

def CodeFunctionCallt.lhs (code : Irept) : Except Failure Irept := code.op 0

def CodeFunctionCallt.function (code : Irept) : Except Failure Irept := code.op 1

def CodeFunctionCallt.arguments (code : Irept) : Except Failure (List Irept) :=
  return (← code.op 2).sub

def CodeAssumet.assumption (code : Irept) : Except Failure Irept := code.op 0

def CodeAssertt.assertion (code : Irept) : Except Failure Irept := code.op 0

/-- Whatever the arguments, the class's cast returns what a constructor builds, and
the accessors give back the arguments. -/
theorem code_constructors_roundtrip (lhs rhs function expr loc : Irept) (symbol : SymbolExprt)
    (arguments : List Irept) :
    (toCodeAssign (codeAssignt lhs rhs) >>= fun c => do
      return (← CodeAssignt.lhs c, ← CodeAssignt.rhs c)) = .ok (lhs, rhs) ∧
    (toCodeAssign (codeAssigntAt lhs rhs loc) >>= fun c => do
      return (← CodeAssignt.lhs c, ← CodeAssignt.rhs c)) = .ok (lhs, rhs) ∧
    (toCodeAssign codeAssigntDefault >>= fun c => do
      return (← CodeAssignt.lhs c, ← CodeAssignt.rhs c)) = .ok (default, default) ∧
    (toCodeDead (codeDeadt symbol) >>= CodeDeadt.getIdentifier) = .ok symbol.getIdentifier ∧
    (toCodeFunctionCall (codeFunctionCallt function) >>= fun c => do
      return (← CodeFunctionCallt.lhs c, ← CodeFunctionCallt.function c,
        ← CodeFunctionCallt.arguments c)) = .ok (Irept.nil, function, []) ∧
    (toCodeFunctionCall (codeFunctionCalltWithArguments function arguments) >>= fun c => do
      return (← CodeFunctionCallt.lhs c, ← CodeFunctionCallt.function c,
        ← CodeFunctionCallt.arguments c)) = .ok (Irept.nil, function, arguments) ∧
    (toCodeFunctionCall (codeFunctionCalltWithLhs lhs function arguments) >>= fun c => do
      return (← CodeFunctionCallt.lhs c, ← CodeFunctionCallt.function c,
        ← CodeFunctionCallt.arguments c)) = .ok (lhs, function, arguments) ∧
    (toCodeAssume (codeAssumet expr) >>= CodeAssumet.assumption) = .ok expr ∧
    (toCodeAssert (codeAssertt expr) >>= CodeAssertt.assertion) = .ok expr := by
  have hdead : toCodeDead (codeDeadt symbol) = .ok (codeDeadt symbol) :=
    castCode_eq_ok.2 ⟨rfl, (CodeDeadt.check_eq_ok _ _).2 ⟨_, rfl, symbol.id_eq⟩, rfl⟩
  exact ⟨rfl, rfl, rfl, by rw [hdead]; rfl, rfl, rfl, rfl, rfl, rfl⟩

end Cbmc.Util
