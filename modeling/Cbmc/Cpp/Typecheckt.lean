import Cbmc.Util.SymbolTable

/-!
# The C++ type checker's state

`cpp_typecheckt` holds the symbol table it fills, the module name, the objects
that need dynamic initialization and the members whose conversion was deferred.
The passes run after conversion (`static_and_dynamic_initialization`,
`do_not_typechecked`, `clean_up`) are functions on this record.

The member `contains_cpp_name` asks whether an expression still holds a C++ name
or declaration. It walks `operands()` only: a name inside a type or another named
sub-tree does not count.
-/

namespace Cbmc.Cpp

open Util

/-- `cpp_typecheckt`, with the members the modelled passes read or write. -/
structure CppTypecheckt where
  symbolTable : SymbolTablet
  module : String
  dynamicInitializations : List String
  deferredTypechecking : List String
  disableAccessControl : Bool

mutual
/-- `cpp_typecheckt::contains_cpp_name`. -/
def containsCppName : Irept → Bool
  | .mk id sub _ =>
    if id = idCppName ∨ id = idCppDeclaration then true else anyContainsCppName sub

/-- Its loop over `operands()`, which returns at the first operand that contains one. -/
def anyContainsCppName : List Irept → Bool
  | [] => false
  | op :: ops => if containsCppName op then true else anyContainsCppName ops
end

/-- `n` is `e` or reachable from it through `operands()`. -/
inductive OperandReach : Irept → Irept → Prop
  | refl (e : Irept) : OperandReach e e
  | operand {e op n : Irept} : op ∈ e.sub → OperandReach op n → OperandReach e n

/-- The identifiers `contains_cpp_name` looks for. -/
def IsCppName (n : Irept) : Prop := n.id = idCppName ∨ n.id = idCppDeclaration

theorem operandReach_iff {e n : Irept} :
    OperandReach e n ↔ n = e ∨ ∃ op ∈ e.sub, OperandReach op n := by
  constructor
  · rintro (_ | ⟨hop, h⟩)
    · exact .inl rfl
    · exact .inr ⟨_, hop, h⟩
  · rintro (rfl | ⟨op, hop, h⟩)
    · exact .refl _
    · exact .operand hop h

mutual
theorem containsCppName_iff_exists_operandReach :
    ∀ e : Irept, containsCppName e = true ↔ ∃ n, OperandReach e n ∧ IsCppName n
  | .mk id sub named => by
    have hsub := anyContainsCppName_iff sub
    by_cases h : id = idCppName ∨ id = idCppDeclaration
    · simp only [containsCppName, h, if_true, true_iff]
      exact ⟨_, .refl _, h⟩
    · simp only [containsCppName, h, if_false, hsub, operandReach_iff (e := .mk id sub named)]
      constructor
      · rintro ⟨op, hop, n, hn, hname⟩
        exact ⟨n, .inr ⟨op, hop, hn⟩, hname⟩
      · rintro ⟨n, rfl | ⟨op, hop, hn⟩, hname⟩
        · exact absurd hname h
        · exact ⟨op, hop, n, hn, hname⟩

theorem anyContainsCppName_iff :
    ∀ l : List Irept, anyContainsCppName l = true ↔
      ∃ op ∈ l, ∃ n, OperandReach op n ∧ IsCppName n
  | [] => by simp [anyContainsCppName]
  | op :: ops => by
    have hop := containsCppName_iff_exists_operandReach op
    have hops := anyContainsCppName_iff ops
    by_cases h : containsCppName op = true
    · simp only [anyContainsCppName, h, if_true, true_iff]
      exact ⟨op, List.mem_cons_self _ _, hop.1 h⟩
    · simp only [anyContainsCppName, h, List.mem_cons, exists_eq_or_imp, ← hop,
        Bool.false_eq_true, if_false, false_or, hops]
end

end Cbmc.Cpp
