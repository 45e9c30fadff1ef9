import Mathlib.Logic.Basic

/-!
# Internal representation trees

`irept` is the one data structure behind expressions, types and code: an
identifier, a list of unnamed sub-trees (the operands of an `exprt`) and a map of
named sub-trees (the type of an expression is the named sub-tree `type`). Names
that start with `#` are comments and take no part in `irept::operator==`. The map
is a list of entries here: lookups take the first entry of a name, updates change
that entry in place or append a new one, as `named_subt` does for a missing key.
The order of the entries is not part of the map, and `beq` compares maps.
-/

namespace Cbmc.Util

/-! ### Identifiers of `irep_ids.def` read by the modelled code -/

def idNil : String := "nil"
def idType : String := "type"
def idCode : String := "code"
def idStruct : String := "struct"
def idUnion : String := "union"
def idSymbol : String := "symbol"
def idStatement : String := "statement"
def idBlock : String := "block"
def idComponents : String := "components"
def idMethods : String := "methods"
def idParameters : String := "parameters"
def idReturnType : String := "return_type"
def idConstructor : String := "constructor"
def idCpp : String := "cpp"
def idIsStatic : String := "is_static"
def idIsType : String := "is_type"
def idIsTemplate : String := "is_template"
def idIsUsed : String := "is_used"
def idFunctionCall : String := "function_call"
def idAssign : String := "assign"
def idDead : String := "dead"
def idAssume : String := "assume"
def idAssert : String := "assert"
def idArguments : String := "arguments"
def idIdentifier : String := "identifier"
def idSignedbv : String := "signedbv"
def idWidth : String := "width"
def idCppName : String := "cpp-name"
def idCppDeclaration : String := "cpp-declaration"
def idCppNotTypechecked : String := "cpp_not_typechecked"
def idEmpty : String := "empty"
def idCSourceLocation : String := "#source_location"
def idCMemberName : String := "#member_name"
def id1 : String := "1"
def id0 : String := "0"

/-- `irept`: identifier, sub-trees and named sub-trees. The default value is
`irept()`, whose identifier is empty. -/
inductive Irept where
  | mk (id : String) (sub : List Irept) (namedSub : List (String × Irept))
  deriving Inhabited, Repr

namespace Irept

def id : Irept → String
  | mk i _ _ => i

/-- The unnamed sub-trees; for an `exprt` these are its `operands()`. -/
def sub : Irept → List Irept
  | mk _ s _ => s

def namedSub : Irept → List (String × Irept)
  | mk _ _ n => n

@[simp] theorem id_mk (i : String) (s : List Irept) (n : List (String × Irept)) :
    (mk i s n).id = i := rfl

@[simp] theorem sub_mk (i : String) (s : List Irept) (n : List (String × Irept)) :
    (mk i s n).sub = s := rfl

@[simp] theorem namedSub_mk (i : String) (s : List Irept) (n : List (String × Irept)) :
    (mk i s n).namedSub = n := rfl

/-- `get_nil_irep()`. -/
def nil : Irept := mk idNil [] []

def isNil (i : Irept) : Bool := i.id == idNil

/-- `irept::id(const irep_idt &)`: replace the identifier only. -/
def withId (i : Irept) (newId : String) : Irept := mk newId i.sub i.namedSub

/-- Replace the sub-trees, keeping the identifier and the named sub-trees. -/
def withSub (i : Irept) (s : List Irept) : Irept := mk i.id s i.namedSub

/-- `irept::find`: the named sub-tree, or `nil` when there is none. -/
def find (i : Irept) (name : String) : Irept := (i.namedSub.lookup name).getD nil

/-- `irept::get`: the identifier of the named sub-tree, empty when there is none. -/
def get (i : Irept) (name : String) : String :=
  match i.namedSub.lookup name with
  | some x => x.id
  | none => ""

/-- `irept::get_bool`. -/
def getBool (i : Irept) (name : String) : Bool := i.get name == id1

/-- `exprt::type()` and `typet`'s own sub-types such as `return_type()`. -/
def type (i : Irept) : Irept := i.find idType

/-- Update the first entry of `name`, or append `f irept()` when there is none:
`named_subt::operator[]` followed by a write through the returned reference. -/
def modifyEntry (name : String) (f : Irept → Irept) :
    List (String × Irept) → List (String × Irept)
  | [] => [(name, f default)]
  | (k, v) :: rest =>
    if k == name then (k, f v) :: rest else (k, v) :: modifyEntry name f rest

/-- `irept::add(name)` followed by an update of the entry it returns. -/
def modifyNamed (i : Irept) (name : String) (f : Irept → Irept) : Irept :=
  mk i.id i.sub (modifyEntry name f i.namedSub)

/-- `irept::set(name, irept)`, also `irept::add(name, irept)`. -/
def set (i : Irept) (name : String) (v : Irept) : Irept := i.modifyNamed name fun _ => v

/-- `irept::set(name, bool)`: the overload for `long long`, that is
`add(name).id(std::to_string(b))`. -/
def setBool (i : Irept) (name : String) (b : Bool) : Irept :=
  i.modifyNamed name fun x => x.withId (if b then id1 else id0)

theorem lookup_cons_of_ne {a k : String} {b : Irept} {es : List (String × Irept)}
    (h : a ≠ k) : ((k, b) :: es).lookup a = es.lookup a := by
  rw [List.lookup_cons, beq_false_of_ne h]

theorem lookup_modifyEntry_self (name : String) (f : Irept → Irept) :
    ∀ l : List (String × Irept),
      (modifyEntry name f l).lookup name = some (f ((l.lookup name).getD default))
  | [] => by simp [modifyEntry]
  | (k, v) :: rest => by
    by_cases h : k = name
    · subst h; simp [modifyEntry]
    · simp [modifyEntry, h, lookup_cons_of_ne (Ne.symm h), lookup_modifyEntry_self name f rest]

theorem lookup_modifyEntry_of_ne {name n : String} (f : Irept → Irept) (hn : n ≠ name) :
    ∀ l : List (String × Irept), (modifyEntry name f l).lookup n = l.lookup n
  | [] => by simp [modifyEntry, lookup_cons_of_ne hn]
  | (k, v) :: rest => by
    by_cases h : k = name
    · subst h; simp [modifyEntry, lookup_cons_of_ne hn]
    · by_cases hk : n = k
      · subst hk; simp [modifyEntry, h]
      · simp [modifyEntry, h, lookup_cons_of_ne hk, lookup_modifyEntry_of_ne f hn rest]

/-- Updating an entry with a function that fixes its value changes nothing. -/
theorem modifyEntry_of_lookup {name : String} {f : Irept → Irept} {v : Irept} (hf : f v = v) :
    ∀ {l : List (String × Irept)}, l.lookup name = some v → modifyEntry name f l = l
  | [], h => by simp at h
  | (k, w) :: rest, h => by
    by_cases hk : k = name
    · subst hk
      obtain rfl : w = v := by simpa using h
      simp [modifyEntry, hf]
    · rw [lookup_cons_of_ne (Ne.symm hk)] at h
      simp [modifyEntry, hk, modifyEntry_of_lookup hf h]

@[simp] theorem withSub_sub (i : Irept) : i.withSub i.sub = i := by cases i; rfl

@[simp] theorem sub_withSub (i : Irept) (s : List Irept) : (i.withSub s).sub = s := rfl

/-- Updating an existing entry with a function that fixes its value changes nothing. -/
theorem modifyNamed_of_lookup {i : Irept} {name : String} {f : Irept → Irept} {v : Irept}
    (h : i.namedSub.lookup name = some v) (hf : f v = v) : i.modifyNamed name f = i := by
  obtain ⟨id, sub, namedSub⟩ := i
  simp only [namedSub_mk] at h
  simp [modifyNamed, modifyEntry_of_lookup hf h]

/-- Writing back the sub-trees an existing entry already has changes nothing. -/
theorem modifyNamed_withSub_self {i : Irept} {name : String}
    (h : (i.namedSub.lookup name).isSome) :
    i.modifyNamed name (·.withSub (i.find name).sub) = i := by
  obtain ⟨v, hv⟩ := Option.isSome_iff_exists.1 h
  exact modifyNamed_of_lookup hv (by simp [find, hv])

@[simp] theorem id_modifyNamed (i : Irept) (name : String) (f : Irept → Irept) :
    (i.modifyNamed name f).id = i.id := rfl

@[simp] theorem sub_modifyNamed (i : Irept) (name : String) (f : Irept → Irept) :
    (i.modifyNamed name f).sub = i.sub := rfl

@[simp] theorem id_setBool (i : Irept) (name : String) (b : Bool) :
    (i.setBool name b).id = i.id := rfl

@[simp] theorem sub_setBool (i : Irept) (name : String) (b : Bool) :
    (i.setBool name b).sub = i.sub := rfl

@[simp] theorem getBool_setBool_self (i : Irept) (name : String) (b : Bool) :
    (i.setBool name b).getBool name = b := by
  cases b <;> simp [setBool, getBool, get, modifyNamed, lookup_modifyEntry_self, withId, id0, id1]

/-- Setting a flag that is already set changes nothing. -/
theorem setBool_of_getBool {i : Irept} {name : String} (h : i.getBool name = true) :
    i.setBool name true = i := by
  unfold getBool get at h
  split at h
  · next v hv =>
    obtain ⟨id, sub, namedSub⟩ := v
    obtain rfl : id = id1 := by simpa using h
    exact modifyNamed_of_lookup hv rfl
  · simp [id1] at h

theorem getBool_setBool_of_ne (i : Irept) {name n : String} (b : Bool) (hn : n ≠ name) :
    (i.setBool name b).getBool n = i.getBool n := by
  simp [setBool, getBool, get, modifyNamed, lookup_modifyEntry_of_ne _ hn]

@[simp] theorem find_set_self (i : Irept) (name : String) (v : Irept) :
    (i.set name v).find name = v := by
  simp [set, find, modifyNamed, lookup_modifyEntry_self]

theorem find_set_of_ne (i : Irept) {name n : String} (v : Irept) (hn : n ≠ name) :
    (i.set name v).find n = i.find n := by
  simp [set, find, modifyNamed, lookup_modifyEntry_of_ne _ hn]

@[simp] theorem id_set (i : Irept) (name : String) (v : Irept) : (i.set name v).id = i.id := rfl

/-- A comment name: one that starts with `#`, as `irept::is_comment` tests. -/
def isComment (name : String) : Bool := name.front == '#'

mutual
/-- `irept::operator==`: the identifiers and the sub-trees agree, and the named
sub-trees agree as maps, comment entries aside. `named_subt` is a map sorted by name,
so the code walks both maps in step; here a map is the first entry of each name. -/
def beq : Irept → Irept → Bool
  | mk i s n, mk i' s' n' =>
    i == i' && subBeq s s' && namedLe n [] n' && n'.all fun e => isComment e.1 || (n.lookup e.1).isSome

/-- Pointwise comparison of sub-tree lists. -/
def subBeq : List Irept → List Irept → Bool
  | [], [] => true
  | x :: xs, y :: ys => beq x y && subBeq xs ys
  | _, _ => false

/-- Every name of the first map that is not a comment has an equal entry in the
second; an entry whose name is in `seen`, the names met before, is not the map's. -/
def namedLe : List (String × Irept) → List String → List (String × Irept) → Bool
  | [], _, _ => true
  | (k, x) :: xs, seen, ys =>
    (isComment k || seen.contains k ||
      match ys.lookup k with
      | some y => beq x y
      | none => false) && namedLe xs (k :: seen) ys
end

instance : BEq Irept := ⟨beq⟩

end Irept

/-! ### Abnormal ends

The assertion macros of `util/invariant.h` and the exceptions the modelled code
lets escape. A run that ends in one of these returns `Except.error`. -/

inductive Failure
  /-- `DATA_INVARIANT`, `UNREACHABLE` and `CHECK_RETURN`. -/
  | invariantViolation (reason : String)
  /-- `PRECONDITION`. -/
  | preconditionViolation (condition : String)
  /-- `incorrect_goto_program_exceptiont`, thrown by `DATA_CHECK` in `EXCEPTION` mode. -/
  | incorrectGotoProgram (reason : String)
  /-- `std::out_of_range`, thrown by `symbol_table_baset::get_writeable_ref`. -/
  | outOfRange (what : String)
  deriving DecidableEq, Repr

section ExceptBind

variable {ε α β : Type}

@[simp] theorem ok_bind (a : α) (f : α → Except ε β) : (Except.ok a >>= f) = f a := rfl

@[simp] theorem error_bind (e : ε) (f : α → Except ε β) :
    (Except.error e >>= f : Except ε β) = .error e := rfl

@[simp] theorem except_pure (a : α) : (pure a : Except ε α) = .ok a := rfl

@[simp] theorem except_throw (e : ε) : (throw e : Except ε α) = .error e := rfl

/-- Peel one step off a computation that returned. -/
theorem bind_eq_ok {x : Except ε α} {f : α → Except ε β} {b : β} (h : x >>= f = .ok b) :
    ∃ a, x = .ok a ∧ f a = .ok b := by
  cases x with
  | error e => cases h
  | ok a => exact ⟨a, rfl, h⟩

/-- A map whose every step returns returns the mapped list. -/
theorem mapM_eq_ok_map {f : α → Except ε β} {g : α → β} :
    ∀ {l : List α}, (∀ a ∈ l, f a = .ok (g a)) → l.mapM f = .ok (l.map g)
  | [], _ => rfl
  | a :: l, h => by
    rw [List.mapM_cons, h a (.head _), mapM_eq_ok_map fun b hb => h b (.tail _ hb)]
    rfl

/-- A map that returned returned at every step. -/
theorem exists_of_mapM_eq_ok {f : α → Except ε β} :
    ∀ {l : List α} {l' : List β}, l.mapM f = .ok l' → ∀ a ∈ l, ∃ b, f a = .ok b
  | [], _, _, a, ha => absurd ha (List.not_mem_nil a)
  | a :: l, l', h, b, hb => by
    rw [List.mapM_cons] at h
    obtain ⟨c, hc, h⟩ := bind_eq_ok h
    obtain ⟨cs, hcs, -⟩ := bind_eq_ok h
    rcases List.mem_cons.1 hb with rfl | hb
    · exact ⟨c, hc⟩
    · exact exists_of_mapM_eq_ok hcs b hb

end ExceptBind

end Cbmc.Util
