import Cbmc.Cpp.Typecheckt
import Mathlib.Data.List.Basic

/-!
# Clean-up after type checking

`clean_up` walks the symbol table once, erasing the symbol under the iterator
after it has moved on: templates and the members whose conversion was deferred
go. For every other struct or union it sorts the components: static members and
member types are dropped, members of code type are appended to `methods`, and
the rest stay as `components`. The results below say it as two filters of the
original components and show that no member is lost or duplicated.
-/

namespace Cbmc.Cpp

open Util

/-- A component `clean_up` keeps in one of the two lists: neither static nor a type. -/
def isMember (c : Irept) : Bool := !(c.getBool idIsStatic || c.getBool idIsType)

def isMethod (c : Irept) : Bool := isMember c && c.type.id == idCode

def isDataMember (c : Irept) : Bool := isMember c && !(c.type.id == idCode)

/-- The loop over `components`, with `data_members` and `function_members` as
accumulators; `function_members` starts as the type's existing `methods`. -/
def splitComponents : List Irept → List Irept → List Irept → List Irept × List Irept
  | [], dataMembers, functionMembers => (dataMembers, functionMembers)
  | c :: cs, dataMembers, functionMembers =>
    if c.getBool idIsStatic || c.getBool idIsType then
      splitComponents cs dataMembers functionMembers
    else if c.type.id = idCode then
      splitComponents cs dataMembers (functionMembers ++ [c])
    else
      splitComponents cs (dataMembers ++ [c]) functionMembers

/-- The struct-or-union branch of `clean_up` for one type: `add(ID_components)`
and `add(ID_methods)` create the two entries when missing. -/
def removeMethods (type : Irept) : Irept :=
  let split := splitComponents (type.find idComponents).sub [] (type.find idMethods).sub
  (type.modifyNamed idComponents (·.withSub split.1)).modifyNamed idMethods (·.withSub split.2)

def IsStructOrUnion (type : Irept) : Prop := type.id = idStruct ∨ type.id = idUnion

instance (type : Irept) : Decidable (IsStructOrUnion type) :=
  inferInstanceAs (Decidable (_ ∨ _))

/-- `clean_up`'s test for erasing a symbol: a template, or a member in
`deferred_typechecking`. -/
def isErased (deferredTypechecking : List String) (s : Symbolt) : Bool :=
  s.type.getBool idIsTemplate || deferredTypechecking.contains s.name

/-- The loop of `clean_up` over the table. -/
def cleanUpSymbols (deferredTypechecking : List String) : List Symbolt → List Symbolt
  | [] => []
  | s :: rest =>
    if isErased deferredTypechecking s then cleanUpSymbols deferredTypechecking rest
    else if IsStructOrUnion s.type then
      { s with type := removeMethods s.type } :: cleanUpSymbols deferredTypechecking rest
    else s :: cleanUpSymbols deferredTypechecking rest

theorem cleanUpSymbols_names_sublist (d : List String) :
    ∀ l : List Symbolt, ((cleanUpSymbols d l).map Symbolt.name).Sublist (l.map Symbolt.name)
  | [] => .slnil
  | s :: rest => by
    have ih := cleanUpSymbols_names_sublist d rest
    unfold cleanUpSymbols
    split
    · exact ih.cons _
    · split <;> exact ih.cons₂ _

/-- `cpp_typecheckt::clean_up`. -/
def cleanUp (tc : CppTypecheckt) : CppTypecheckt :=
  { tc with
    symbolTable :=
      ⟨cleanUpSymbols tc.deferredTypechecking tc.symbolTable.symbols,
        (cleanUpSymbols_names_sublist _ _).nodup tc.symbolTable.nodup⟩ }

/-! ### The split of the components -/

theorem splitComponents_eq :
    ∀ (cs dataMembers functionMembers : List Irept),
      splitComponents cs dataMembers functionMembers =
        (dataMembers ++ cs.filter isDataMember, functionMembers ++ cs.filter isMethod)
  | [], d, f => by simp [splitComponents]
  | c :: cs, d, f => by
    have ih := splitComponents_eq cs
    by_cases hm : c.getBool idIsStatic || c.getBool idIsType
    · have : isMember c = false := by simp [isMember, hm]
      simp [splitComponents, hm, ih, isDataMember, isMethod, this]
    · have : isMember c = true := by simpa [isMember] using hm
      by_cases hc : c.type.id = idCode <;>
        simp [splitComponents, hm, hc, ih, isDataMember, isMethod, this]

/-- The struct-or-union branch as the two filters: the components entry takes the
data members, the methods entry its old methods followed by the members of code
type, and nothing else of the type changes. -/
theorem removeMethods_eq (type : Irept) :
    removeMethods type =
      (type.modifyNamed idComponents
          (·.withSub ((type.find idComponents).sub.filter isDataMember))).modifyNamed idMethods
        (·.withSub ((type.find idMethods).sub ++ (type.find idComponents).sub.filter isMethod)) := by
  simp only [removeMethods, splitComponents_eq, List.nil_append]

theorem sub_getD_default (l : List (String × Irept)) (n : String) :
    ((l.lookup n).getD default).sub = ((l.lookup n).getD Irept.nil).sub := by
  cases l.lookup n <;> rfl

theorem find_removeMethods_components (type : Irept) :
    ((removeMethods type).find idComponents).sub =
      (type.find idComponents).sub.filter isDataMember := by
  simp [removeMethods, Irept.find, Irept.modifyNamed, Irept.withSub,
    Irept.lookup_modifyEntry_of_ne _ (by decide : idComponents ≠ idMethods),
    Irept.lookup_modifyEntry_self, splitComponents_eq]

theorem find_removeMethods_methods (type : Irept) :
    ((removeMethods type).find idMethods).sub =
      (type.find idMethods).sub ++ (type.find idComponents).sub.filter isMethod := by
  simp [removeMethods, Irept.find, Irept.modifyNamed, Irept.withSub,
    Irept.lookup_modifyEntry_of_ne _ (by decide : idMethods ≠ idComponents),
    Irept.lookup_modifyEntry_self, splitComponents_eq, sub_getD_default]

@[simp] theorem id_removeMethods (type : Irept) : (removeMethods type).id = type.id := rfl

theorem getBool_removeMethods (type : Irept) {n : String} (hc : n ≠ idComponents)
    (hm : n ≠ idMethods) : (removeMethods type).getBool n = type.getBool n := by
  simp [removeMethods, Irept.getBool, Irept.get, Irept.modifyNamed,
    Irept.lookup_modifyEntry_of_ne _ hc, Irept.lookup_modifyEntry_of_ne _ hm]

theorem isMethod_and_isDataMember (c : Irept) : (isMethod c && isDataMember c) = false := by
  unfold isMethod isDataMember
  cases isMember c <;> cases c.type.id == idCode <;> rfl

/-- The split is final: a second one keeps every component and adds no method. -/
theorem removeMethods_removeMethods (type : Irept) :
    removeMethods (removeMethods type) = removeMethods type := by
  have hsplit : splitComponents ((removeMethods type).find idComponents).sub []
      ((removeMethods type).find idMethods).sub =
        (((removeMethods type).find idComponents).sub, ((removeMethods type).find idMethods).sub) := by
    rw [splitComponents_eq, find_removeMethods_components, find_removeMethods_methods]
    simp [List.filter_filter, isMethod_and_isDataMember]
  have hc : ((removeMethods type).namedSub.lookup idComponents).isSome := by
    simp [removeMethods, Irept.modifyNamed, Irept.lookup_modifyEntry_self,
      Irept.lookup_modifyEntry_of_ne _ (by decide : idComponents ≠ idMethods)]
  have hm : ((removeMethods type).namedSub.lookup idMethods).isSome := by
    simp [removeMethods, Irept.modifyNamed, Irept.lookup_modifyEntry_self]
  generalize removeMethods type = t at hsplit hc hm ⊢
  simp only [removeMethods, hsplit]
  rw [Irept.modifyNamed_withSub_self hc, Irept.modifyNamed_withSub_self hm]

/-- Every member, static members and types aside, lands in exactly one list. -/
theorem dataMembers_append_methods_perm (cs : List Irept) :
    (cs.filter isDataMember ++ cs.filter isMethod).Perm (cs.filter isMember) := by
  have h := List.filter_append_perm (fun c => c.type.id == idCode) (cs.filter isMember)
  simp only [List.filter_filter] at h
  refine List.perm_append_comm.trans (List.Perm.trans ?_ h)
  simp only [isMethod, isDataMember, Bool.and_comm]
  exact .refl _

/-! ### The table after `clean_up` -/

/-- What `clean_up` makes of a symbol it keeps. -/
def cleanSymbol (s : Symbolt) : Symbolt :=
  if IsStructOrUnion s.type then { s with type := removeMethods s.type } else s

@[simp] theorem name_cleanSymbol (s : Symbolt) : (cleanSymbol s).name = s.name := by
  unfold cleanSymbol; split <;> rfl

theorem cleanSymbol_cleanSymbol (s : Symbolt) : cleanSymbol (cleanSymbol s) = cleanSymbol s := by
  by_cases hs : IsStructOrUnion s.type
  · have hs' : IsStructOrUnion (removeMethods s.type) := hs
    simp [cleanSymbol, hs, hs', removeMethods_removeMethods]
  · simp [cleanSymbol, hs]

theorem isErased_cleanSymbol (d : List String) (s : Symbolt) :
    isErased d (cleanSymbol s) = isErased d s := by
  unfold cleanSymbol; split
  · simp only [isErased, getBool_removeMethods _ (by decide : idIsTemplate ≠ idComponents)
      (by decide : idIsTemplate ≠ idMethods)]
  · rfl

theorem cleanUpSymbols_eq (d : List String) :
    ∀ l : List Symbolt, cleanUpSymbols d l = (l.filter fun s => !isErased d s).map cleanSymbol
  | [] => rfl
  | s :: rest => by
    unfold cleanUpSymbols
    by_cases he : isErased d s
    · simp [he, cleanUpSymbols_eq d rest]
    · by_cases hs : IsStructOrUnion s.type <;>
        simp [he, hs, cleanSymbol, cleanUpSymbols_eq d rest]

theorem lookup_cleanUp (tc : CppTypecheckt) (n : String) :
    (cleanUp tc).symbolTable.lookup n = (tc.symbolTable.lookup n).bind fun s =>
      if isErased tc.deferredTypechecking s then none else some (cleanSymbol s) := by
  apply Option.ext
  intro s'
  simp only [Option.mem_def, SymbolTablet.lookup_eq_some_iff, Option.bind_eq_some,
    Option.ite_none_left_eq_some]
  simp only [cleanUp, cleanUpSymbols_eq, List.mem_map, List.mem_filter, Bool.not_eq_true']
  constructor
  · rintro ⟨⟨s, ⟨hs, he⟩, rfl⟩, rfl⟩
    exact ⟨s, ⟨hs, by simp⟩, by simp [he]⟩
  · rintro ⟨s, ⟨hs, rfl⟩, he, h⟩
    cases Option.some_injective _ h
    exact ⟨⟨s, ⟨hs, by simpa using he⟩, rfl⟩, by simp⟩

theorem lookup_cleanUp_eq_some {tc : CppTypecheckt} {n : String} {s' : Symbolt}
    (h : (cleanUp tc).symbolTable.lookup n = some s') :
    ∃ s, tc.symbolTable.lookup n = some s ∧ isErased tc.deferredTypechecking s = false ∧
      s' = cleanSymbol s := by
  rw [lookup_cleanUp] at h
  obtain ⟨s, hs, h⟩ := Option.bind_eq_some.1 h
  split at h
  · cases h
  · next he => exact ⟨s, hs, by simpa using he, (Option.some_injective _ h).symm⟩

/-- The components of a struct or union that `clean_up` kept are data members. -/
theorem isDataMember_of_mem_cleanSymbol {s : Symbolt} (hs : IsStructOrUnion (cleanSymbol s).type)
    {c : Irept} (hc : c ∈ ((cleanSymbol s).type.find idComponents).sub) : isDataMember c = true := by
  unfold cleanSymbol at hs hc
  split at hc
  · rw [find_removeMethods_components] at hc
    exact (List.mem_filter.1 hc).2
  · next hn => simp [hn] at hs

/-- A kept symbol `s'` against the original `s`: only the type changes, and only for
a struct or union, where the components are split into the two lists and the rest of
the type is kept. -/
structure CleanedSymbol (s s' : Symbolt) : Prop where
  others : { s' with type := s.type } = s
  type : IsStructOrUnion s.type →
    s'.type =
      (s.type.modifyNamed idComponents
          (·.withSub ((s.type.find idComponents).sub.filter isDataMember))).modifyNamed idMethods
        (·.withSub ((s.type.find idMethods).sub ++ (s.type.find idComponents).sub.filter isMethod))
  components : IsStructOrUnion s.type →
    (s'.type.find idComponents).sub = (s.type.find idComponents).sub.filter isDataMember
  methods : IsStructOrUnion s.type →
    (s'.type.find idMethods).sub =
      (s.type.find idMethods).sub ++ (s.type.find idComponents).sub.filter isMethod
  members : IsStructOrUnion s.type →
    ((s'.type.find idComponents).sub ++
        (s'.type.find idMethods).sub.drop (s.type.find idMethods).sub.length).Perm
      ((s.type.find idComponents).sub.filter isMember)
  unchanged : ¬IsStructOrUnion s.type → s' = s

theorem cleanedSymbol_cleanSymbol (s : Symbolt) : CleanedSymbol s (cleanSymbol s) := by
  by_cases hs : IsStructOrUnion s.type
  · simp only [cleanSymbol, hs, if_true]
    refine ⟨rfl, fun _ => removeMethods_eq _, fun _ => find_removeMethods_components _,
      fun _ => find_removeMethods_methods _, fun _ => ?_, fun h => absurd hs h⟩
    simpa [find_removeMethods_components, find_removeMethods_methods] using
      dataMembers_append_methods_perm (s.type.find idComponents).sub
  · simp only [cleanSymbol, hs, if_false]
    exact ⟨rfl, fun h => absurd h hs, fun h => absurd h hs, fun h => absurd h hs,
      fun h => absurd h hs, fun _ => rfl⟩

/-- `clean_up` erases exactly the templates and the deferred members, and keeps
every other symbol with only its type changed, as `CleanedSymbol` says. -/
theorem cleanUp_spec (tc : CppTypecheckt) (n : String) :
    ((cleanUp tc).symbolTable.lookup n = none ↔
      ∀ s, tc.symbolTable.lookup n = some s →
        s.type.getBool idIsTemplate = true ∨ s.name ∈ tc.deferredTypechecking) ∧
    ∀ s s', tc.symbolTable.lookup n = some s → (cleanUp tc).symbolTable.lookup n = some s' →
      CleanedSymbol s s' := by
  rw [lookup_cleanUp]
  refine ⟨?_, fun s s' hs hs' => ?_⟩
  · cases tc.symbolTable.lookup n with
    | none => simp
    | some s => by_cases he : isErased tc.deferredTypechecking s <;> simp_all [isErased]
  · simp only [hs, Option.some_bind, Option.ite_none_left_eq_some] at hs'
    obtain ⟨-, h⟩ := hs'
    cases Option.some_injective _ h
    exact cleanedSymbol_cleanSymbol s

/-- `clean_up` is idempotent: on its own result it erases no symbol and moves no
component. -/
theorem cleanUp_idempotent (tc : CppTypecheckt) : cleanUp (cleanUp tc) = cleanUp tc := by
  have hsymbols : ∀ l, cleanUpSymbols tc.deferredTypechecking
      (cleanUpSymbols tc.deferredTypechecking l) = cleanUpSymbols tc.deferredTypechecking l := by
    intro l
    simp only [cleanUpSymbols_eq, List.filter_map, List.map_map, List.filter_filter,
      Function.comp_def, isErased_cleanSymbol, Bool.and_self, cleanSymbol_cleanSymbol]
  cases tc
  simp only [cleanUp]
  congr 1
  exact SymbolTablet.ext (hsymbols _)

end Cbmc.Cpp
