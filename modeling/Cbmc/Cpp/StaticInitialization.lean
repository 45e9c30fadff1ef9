import Cbmc.Cpp.Typecheckt
import Mathlib.Data.List.Nodup

/-!
# Dynamic initialization of static objects

`static_and_dynamic_initialization` walks `dynamic_initializations`. Extern
objects and PODs are skipped. Any other object must have static lifetime and be
neither a type nor code. Its initializer, a constructor call, is moved into one
code block and the value is made nil, so that `__CPROVER_initialize`
zero-initializes the object. With no initializer the default constructor is
called. The block becomes the value of a new symbol
`#cpp_dynamic_initialization#<module>`.

`cpp_is_pod` and `cpp_constructor` are defined in other files of the front end and
may stop the run; the results below that say the pass returns assume they return on
the listed objects (`CollaboratorsReturn`).

The loop has no guard against an identifier listed twice, and `insert` fails
quietly when the name of the new symbol is taken. The main result assumes neither
happens, and the concrete inputs at the end show both cases. The exact result holds
for every input: a name listed again finds its object with a nil value and adds a
default construction (`blockOf`), and a taken name keeps the old symbol. The pass
returns exactly when every listed name is in the table and every object it
initializes passes its checks.
-/

namespace Cbmc.Cpp

open Util

/-- The functions defined in other files of the front end that the pass calls. -/
structure InitializationCollaborators where
  /-- `cpp_is_pod(type)`. It may stop the run, as the lookup of a tag it follows does. -/
  cppIsPod : Irept → Except Failure Bool
  /-- `cpp_symbol_expr(symbol)`. -/
  cppSymbolExpr : Symbolt → Irept
  /-- `cpp_constructor(location, object, operands)`: the constructor call, if there is
  one. It typechecks the call, and may stop the run. -/
  cppConstructor : Irept → Irept → List Irept → Except Failure (Option Irept)

/-- `to_code`: the cast's precondition `expr.id() == ID_code`. -/
def toCode (expr : Irept) : Except Failure Irept :=
  if expr.id = idCode then .ok expr else .error (.preconditionViolation "expr.id() == ID_code")

/-- `code_blockt` with the given statements: a `codet` of type `empty`. -/
def codeBlock (statements : List Irept) : Irept :=
  .mk idCode statements [(idType, .mk idEmpty [] []), (idStatement, .mk idBlock [] [])]

/-- `code_typet({}, typet(ID_constructor))`. -/
def constructorCodeType : Irept :=
  .mk idCode [] [(idParameters, default), (idReturnType, .mk idConstructor [] [])]

def initSymbolName (module : String) : String := "#cpp_dynamic_initialization#" ++ module

/-- `init_symbol` with the block as its value. -/
def initSymbol (module : String) (block : List Irept) : Symbolt where
  name := initSymbolName module
  type := constructorCodeType
  value := codeBlock block
  location := default
  module := module
  baseName := initSymbolName module
  mode := idCpp
  isType := false
  isExtern := false
  isStaticLifetime := false

variable (c : InitializationCollaborators)

/-- One iteration of the loop: the table and the statements of `init_block` so far. -/
def initializeOne (d : String) (st : SymbolTablet × List Irept) :
    Except Failure (SymbolTablet × List Irept) := do
  let (table, block) := st
  let symbol ← table.getWriteableRef d
  if symbol.isExtern then return st
  if (← c.cppIsPod symbol.type) then return st
  if !symbol.isStaticLifetime then throw (.invariantViolation "should be static")
  if symbol.isType then throw (.invariantViolation "should not be a type")
  if symbol.type.id = idCode then throw (.invariantViolation "should not be code")
  let symbolExpr := c.cppSymbolExpr symbol
  if symbol.value.id ≠ idNil then
    let code ← toCode symbol.value
    return (table.setValue d Irept.nil, block ++ [code])
  else
    match ← c.cppConstructor symbol.location symbolExpr [] with
    | some call => return (table, block ++ [call])
    | none => return (table, block)

/-- The loop over `dynamic_initializations`. -/
def initializationLoop : List String → SymbolTablet × List Irept →
    Except Failure (SymbolTablet × List Irept)
  | [], st => pure st
  | d :: ds, st => do
    let st' ← initializeOne c d st
    initializationLoop ds st'

/-- `cpp_typecheckt::static_and_dynamic_initialization`. Access control is
disabled while it runs and enabled again at the end. -/
def staticAndDynamicInitialization (tc : CppTypecheckt) : Except Failure CppTypecheckt := do
  let (table, block) ← initializationLoop c tc.dynamicInitializations (tc.symbolTable, [])
  let (table, _) := table.insert (initSymbol tc.module block)
  return { tc with
    symbolTable := table, dynamicInitializations := [], disableAccessControl := false }

/-! ### One iteration -/

/-- The objects the loop initializes: not extern, and not a POD by `cpp_is_pod`'s
answer. -/
def isDynamic (s : Symbolt) : Bool :=
  !s.isExtern &&
    match c.cppIsPod s.type with
    | .ok pod => !pod
    | .error _ => false

/-- The calls the loop makes on an object return: `cpp_is_pod` on the type of one that
is not extern, and `cpp_constructor` on one it then default-constructs. -/
def CollaboratorsReturn (s : Symbolt) : Prop :=
  s.isExtern = false → (∃ pod, c.cppIsPod s.type = .ok pod) ∧
    (isDynamic c s = true → s.value.id = idNil →
      ∃ call, c.cppConstructor s.location (c.cppSymbolExpr s) [] = .ok call)

/-- What the loop's invariants require of such an object, and `to_code` of its
initializer. -/
structure InitializableSymbol (s : Symbolt) : Prop where
  staticLifetime : s.isStaticLifetime = true
  notType : s.isType = false
  notCode : s.type.id ≠ idCode
  initializerIsCode : s.value.id ≠ idNil → s.value.id = idCode

/-- The initialization of an object: its initializer when there is one, else the
default-constructor call when `cpp_constructor` returns one. -/
def initializerOf (s : Symbolt) : List Irept :=
  if s.value.id ≠ idNil then [s.value]
  else match c.cppConstructor s.location (c.cppSymbolExpr s) [] with
    | .ok call => call.toList
    | .error _ => []

/-- The object after the loop: an initializer is replaced by nil. -/
def afterInit (s : Symbolt) : Symbolt :=
  if s.value.id ≠ idNil then { s with value := Irept.nil } else s

theorem afterInit_value_id (s : Symbolt) : (afterInit s).value.id = idNil := by
  unfold afterInit; split <;> simp_all [Irept.nil]

@[simp] theorem isExtern_afterInit (s : Symbolt) : (afterInit s).isExtern = s.isExtern := by
  unfold afterInit; split <;> rfl

@[simp] theorem type_afterInit (s : Symbolt) : (afterInit s).type = s.type := by
  unfold afterInit; split <;> rfl

@[simp] theorem isDynamic_afterInit (s : Symbolt) : isDynamic c (afterInit s) = isDynamic c s := by
  unfold afterInit; split <;> rfl

@[simp] theorem afterInit_afterInit (s : Symbolt) : afterInit (afterInit s) = afterInit s :=
  if_neg (not_not.2 (afterInit_value_id s))

theorem initializableSymbol_afterInit {s : Symbolt} (h : InitializableSymbol s) :
    InitializableSymbol (afterInit s) := by
  unfold afterInit
  split
  · exact ⟨h.staticLifetime, h.notType, h.notCode, fun hn => absurd rfl hn⟩
  · exact h

theorem isDynamic_eq_true {s : Symbolt} :
    isDynamic c s = true ↔ s.isExtern = false ∧ c.cppIsPod s.type = .ok false := by
  unfold isDynamic
  cases s.isExtern <;> cases c.cppIsPod s.type <;> simp

/-- The calls on an object the loop skips return on it once its initializer is
moved out. -/
theorem CollaboratorsReturn.afterInit {s : Symbolt} (h : CollaboratorsReturn c s)
    (hd : isDynamic c s = false) : CollaboratorsReturn c (afterInit s) := fun hx =>
  ⟨by simpa using (h (by simpa using hx)).1, fun hd' => by simp [hd] at hd'⟩

theorem initializeOne_of_not_dynamic {table : SymbolTablet} {block : List Irept} {d : String}
    {s : Symbolt} (hs : table.lookup d = some s) (hd : isDynamic c s = false)
    (hret : CollaboratorsReturn c s) : initializeOne c d (table, block) = .ok (table, block) := by
  cases hx : s.isExtern
  · obtain ⟨pod, hpod⟩ := (hret hx).1
    obtain rfl : pod = true := by simpa [isDynamic, hx, hpod] using hd
    simp [initializeOne, SymbolTablet.getWriteableRef, hs, hx, hpod]
  · simp [initializeOne, SymbolTablet.getWriteableRef, hs, hx]

theorem initializeOne_of_dynamic (block : List Irept) {table : SymbolTablet} {d : String}
    {s : Symbolt} (hs : table.lookup d = some s) (hd : isDynamic c s = true)
    (hw : InitializableSymbol s) (hret : CollaboratorsReturn c s) :
    ∃ table', initializeOne c d (table, block) = .ok (table', block ++ initializerOf c s) ∧
      ∀ n, table'.lookup n = if n = d then some (afterInit s) else table.lookup n := by
  obtain ⟨hx, hp⟩ := (isDynamic_eq_true c).1 hd
  by_cases hv : s.value.id = idNil
  · obtain ⟨call, hcall⟩ := (hret hx).2 hd hv
    refine ⟨table, ?_, fun n => ?_⟩
    · cases call <;>
        simp [initializeOne, SymbolTablet.getWriteableRef, hs, hx, hp, hw.staticLifetime,
          hw.notType, hw.notCode, hv, hcall, initializerOf]
    · by_cases hn : n = d
      · subst hn; simp [hs, afterInit, hv]
      · simp [hn]
  · refine ⟨table.setValue d Irept.nil, ?_, fun n => ?_⟩
    · simp [initializeOne, SymbolTablet.getWriteableRef, hs, hx, hp, hw.staticLifetime,
        hw.notType, hw.notCode, hv, toCode, hw.initializerIsCode hv, initializerOf,
        (by decide : idCode ≠ idNil)]
    · by_cases hn : n = d
      · subst hn; simp [SymbolTablet.setValue, hs, afterInit, hv]
      · simp [SymbolTablet.setValue, SymbolTablet.lookup_modifyValue_of_ne _ _ hn, hn]

theorem id_of_toCode_eq_ok {expr r : Irept} (h : toCode expr = .ok r) : expr.id = idCode := by
  unfold toCode at h
  split at h
  · assumption
  · cases h

/-- A returning iteration found the name, the calls it made on the object returned,
and an object it initializes passed the loop's checks. -/
theorem initializeOne_eq_ok {table : SymbolTablet} {block : List Irept} {d : String}
    {st : SymbolTablet × List Irept} (h : initializeOne c d (table, block) = .ok st) :
    ∃ s, table.lookup d = some s ∧ CollaboratorsReturn c s ∧
      (isDynamic c s = true → InitializableSymbol s) := by
  cases hs : table.lookup d with
  | none => simp [initializeOne, SymbolTablet.getWriteableRef, hs] at h
  | some s =>
    refine ⟨s, rfl, ?_⟩
    cases hx : s.isExtern
    case true => exact ⟨fun h => by simp [hx] at h, fun hd => by simp [isDynamic, hx] at hd⟩
    case false =>
    cases hpod : c.cppIsPod s.type with
    | error e => simp [initializeOne, SymbolTablet.getWriteableRef, hs, hx, hpod] at h
    | ok pod =>
      have hnd : isDynamic c s = true → pod = false := by simp [isDynamic, hx, hpod]
      cases pod
      case true =>
        exact ⟨fun _ => ⟨⟨true, hpod⟩, fun hd => absurd (hnd hd) (by decide)⟩,
          fun hd => absurd (hnd hd) (by decide)⟩
      case false =>
      simp [initializeOne, SymbolTablet.getWriteableRef, hs, hx, hpod] at h
      split_ifs at h with hl ht hc hv
      · obtain ⟨call, hcall, -⟩ := bind_eq_ok h
        exact ⟨fun _ => ⟨⟨false, hpod⟩, fun _ _ => ⟨call, hcall⟩⟩,
          fun _ => ⟨by simpa using hl, by simpa using ht, hc, fun hv' => absurd hv hv'⟩⟩
      · obtain ⟨_, hcode, -⟩ := bind_eq_ok h
        exact ⟨fun _ => ⟨⟨false, hpod⟩, fun _ hn => absurd hn hv⟩,
          fun _ => ⟨by simpa using hl, by simpa using ht, hc, fun _ => id_of_toCode_eq_ok hcode⟩⟩

/-- The symbol a listing of `d` finds: the entry's, or its initialized form when `d`
was listed before. -/
def listedAs (seen : List String) (d : String) (s : Symbolt) : Symbolt :=
  if d ∈ seen then afterInit s else s

@[simp] theorem isDynamic_listedAs (seen : List String) (d : String) (s : Symbolt) :
    isDynamic c (listedAs seen d s) = isDynamic c s := by
  unfold listedAs; split <;> simp

@[simp] theorem afterInit_listedAs (seen : List String) (d : String) (s : Symbolt) :
    afterInit (listedAs seen d s) = afterInit s := by
  unfold listedAs; split <;> simp

theorem listedAs_of_not_mem {seen : List String} {d : String} (h : d ∉ seen) (s : Symbolt) :
    listedAs seen d s = s := if_neg h

theorem initializableSymbol_listedAs (seen : List String) (d : String) {s : Symbolt}
    (h : InitializableSymbol s) : InitializableSymbol (listedAs seen d s) := by
  unfold listedAs; split
  · exact initializableSymbol_afterInit h
  · exact h

/-! ### The loop -/

section Loop

variable (t0 : SymbolTablet)

/-- A listed name the loop initializes, judged on the table on entry. -/
def isDynamicName (d : String) : Bool := ((t0.lookup d).map (isDynamic c)).getD false

/-- The initialization of a listed name, from the table on entry. -/
def initializerOfName (d : String) : List Irept := ((t0.lookup d).map (initializerOf c)).getD []

/-- The statements a listing of `d` adds, judged on the table on entry: the
initialization of the object, or, when `d` was listed before, that of the object with
its value nil, the default-constructor call. -/
def listingInitializer (seen : List String) (d : String) : List Irept :=
  ((t0.lookup d).map fun s => initializerOf c (listedAs seen d s)).getD []

/-- The block the loop builds over `rest` once the objects named in `seen` are
initialized, judged on the table on entry. -/
def blockOf (seen : List String) : List String → List Irept
  | [] => []
  | d :: ds =>
    if isDynamicName c t0 d then listingInitializer c t0 seen d ++ blockOf (seen ++ [d]) ds
    else blockOf seen ds

/-- The calls the loop makes over `rest` return, judged on the table on entry once the
objects named in `seen` are initialized. -/
def ListingsReturn (seen : List String) : List String → Prop
  | [] => True
  | d :: ds => (∀ s, t0.lookup d = some s → CollaboratorsReturn c (listedAs seen d s)) ∧
    ListingsReturn (if isDynamicName c t0 d then seen ++ [d] else seen) ds

/-- With no object listed twice, the block holds each listed object's initialization
once, in list order. -/
theorem blockOf_of_nodup (rest : List String) : ∀ seen : List String,
    (seen ++ rest.filter (isDynamicName c t0)).Nodup →
      blockOf c t0 seen rest = (rest.filter (isDynamicName c t0)).flatMap (initializerOfName c t0) := by
  induction rest with
  | nil => exact fun _ _ => rfl
  | cons d rest ih =>
    intro seen h
    by_cases hd : isDynamicName c t0 d = true
    · rw [List.filter_cons_of_pos hd] at h ⊢
      have hnew : d ∉ seen := fun hm => (List.nodup_append.1 h).2.2 hm (.head _)
      rw [blockOf, if_pos hd, ih (seen ++ [d]) (by simpa using h), List.flatMap_cons]
      simp [listingInitializer, initializerOfName, listedAs_of_not_mem hnew]
    · rw [List.filter_cons_of_neg hd] at h ⊢
      rw [blockOf, if_neg hd, ih seen h]

/-- With no object the loop initializes listed twice, each listing finds the object as
it was on entry, or one the loop skips. -/
theorem listingsReturn_of_nodup (rest : List String)
    (hret : ∀ d ∈ rest, ∀ s, t0.lookup d = some s → CollaboratorsReturn c s) :
    ∀ seen : List String,
      (seen ++ rest.filter (isDynamicName c t0)).Nodup → ListingsReturn c t0 seen rest := by
  induction rest with
  | nil => exact fun _ _ => trivial
  | cons d rest ih =>
    intro seen h
    have ih' := ih fun x hx => hret x (.tail _ hx)
    refine ⟨fun s hs => ?_, ?_⟩
    · have hname : isDynamicName c t0 d = isDynamic c s := by simp [isDynamicName, hs]
      unfold listedAs
      split
      · next hmem =>
        refine (hret d (.head _) s hs).afterInit c (Bool.eq_false_iff.2 fun hd => ?_)
        rw [← hname] at hd
        rw [List.filter_cons_of_pos hd] at h
        exact (List.nodup_append.1 h).2.2 hmem (.head _)
      · exact hret d (.head _) s hs
    · by_cases hd : isDynamicName c t0 d = true
      · rw [List.filter_cons_of_pos hd] at h
        simpa [hd] using ih' (seen ++ [d]) (by simpa using h)
      · rw [List.filter_cons_of_neg hd] at h
        simpa [hd] using ih' seen h

/-- When the calls return on every listed object and on its initialized form, they
return on every listing. -/
theorem listingsReturn_of_forall (rest : List String)
    (hret : ∀ d ∈ rest, ∀ s, t0.lookup d = some s →
      CollaboratorsReturn c s ∧ CollaboratorsReturn c (afterInit s)) :
    ∀ seen : List String, ListingsReturn c t0 seen rest := by
  induction rest with
  | nil => exact fun _ => trivial
  | cons d rest ih =>
    refine fun seen => ⟨fun s hs => ?_, ih (fun x hx => hret x (.tail _ hx)) _⟩
    unfold listedAs
    split
    · exact (hret d (.head _) s hs).2
    · exact (hret d (.head _) s hs).1

/-- The table once the objects named in `seen` are initialized. -/
def InitializedAs (table : SymbolTablet) (seen : List String) : Prop :=
  ∀ n, table.lookup n = if n ∈ seen then (t0.lookup n).map afterInit else t0.lookup n

variable {t0}

theorem InitializedAs.lookup_eq {table : SymbolTablet} {seen : List String}
    (hinv : InitializedAs t0 table seen) {d : String} {s : Symbolt} (hs : t0.lookup d = some s) :
    table.lookup d = some (listedAs seen d s) := by
  rw [hinv d, listedAs]; split <;> simp [hs]

theorem InitializedAs.mem_names {table : SymbolTablet} {seen : List String}
    (hinv : InitializedAs t0 table seen) (n : String) : n ∈ table.names ↔ n ∈ t0.names := by
  rw [← not_iff_not, ← table.lookup_eq_none_iff, ← t0.lookup_eq_none_iff, hinv n]
  split <;> simp

/-- One iteration from a table initialized as `seen`, on a name of the table on entry
whose object, as the iteration finds it, passes the loop's checks and gets its calls
answered. -/
theorem initializeOne_initializedAs {table : SymbolTablet} {seen : List String}
    (hinv : InitializedAs t0 table seen) (block : List Irept) {d : String} {s : Symbolt}
    (hs : t0.lookup d = some s) (hret : CollaboratorsReturn c (listedAs seen d s))
    (hw : isDynamic c s = true → InitializableSymbol (listedAs seen d s)) :
    ∃ table', initializeOne c d (table, block) =
        .ok (table', block ++ if isDynamic c s then listingInitializer c t0 seen d else []) ∧
      InitializedAs t0 table' (if isDynamic c s then seen ++ [d] else seen) := by
  have hcur := hinv.lookup_eq hs
  cases hd : isDynamic c s
  · exact ⟨table, by simpa using initializeOne_of_not_dynamic c hcur (by simpa using hd) hret,
      by simpa using hinv⟩
  · obtain ⟨table', hstep, hlook⟩ :=
      initializeOne_of_dynamic c block hcur (by simpa using hd) (hw hd) hret
    refine ⟨table', by simpa [listingInitializer, hs] using hstep, fun n => ?_⟩
    rw [hlook n, hinv n]
    by_cases hn : n = d
    · subst hn; simp [hs]
    · simp [hn]

variable (t0)

/-- The loop over any list, names listed twice included: once the calls it makes
return, it builds `blockOf` and leaves the listed objects it initializes as
`afterInit` makes them. -/
theorem initializationLoop_eq (rest : List String) :
    ∀ (seen : List String) (table : SymbolTablet) (block : List Irept),
      InitializedAs t0 table seen → (∀ d ∈ rest, d ∈ t0.names) →
      (∀ d ∈ rest, ∀ s, t0.lookup d = some s → isDynamic c s → InitializableSymbol s) →
      ListingsReturn c t0 seen rest →
      ∃ table', initializationLoop c rest (table, block) = .ok (table', block ++ blockOf c t0 seen rest) ∧
        InitializedAs t0 table' (seen ++ rest.filter (isDynamicName c t0)) := by
  induction rest with
  | nil => exact fun seen table block hinv _ _ _ =>
      ⟨table, by simp [initializationLoop, blockOf], by simpa using hinv⟩
  | cons d rest ih =>
    intro seen table block hinv hnames hinit hret
    obtain ⟨s, hs⟩ := t0.exists_lookup_of_mem (hnames d (.head _))
    have hname : isDynamicName c t0 d = isDynamic c s := by simp [isDynamicName, hs]
    obtain ⟨table1, hstep, hinv1⟩ := initializeOne_initializedAs c hinv block hs (hret.1 s hs)
      fun hd => initializableSymbol_listedAs seen d (hinit d (.head _) s hs hd)
    obtain ⟨table', hrun, hinv'⟩ := ih _ table1
      (block ++ if isDynamic c s then listingInitializer c t0 seen d else []) hinv1
      (fun x hx => hnames x (.tail _ hx)) (fun x hx => hinit x (.tail _ hx))
      (by simpa [hname] using hret.2)
    cases hd : isDynamic c s <;>
      simp only [hd, Bool.false_eq_true, eq_self_iff_true, if_true, if_false, List.append_nil]
        at hstep hrun hinv' <;>
      exact ⟨table', by simp [initializationLoop, hstep, hrun, blockOf, hname, hd],
        by simpa [hname, hd] using hinv'⟩

/-- A returning loop found every listed name, and every object it initializes passed
the loop's checks at its first listing. -/
theorem initializable_of_initializationLoop_eq_ok (rest : List String) :
    ∀ (seen : List String) (table : SymbolTablet) (block : List Irept)
      (r : SymbolTablet × List Irept),
      InitializedAs t0 table seen → initializationLoop c rest (table, block) = .ok r →
      ∀ d ∈ rest, d ∉ seen →
        ∃ s, t0.lookup d = some s ∧ (isDynamic c s = true → InitializableSymbol s) := by
  induction rest with
  | nil => exact fun _ _ _ _ _ _ d hd => absurd hd (List.not_mem_nil d)
  | cons d rest ih =>
    intro seen table block r hinv h x hx hxs
    obtain ⟨st1, hstep, hrun⟩ := bind_eq_ok h
    obtain ⟨s', hs', hret', hw'⟩ := initializeOne_eq_ok c hstep
    obtain ⟨s, hs⟩ := t0.exists_lookup_of_mem ((hinv.mem_names d).1 (table.mem_names_of_lookup hs'))
    rw [hinv.lookup_eq hs] at hs'
    cases hs'
    have hw : isDynamic c s = true → InitializableSymbol (listedAs seen d s) :=
      fun hd => hw' (by simpa using hd)
    by_cases hxd : x = d
    · subst hxd
      exact ⟨s, hs, fun hd => listedAs_of_not_mem hxs s ▸ hw hd⟩
    · obtain ⟨table1, hstep1, hinv1⟩ := initializeOne_initializedAs c hinv block hs hret' hw
      rw [hstep1] at hstep
      cases hstep
      exact ih _ table1 _ r hinv1 hrun x ((List.mem_cons.1 hx).resolve_left hxd)
        (by split <;> simp [hxs, hxd])

/-- The table the pass leaves: the new symbol where its name was free, and elsewhere
what the loop left. -/
theorem lookup_insert_initSymbol {table : SymbolTablet} {list : List String}
    (hinv : InitializedAs t0 table (list.filter (isDynamicName c t0))) (module : String)
    (block : List Irept) (n : String) :
    (table.insert (initSymbol module block)).1.lookup n =
      if n = initSymbolName module ∧ initSymbolName module ∉ t0.names then
        some (initSymbol module block)
      else if n ∈ list ∧ isDynamicName c t0 n then (t0.lookup n).map afterInit
      else t0.lookup n := by
  rw [SymbolTablet.lookup_insert, hinv n]
  simp [initSymbol, hinv.mem_names]

end Loop

/-- Under the assumptions the code relies on (every listed object initializable,
no object listed twice, the name of the new symbol free) and once `cpp_is_pod` and
`cpp_constructor` return on the listed objects, the new symbol's body holds exactly
one initialization per listed object that is neither extern nor POD, in list order;
those objects' values become nil and every other symbol is left as it was. -/
theorem staticAndDynamicInitialization_spec (tc : CppTypecheckt)
    (hnames : ∀ d ∈ tc.dynamicInitializations, d ∈ tc.symbolTable.names)
    (hinit : ∀ d ∈ tc.dynamicInitializations, ∀ s, tc.symbolTable.lookup d = some s →
      isDynamic c s → InitializableSymbol s)
    (hnodup : (tc.dynamicInitializations.filter (isDynamicName c tc.symbolTable)).Nodup)
    (hfresh : initSymbolName tc.module ∉ tc.symbolTable.names)
    (hret : ∀ d ∈ tc.dynamicInitializations, ∀ s, tc.symbolTable.lookup d = some s →
      CollaboratorsReturn c s) :
    ∃ tc', staticAndDynamicInitialization c tc = .ok tc' ∧
      tc'.symbolTable.lookup (initSymbolName tc.module) =
        some (initSymbol tc.module ((tc.dynamicInitializations.filter
          (isDynamicName c tc.symbolTable)).flatMap (initializerOfName c tc.symbolTable))) ∧
      (∀ d ∈ tc.dynamicInitializations, isDynamicName c tc.symbolTable d = true →
        (tc'.symbolTable.lookup d).map (·.value.id) = some idNil) ∧
      (∀ n, n ≠ initSymbolName tc.module →
        (n ∈ tc.dynamicInitializations → isDynamicName c tc.symbolTable n = false) →
        tc'.symbolTable.lookup n = tc.symbolTable.lookup n) ∧
      tc'.dynamicInitializations = [] := by
  obtain ⟨table', hrun, hinv⟩ := initializationLoop_eq c tc.symbolTable
    tc.dynamicInitializations [] tc.symbolTable [] (fun n => by simp) hnames hinit
    (listingsReturn_of_nodup c tc.symbolTable _ hret [] (by simpa using hnodup))
  rw [blockOf_of_nodup c _ _ [] (by simpa using hnodup)] at hrun
  rw [List.nil_append] at hrun hinv
  set body := (tc.dynamicInitializations.filter (isDynamicName c tc.symbolTable)).flatMap
    (initializerOfName c tc.symbolTable)
  have hlook := lookup_insert_initSymbol c tc.symbolTable hinv tc.module body
  refine ⟨{ tc with
      symbolTable := (table'.insert (initSymbol tc.module body)).1, dynamicInitializations := [],
      disableAccessControl := false },
    by simp [staticAndDynamicInitialization, hrun], by simp [hlook, hfresh],
    fun d hd hdyn => ?_, fun n hn hdyn => ?_, rfl⟩
  · have hne : d ≠ initSymbolName tc.module := fun h => hfresh (h ▸ hnames d hd)
    obtain ⟨s, hs⟩ := tc.symbolTable.exists_lookup_of_mem (hnames d hd)
    simp [hlook, hne, hd, hdyn, hs, afterInit_value_id]
  · rw [hlook, if_neg fun h => hn h.1, if_neg fun h => by simp [hdyn h.1] at h]

/-- For every list, names listed twice included, and whether or not the name of the
new symbol is taken, once every listed object passes the loop's checks and
`cpp_is_pod` and `cpp_constructor` return on it, also with its initializer moved out:
the new symbol is added, with `blockOf` the list as its body, exactly when its name is
free; the listed objects the loop initializes are left as `afterInit` makes them,
every other symbol is unchanged, and the list is emptied. -/
theorem staticAndDynamicInitialization_eq (tc : CppTypecheckt)
    (hnames : ∀ d ∈ tc.dynamicInitializations, d ∈ tc.symbolTable.names)
    (hinit : ∀ d ∈ tc.dynamicInitializations, ∀ s, tc.symbolTable.lookup d = some s →
      isDynamic c s → InitializableSymbol s)
    (hret : ∀ d ∈ tc.dynamicInitializations, ∀ s, tc.symbolTable.lookup d = some s →
      CollaboratorsReturn c s ∧ CollaboratorsReturn c (afterInit s)) :
    ∃ table, staticAndDynamicInitialization c tc =
        .ok { tc with
          symbolTable := table, dynamicInitializations := [], disableAccessControl := false } ∧
      ∀ n, table.lookup n =
        if n = initSymbolName tc.module ∧ initSymbolName tc.module ∉ tc.symbolTable.names then
          some (initSymbol tc.module (blockOf c tc.symbolTable [] tc.dynamicInitializations))
        else if n ∈ tc.dynamicInitializations ∧ isDynamicName c tc.symbolTable n then
          (tc.symbolTable.lookup n).map afterInit
        else tc.symbolTable.lookup n := by
  obtain ⟨table', hrun, hinv⟩ := initializationLoop_eq c tc.symbolTable
    tc.dynamicInitializations [] tc.symbolTable [] (fun n => by simp) hnames hinit
    (listingsReturn_of_forall c tc.symbolTable _ hret [])
  rw [List.nil_append] at hrun hinv
  exact ⟨_, by simp [staticAndDynamicInitialization, hrun],
    lookup_insert_initSymbol c tc.symbolTable hinv tc.module _⟩

/-- Once `cpp_is_pod` and `cpp_constructor` return on every listed object, also with
its initializer moved out, the pass returns exactly when every listed name is in the
table and every listed object the loop initializes is static, not a type and not code,
with a nil or code initializer. -/
theorem staticAndDynamicInitialization_ok_iff (tc : CppTypecheckt)
    (hret : ∀ d ∈ tc.dynamicInitializations, ∀ s, tc.symbolTable.lookup d = some s →
      CollaboratorsReturn c s ∧ CollaboratorsReturn c (afterInit s)) :
    (∃ tc', staticAndDynamicInitialization c tc = .ok tc') ↔
      ∀ d ∈ tc.dynamicInitializations, ∃ s, tc.symbolTable.lookup d = some s ∧
        (isDynamic c s = true → InitializableSymbol s) := by
  constructor
  · rintro ⟨tc', h⟩ d hd
    obtain ⟨r, hr, -⟩ := bind_eq_ok h
    exact initializable_of_initializationLoop_eq_ok c tc.symbolTable _ [] _ [] r (fun n => by simp)
      hr d hd (List.not_mem_nil d)
  · intro h
    obtain ⟨table', hrun, -⟩ := initializationLoop_eq c tc.symbolTable
      tc.dynamicInitializations [] tc.symbolTable [] (fun n => by simp)
      (fun d hd => let ⟨_, hs, _⟩ := h d hd; tc.symbolTable.mem_names_of_lookup hs)
      (fun d hd s hs => by
        obtain ⟨s', hs', hw⟩ := h d hd
        rw [hs] at hs'
        cases hs'
        exact hw)
      (listingsReturn_of_forall c tc.symbolTable _ hret [])
    exact ⟨_, by rw [staticAndDynamicInitialization, hrun]; rfl⟩

/-! ### Concrete inputs: two objects, an entry listed twice, a taken name -/

/-- The initializer of `x`, a constructor call statement. -/
def constructorCallX : Irept := .mk idCode [] [(idStatement, .mk "expression" [] [])]

/-- The call `cpp_constructor` builds for a default construction. -/
def defaultConstructorCall : Irept := .mk idCode [] [(idStatement, .mk idFunctionCall [] [])]

/-- A static object `x` of class type with an initializer. -/
def objectX : Symbolt where
  name := "x"
  type := .mk idStruct [] []
  value := constructorCallX
  location := default
  module := "m"
  baseName := "x"
  mode := idCpp
  isType := false
  isExtern := false
  isStaticLifetime := true

/-- A static object `y` of class type with no initializer. -/
def objectY : Symbolt := { objectX with name := "y", baseName := "y", value := Irept.nil }

/-- A function `main`, which is not listed. -/
def mainFunction : Symbolt :=
  { objectX with
    name := "main", baseName := "main", type := .mk idCode [] [], value := .mk idCode [] [],
    isStaticLifetime := false }

theorem objectX_initializable : InitializableSymbol objectX := ⟨rfl, rfl, by decide, fun _ => rfl⟩

theorem objectY_initializable : InitializableSymbol objectY :=
  ⟨rfl, rfl, by decide, fun h => absurd rfl h⟩

/-- No type is a POD and every object has a default constructor. -/
def exampleCollaborators : InitializationCollaborators where
  cppIsPod _ := pure false
  cppSymbolExpr s := .mk idSymbol [] [(idIdentifier, .mk s.name [] [])]
  cppConstructor _ _ _ := pure (some defaultConstructorCall)

theorem exampleCollaborators_return (s : Symbolt) : CollaboratorsReturn exampleCollaborators s :=
  fun _ => ⟨⟨false, rfl⟩, fun _ _ => ⟨_, rfl⟩⟩

/-- `x`, with an initializer, and `y`, default-constructed, listed once each, in a
table that also holds the function `main`. -/
def twoObjects : CppTypecheckt where
  symbolTable := ⟨[objectX, mainFunction, objectY], by decide⟩
  module := "m"
  dynamicInitializations := ["x", "y"]
  deferredTypechecking := []
  disableAccessControl := false

theorem staticAndDynamicInitialization_twoObjects :
    ∃ tc', staticAndDynamicInitialization exampleCollaborators twoObjects = .ok tc' ∧
      tc'.symbolTable.lookup (initSymbolName "m") =
        some (initSymbol "m" ((["x", "y"].filter (isDynamicName exampleCollaborators
          twoObjects.symbolTable)).flatMap
            (initializerOfName exampleCollaborators twoObjects.symbolTable))) ∧
      (∀ d ∈ ["x", "y"], isDynamicName exampleCollaborators twoObjects.symbolTable d = true →
        (tc'.symbolTable.lookup d).map (·.value.id) = some idNil) ∧
      (∀ n, n ≠ initSymbolName "m" →
        (n ∈ ["x", "y"] → isDynamicName exampleCollaborators twoObjects.symbolTable n = false) →
        tc'.symbolTable.lookup n = twoObjects.symbolTable.lookup n) ∧
      tc'.dynamicInitializations = [] :=
  staticAndDynamicInitialization_spec exampleCollaborators twoObjects (by decide)
    (fun d hd s hs _ => by
      simp only [twoObjects, List.mem_cons, List.mem_singleton, List.not_mem_nil, or_false] at hd
      rcases hd with rfl | rfl
      · obtain rfl : s = objectX := (Option.some_injective _ hs).symm
        exact objectX_initializable
      · obtain rfl : s = objectY := (Option.some_injective _ hs).symm
        exact objectY_initializable)
    (by decide) (by decide) fun _ _ s _ => exampleCollaborators_return s

/-- The block holds the initializer of `x`, then the default construction of `y`;
`main` is left as it was. -/
example : (staticAndDynamicInitialization exampleCollaborators twoObjects).map
    (fun tc => ((tc.symbolTable.lookup (initSymbolName "m")).map (·.value),
      (tc.symbolTable.lookup "main").map (·.value))) =
    .ok (some (codeBlock [constructorCallX, defaultConstructorCall]), some (.mk idCode [] [])) := rfl

/-- `x` listed twice. -/
def duplicateEntry : CppTypecheckt where
  symbolTable := ⟨[objectX], by decide⟩
  module := "m"
  dynamicInitializations := ["x", "x"]
  deferredTypechecking := []
  disableAccessControl := false

/-- `x` listed once, in a table that already has `#cpp_dynamic_initialization#m`. -/
def nameTaken : CppTypecheckt where
  symbolTable := ⟨[objectX, initSymbol "m" []], by decide⟩
  module := "m"
  dynamicInitializations := ["x"]
  deferredTypechecking := []
  disableAccessControl := false

/-- With `x` listed twice the block initializes `x` twice, its initializer and then
a default construction; with the name taken the table keeps the old, empty block. -/
theorem dynamicInitialization_duplicate :
    (staticAndDynamicInitialization exampleCollaborators duplicateEntry).map
        (fun tc => (tc.symbolTable.lookup (initSymbolName "m")).map (·.value)) =
      .ok (some (codeBlock [constructorCallX, defaultConstructorCall])) ∧
    (staticAndDynamicInitialization exampleCollaborators nameTaken).map
        (fun tc => (tc.symbolTable.lookup (initSymbolName "m")).map (·.value)) =
      .ok (some (codeBlock [])) :=
  ⟨rfl, rfl⟩

theorem staticAndDynamicInitialization_eq_duplicateEntry :
    ∃ table, staticAndDynamicInitialization exampleCollaborators duplicateEntry =
        .ok { duplicateEntry with
          symbolTable := table, dynamicInitializations := [], disableAccessControl := false } ∧
      ∀ n, table.lookup n =
        if n = initSymbolName "m" ∧ initSymbolName "m" ∉ duplicateEntry.symbolTable.names then
          some (initSymbol "m" (blockOf exampleCollaborators duplicateEntry.symbolTable [] ["x", "x"]))
        else if n ∈ ["x", "x"] ∧ isDynamicName exampleCollaborators duplicateEntry.symbolTable n then
          (duplicateEntry.symbolTable.lookup n).map afterInit
        else duplicateEntry.symbolTable.lookup n :=
  staticAndDynamicInitialization_eq exampleCollaborators duplicateEntry (by decide)
    (fun d hd s hs _ => by
      obtain rfl : d = "x" := by simpa [duplicateEntry] using hd
      obtain rfl : s = objectX := (Option.some_injective _ hs).symm
      exact objectX_initializable)
    fun _ _ s _ => ⟨exampleCollaborators_return s, exampleCollaborators_return _⟩

/-- The second listing of `x` finds its value nil and adds a default construction. -/
example : blockOf exampleCollaborators duplicateEntry.symbolTable [] ["x", "x"] =
    [constructorCallX, defaultConstructorCall] := rfl

theorem staticAndDynamicInitialization_ok_iff_twoObjects :
    (∃ tc', staticAndDynamicInitialization exampleCollaborators twoObjects = .ok tc') ↔
      ∀ d ∈ ["x", "y"], ∃ s, twoObjects.symbolTable.lookup d = some s ∧
        (isDynamic exampleCollaborators s = true → InitializableSymbol s) :=
  staticAndDynamicInitialization_ok_iff exampleCollaborators twoObjects
    fun _ _ s _ => ⟨exampleCollaborators_return s, exampleCollaborators_return _⟩

end Cbmc.Cpp
