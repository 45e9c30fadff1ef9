import Cbmc.Util.Irep
import Mathlib.Data.List.Nodup

/-!
# Symbols and the symbol table

A `symbol_tablet` maps names to symbols. Its symbols are kept here as a list in
the order the table iterates them, with the names distinct: that order is
arbitrary in the source, so a result proved for every list holds for every
iteration order. The passes only rewrite values and types of symbols already in
the table, erase symbols, or insert new ones, and every operation below keeps the
names distinct by construction.
-/

namespace Cbmc.Util

/-- `symbolt`, with the fields the modelled passes read or write. -/
structure Symbolt where
  name : String
  type : Irept
  value : Irept
  location : Irept
  module : String
  baseName : String
  mode : String
  isType : Bool
  isExtern : Bool
  isStaticLifetime : Bool
  deriving Inhabited

/-- `symbol_tablet`: the symbols in iteration order, one per name. -/
structure SymbolTablet where
  symbols : List Symbolt
  nodup : (symbols.map Symbolt.name).Nodup

namespace SymbolTablet

/-- Two tables with the same symbols in the same order are equal. -/
theorem ext {t t' : SymbolTablet} (h : t.symbols = t'.symbols) : t = t' := by
  cases t; cases t'; cases h; rfl

variable (t : SymbolTablet)

def names : List String := t.symbols.map Symbolt.name

/-- `symbol_table_baset::lookup`. -/
def lookup (n : String) : Option Symbolt := t.symbols.find? fun s => s.name == n

/-- `symbol_table_baset::get_writeable_ref`, which throws when the name is missing. -/
def getWriteableRef (n : String) : Except Failure Symbolt :=
  match t.lookup n with
  | some s => .ok s
  | none => .error (.outOfRange "name not found in symbol_table")

/-- Rewrite every symbol in place, names unchanged. -/
def update (f : Symbolt → Symbolt) (hf : ∀ s, (f s).name = s.name) : SymbolTablet :=
  ⟨t.symbols.map f, by
    have : Symbolt.name ∘ f = Symbolt.name := funext hf
    simpa [List.map_map, this] using t.nodup⟩

/-- Write the value of the symbol `n` through `get_writeable`. -/
def modifyValue (n : String) (f : Irept → Irept) : SymbolTablet :=
  t.update (fun s => if s.name = n then { s with value := f s.value } else s)
    (fun s => by dsimp only; split <;> rfl)

def setValue (n : String) (v : Irept) : SymbolTablet := t.modifyValue n fun _ => v

/-- `symbol_table_baset::insert`: add the symbol unless its name is taken, and say
whether it was added. -/
def insert (s : Symbolt) : SymbolTablet × Bool :=
  if h : t.symbols.any (fun x => x.name == s.name) then (t, false)
  else (⟨t.symbols ++ [s], by
    rw [List.map_append]
    refine List.nodup_append.2 ⟨t.nodup, List.nodup_singleton _, ?_⟩
    simp only [List.any_eq_true, beq_iff_eq, not_exists, not_and] at h
    simpa [List.disjoint_singleton] using h⟩, true)

theorem lookup_eq_some_iff {n : String} {s : Symbolt} :
    t.lookup n = some s ↔ s ∈ t.symbols ∧ s.name = n := by
  constructor
  · intro h
    exact ⟨List.mem_of_find?_eq_some h, by simpa using List.find?_some h⟩
  · rintro ⟨hs, rfl⟩
    obtain ⟨s', hs'⟩ : ∃ s', t.lookup s.name = some s' :=
      Option.isSome_iff_exists.1 (List.find?_isSome.2 ⟨s, hs, by simp⟩)
    have hmem := List.mem_of_find?_eq_some hs'
    have hname : s'.name = s.name := by simpa using List.find?_some hs'
    rw [hs', List.inj_on_of_nodup_map t.nodup hmem hs hname]

theorem name_of_lookup {n : String} {s : Symbolt} (h : t.lookup n = some s) : s.name = n :=
  ((t.lookup_eq_some_iff).1 h).2

theorem lookup_eq_none_iff {n : String} : t.lookup n = none ↔ n ∉ t.names := by
  simp [lookup, names]

theorem mem_names_of_lookup {n : String} {s : Symbolt} (h : t.lookup n = some s) : n ∈ t.names :=
  of_not_not fun hn => by rw [(t.lookup_eq_none_iff).2 hn] at h; cases h

theorem exists_lookup_of_mem {n : String} (h : n ∈ t.names) : ∃ s, t.lookup n = some s :=
  Option.ne_none_iff_exists'.1 fun hn => (t.lookup_eq_none_iff.1 hn) h

theorem lookup_update (f : Symbolt → Symbolt) (hf : ∀ s, (f s).name = s.name) (n : String) :
    (t.update f hf).lookup n = (t.lookup n).map f := by
  simp only [update, lookup, List.find?_map]
  congr 2
  funext s
  simp [hf]

/-- A table with the names of `t`, in the same order, is the symbols of `t` each
replaced by its own entry. -/
theorem symbols_eq_map_lookup {t t' : SymbolTablet} (hn : t'.names = t.names) :
    t'.symbols = t.symbols.map fun s => (t'.lookup s.name).getD s := by
  have hlen : t'.symbols.length = t.symbols.length := by
    simpa [names] using congrArg List.length hn
  refine List.ext_getElem (by simpa using hlen) fun i h1 _ => ?_
  have h3 : i < t.symbols.length := hlen ▸ h1
  have hname : t.symbols[i].name = t'.symbols[i].name := by
    simpa [names] using (List.getElem_of_eq hn (by simpa [names] using h1)).symm
  have hl : t'.lookup t'.symbols[i].name = some t'.symbols[i] :=
    (t'.lookup_eq_some_iff).2 ⟨List.getElem_mem _, rfl⟩
  simp [hname, hl]

@[simp] theorem names_update (f : Symbolt → Symbolt) (hf : ∀ s, (f s).name = s.name) :
    (t.update f hf).names = t.names := by
  simp [update, names, List.map_map, Function.comp_def, hf]

@[simp] theorem names_modifyValue (n : String) (f : Irept → Irept) :
    (t.modifyValue n f).names = t.names := names_update _ _ _

theorem lookup_modifyValue (n m : String) (f : Irept → Irept) :
    (t.modifyValue n f).lookup m =
      (t.lookup m).map fun s => if m = n then { s with value := f s.value } else s := by
  rw [modifyValue, lookup_update]
  cases h : t.lookup m with
  | none => rfl
  | some s => simp [t.name_of_lookup h]

@[simp] theorem lookup_modifyValue_self (n : String) (f : Irept → Irept) :
    (t.modifyValue n f).lookup n = (t.lookup n).map fun s => { s with value := f s.value } := by
  simp [lookup_modifyValue]

theorem lookup_modifyValue_of_ne {n m : String} (f : Irept → Irept) (h : m ≠ n) :
    (t.modifyValue n f).lookup m = t.lookup m := by
  simp [lookup_modifyValue, h]

theorem insert_of_mem {s : Symbolt} (h : s.name ∈ t.names) : t.insert s = (t, false) := by
  have : t.symbols.any (fun x => x.name == s.name) = true := by simpa [names] using h
  simp [insert, this]

theorem lookup_insert_of_not_mem {s : Symbolt} (h : s.name ∉ t.names) (n : String) :
    (t.insert s).1.lookup n = if n = s.name then some s else t.lookup n := by
  have hany : ¬ t.symbols.any (fun x => x.name == s.name) = true := by simpa [names] using h
  simp only [insert, hany, dite_false, lookup, List.find?_append]
  by_cases hn : n = s.name
  · subst hn
    have : t.lookup s.name = none := (t.lookup_eq_none_iff).2 h
    simp only [lookup] at this
    simp [this]
  · simp [hn, Ne.symm hn]

/-- After `insert` the name is taken, by the new symbol or the one already there. -/
theorem mem_names_insert (s : Symbolt) : s.name ∈ (t.insert s).1.names := by
  by_cases h : s.name ∈ t.names
  · rwa [insert_of_mem t h]
  · exact mem_names_of_lookup _ (by rw [lookup_insert_of_not_mem t h, if_pos rfl])

/-- `insert` adds the symbol exactly when its name is free. -/
theorem lookup_insert (s : Symbolt) (n : String) :
    (t.insert s).1.lookup n = if n = s.name ∧ s.name ∉ t.names then some s else t.lookup n := by
  by_cases h : s.name ∈ t.names
  · simp [insert_of_mem t h, h]
  · simp [lookup_insert_of_not_mem t h, h]

end SymbolTablet

end Cbmc.Util
