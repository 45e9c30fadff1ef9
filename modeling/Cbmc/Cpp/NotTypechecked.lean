import Cbmc.Cpp.Typecheckt

/-!
# Conversion of deferred member bodies

Member functions whose bodies were not needed during conversion keep a value of
identifier `cpp_not_typechecked` (a pending body). Converting a body may mark
other pending bodies `is_used`. `do_not_typechecked` makes passes over the whole
table, converting every body that is pending and used, until a pass converts
nothing; then every body still pending is made nil.

`convert_function` itself is abstract: it leaves the converted symbol a value
that is not pending, marks used the pending bodies of the symbols in `uses`, and
changes nothing else. So is the body of an `operator=`, which looks up the class
and builds the default assignment, and may stop the run. The model also records each call in a log, which the code
does not keep, so that the results can say which symbols were converted and how
often.
-/

namespace Cbmc.Cpp

open Util

/-- The abstraction of `convert_function` and of the default assignment body. -/
structure ConvertFunction where
  /-- `uses s t`: converting `s` marks the pending body of `t` used. -/
  uses : String → String → Bool
  /-- The value `convert_function` leaves on the symbol it converts. -/
  convert : Symbolt → Irept
  convert_not_pending : ∀ s, (convert s).id ≠ idCppNotTypechecked
  /-- `default_assignop_value(lookup(member), declarator)` for the class named `member`,
  with the declarator at `location`. Both may stop the run: `lookup` fails an invariant
  on a name the table lacks, and `default_assignop_value` typechecks the body. -/
  defaultAssignopValue : String → Irept → Except Failure Irept

/-- A pending body. -/
def isPending (s : Symbolt) : Bool := s.value.id == idCppNotTypechecked

/-- A pending body that is marked used: what the loop converts. -/
def isLive (s : Symbolt) : Bool := isPending s && s.value.getBool idIsUsed

/-- The table and the log of `convert_function` calls. -/
structure NotTypecheckedState where
  table : SymbolTablet
  converted : List String

/-- A symbol with its value marked `is_used`. -/
def markUsed (s : Symbolt) : Symbolt := { s with value := s.value.setBool idIsUsed true }

@[simp] theorem name_markUsed (s : Symbolt) : (markUsed s).name = s.name := rfl

@[simp] theorem value_markUsed (s : Symbolt) :
    (markUsed s).value = s.value.setBool idIsUsed true := rfl

@[simp] theorem type_markUsed (s : Symbolt) : (markUsed s).type = s.type := rfl

@[simp] theorem baseName_markUsed (s : Symbolt) : (markUsed s).baseName = s.baseName := rfl

@[simp] theorem location_markUsed (s : Symbolt) : (markUsed s).location = s.location := rfl

@[simp] theorem isPending_markUsed (s : Symbolt) : isPending (markUsed s) = isPending s := by
  simp [isPending, markUsed]

theorem markUsed_of_used {s : Symbolt} (h : s.value.getBool idIsUsed = true) : markUsed s = s := by
  simp [markUsed, Irept.setBool_of_getBool h]

@[simp] theorem markUsed_markUsed (s : Symbolt) : markUsed (markUsed s) = markUsed s :=
  markUsed_of_used (by simp)

variable (cf : ConvertFunction)

/-- What `convert_function` does to one symbol of the table, given the symbol it
converts: the converted symbol takes its final value, a pending body it uses is
marked used. -/
def convertEffect (symbol x : Symbolt) : Symbolt :=
  if x.name = symbol.name then { x with value := cf.convert symbol }
  else if cf.uses symbol.name x.name && isPending x then markUsed x
  else x

theorem name_convertEffect (symbol x : Symbolt) : (convertEffect cf symbol x).name = x.name := by
  unfold convertEffect; split
  · rfl
  · split <;> rfl

/-- `convert_function(symbol)` under the abstraction, with the call logged. -/
def convertFunction (symbol : Symbolt) (st : NotTypecheckedState) : NotTypecheckedState where
  table := st.table.update (convertEffect cf symbol) (name_convertEffect cf symbol)
  converted := st.converted ++ [symbol.name]

/-- The body the loop gives a live symbol before converting it: the default
assignment for `operator=`, else the one operand of the pending value. -/
def bodyOf (symbol : Symbolt) : Except Failure Irept :=
  if symbol.type.id ≠ idCode then throw (.invariantViolation "must be code")
  else if symbol.baseName = "operator=" then
    cf.defaultAssignopValue (symbol.type.get idCMemberName) symbol.location
  else match symbol.value.sub with
    | [op] => pure op
    | _ => throw (.invariantViolation "Unreachable")

/-- One iteration of the loop over the table, at the symbol named `name`, with the
`cont` flag of the pass. -/
def visit (name : String) (acc : NotTypecheckedState × Bool) :
    Except Failure (NotTypecheckedState × Bool) :=
  match acc.1.table.lookup name with
  | none => pure acc
  | some symbol =>
    if isLive symbol then do
      let value ← bodyOf cf symbol
      pure (convertFunction cf { symbol with value := value } acc.1, true)
    else pure acc

/-- The `for` loop of one pass, over the names in iteration order. -/
def visitAll : List String → NotTypecheckedState × Bool →
    Except Failure (NotTypecheckedState × Bool)
  | [], acc => pure acc
  | name :: names, acc => do
    let acc' ← visit cf name acc
    visitAll names acc'

/-- One pass of the `do … while(cont)` loop: `cont` starts false. -/
def pass (st : NotTypecheckedState) : Except Failure (NotTypecheckedState × Bool) :=
  visitAll cf st.table.names (st, false)

/-- The `do … while(cont)` loop, with a bound on the number of passes. It returns
the state and the number of passes made, or `none` when the bound is reached. -/
def passes : Nat → NotTypecheckedState → Except Failure (Option (NotTypecheckedState × Nat))
  | 0, _ => pure none
  | fuel + 1, st => do
    let (st', cont) ← pass cf st
    if cont then
      let r ← passes fuel st'
      pure (r.map fun (s, k) => (s, k + 1))
    else pure (some (st', 1))

/-- The final loop: every body still pending becomes nil. -/
def nilPending (t : SymbolTablet) : SymbolTablet :=
  t.update (fun x => if isPending x then { x with value := Irept.nil } else x)
    (fun x => by dsimp only; split <;> rfl)

/-- `cpp_typecheckt::do_not_typechecked`, with the number of passes bounded by
one more than the number of symbols. -/
def doNotTypechecked (t : SymbolTablet) : Except Failure (Option NotTypecheckedState) := do
  let r ← passes cf (t.symbols.length + 1) ⟨t, []⟩
  pure (r.map fun (st, _) => { st with table := nilPending st.table })

/-! ### One conversion -/

/-- The symbol named `x` holds a pending body. -/
def pendingIn (t : SymbolTablet) (x : String) : Bool := (t.lookup x).any isPending

/-- The symbol named `x` holds a pending body marked used. -/
def liveIn (t : SymbolTablet) (x : String) : Bool := (t.lookup x).any isLive

/-- The symbol named `x` holds a value marked used. -/
def usedIn (t : SymbolTablet) (x : String) : Bool :=
  (t.lookup x).any fun s => s.value.getBool idIsUsed

theorem exists_of_pendingIn {t : SymbolTablet} {x : String} (h : pendingIn t x = true) :
    ∃ s, t.lookup x = some s ∧ isPending s = true := by
  unfold pendingIn at h
  cases hl : t.lookup x with
  | none => simp [hl] at h
  | some s => exact ⟨s, rfl, by simpa [hl] using h⟩

theorem liveIn_eq (t : SymbolTablet) (x : String) : liveIn t x = (pendingIn t x && usedIn t x) := by
  unfold liveIn pendingIn usedIn; cases t.lookup x <;> rfl

theorem isPending_convertEffect (symbol x : Symbolt) :
    isPending (convertEffect cf symbol x) = (isPending x && x.name != symbol.name) := by
  unfold convertEffect
  by_cases hn : x.name = symbol.name
  · simp [hn, isPending, cf.convert_not_pending]
  · rw [if_neg hn]
    split <;> simp [isPending, hn]

theorem used_convertEffect {symbol x : Symbolt} (hn : x.name ≠ symbol.name)
    (hx : isPending x = true) :
    (convertEffect cf symbol x).value.getBool idIsUsed =
      (x.value.getBool idIsUsed || cf.uses symbol.name x.name) := by
  unfold convertEffect
  cases hu : cf.uses symbol.name x.name <;> simp [hn, hu, hx]

/-- A symbol with its value cleared: the part of it the loop never changes. -/
def eraseValue (s : Symbolt) : Symbolt := { s with value := Irept.nil }

theorem eraseValue_convertEffect (symbol x : Symbolt) :
    eraseValue (convertEffect cf symbol x) = eraseValue x := by
  unfold convertEffect; split
  · rfl
  · split <;> rfl

/-- On a symbol other than the converted one, `convert_function` at most marks it used. -/
theorem convertEffect_of_ne {symbol x : Symbolt} (hn : x.name ≠ symbol.name) :
    convertEffect cf symbol x = x ∨ convertEffect cf symbol x = markUsed x := by
  unfold convertEffect
  rw [if_neg hn]
  split
  · exact .inr rfl
  · exact .inl rfl

theorem convertEffect_of_not_pending {symbol x : Symbolt} (hx : isPending x = false)
    (hn : x.name ≠ symbol.name) : convertEffect cf symbol x = x := by
  simp [convertEffect, hn, hx]

theorem lookup_convertFunction (symbol : Symbolt) (st : NotTypecheckedState) (x : String) :
    (convertFunction cf symbol st).table.lookup x = (st.table.lookup x).map (convertEffect cf symbol) :=
  st.table.lookup_update (convertEffect cf symbol) (name_convertEffect cf symbol) x

@[simp] theorem names_convertFunction (symbol : Symbolt) (st : NotTypecheckedState) :
    (convertFunction cf symbol st).table.names = st.table.names :=
  st.table.names_update (convertEffect cf symbol) (name_convertEffect cf symbol)

@[simp] theorem converted_convertFunction (symbol : Symbolt) (st : NotTypecheckedState) :
    (convertFunction cf symbol st).converted = st.converted ++ [symbol.name] := rfl

theorem pendingIn_convertFunction (symbol : Symbolt) (st : NotTypecheckedState) (x : String) :
    pendingIn (convertFunction cf symbol st).table x = (pendingIn st.table x && x != symbol.name) := by
  unfold pendingIn
  rw [lookup_convertFunction]
  cases h : st.table.lookup x with
  | none => rfl
  | some s => simp [isPending_convertEffect, st.table.name_of_lookup h]

theorem lookup_convertFunction_of_not_pending {symbol : Symbolt} {st : NotTypecheckedState}
    {x : String} (hx : pendingIn st.table x = false) (hn : x ≠ symbol.name) :
    (convertFunction cf symbol st).table.lookup x = st.table.lookup x := by
  rw [lookup_convertFunction]
  cases hl : st.table.lookup x with
  | none => rfl
  | some s =>
    have hp : isPending s = false := by simpa [pendingIn, hl] using hx
    rw [Option.map_some', convertEffect_of_not_pending cf hp (st.table.name_of_lookup hl ▸ hn)]

/-- A symbol other than the converted one keeps its value or gains the `is_used` mark. -/
theorem lookup_convertFunction_of_ne {symbol s : Symbolt} {st : NotTypecheckedState} {x : String}
    (hl : st.table.lookup x = some s) (hn : x ≠ symbol.name) :
    (convertFunction cf symbol st).table.lookup x = some s ∨
      (convertFunction cf symbol st).table.lookup x = some (markUsed s) := by
  rw [lookup_convertFunction, hl, Option.map_some']
  rcases convertEffect_of_ne cf (st.table.name_of_lookup hl ▸ hn) with he | he <;> rw [he]
  · exact .inl rfl
  · exact .inr rfl

theorem usedIn_convertFunction {symbol : Symbolt} {st : NotTypecheckedState} {x : String}
    (hn : x ≠ symbol.name) (hx : pendingIn st.table x = true) :
    usedIn (convertFunction cf symbol st).table x = (usedIn st.table x || cf.uses symbol.name x) := by
  unfold usedIn
  rw [lookup_convertFunction]
  unfold pendingIn at hx
  cases h : st.table.lookup x with
  | none => simp [h] at hx
  | some s =>
    have hs := st.table.name_of_lookup h
    subst hs
    simp only [h, Option.any_some] at hx
    simp [used_convertEffect cf hn hx]

/-- The loop's test in `visit` can be met only by a code symbol that is an
`operator=` or has one operand: otherwise it stops on `DATA_INVARIANT` or
`UNREACHABLE`. -/
def PendingWellFormed (t : SymbolTablet) : Prop :=
  ∀ x s, t.lookup x = some s → isPending s = true →
    s.type.id = idCode ∧ (s.baseName = "operator=" ∨ s.value.sub.length = 1)

/-! ### One iteration of the loop -/

/-- What one iteration can do: nothing, at a symbol that is not live, or convert
the live symbol under the iterator. -/
theorem visit_eq_ok {name : String} {acc acc' : NotTypecheckedState × Bool}
    (h : visit cf name acc = .ok acc') :
    (acc' = acc ∧ liveIn acc.1.table name = false) ∨
      ∃ s v, acc.1.table.lookup name = some s ∧ isLive s = true ∧ bodyOf cf s = .ok v ∧
        acc' = (convertFunction cf { s with value := v } acc.1, true) := by
  unfold visit at h
  split at h
  · next hl => exact .inl ⟨(Except.ok.inj h).symm, by simp [liveIn, hl]⟩
  · next s hl =>
    split at h
    · next hlive =>
      obtain ⟨v, hv, h⟩ := bind_eq_ok h
      exact .inr ⟨s, v, hl, hlive, hv, (Except.ok.inj h).symm⟩
    · next hlive => exact .inl ⟨(Except.ok.inj h).symm, by simp [liveIn, hl, hlive]⟩

/-- `bodyOf` returns exactly on a code symbol that is an `operator=` whose default
body returns, or is not one and has one operand. -/
theorem bodyOf_ok_iff {s : Symbolt} :
    (∃ v, bodyOf cf s = .ok v) ↔
      s.type.id = idCode ∧
        ((s.baseName = "operator=" ∧
            ∃ v, cf.defaultAssignopValue (s.type.get idCMemberName) s.location = .ok v) ∨
          (s.baseName ≠ "operator=" ∧ s.value.sub.length = 1)) := by
  by_cases hcode : s.type.id = idCode
  · by_cases hbase : s.baseName = "operator="
    · simp [bodyOf, hcode, hbase]
    · cases hsub : s.value.sub with
      | nil => simp [bodyOf, hcode, hbase, hsub]
      | cons op ops => cases ops <;> simp [bodyOf, hcode, hbase, hsub]
  · simp [bodyOf, hcode]

end Cbmc.Cpp
