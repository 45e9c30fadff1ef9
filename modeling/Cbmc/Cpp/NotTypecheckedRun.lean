import Cbmc.Cpp.NotTypechecked
import Mathlib.Data.List.Nodup

/-!
# Runs of `do_not_typechecked`

The loop converts exactly the closure of the initially used pending bodies under
`uses`, each once, for every table, every initial marking, every `uses` relation
and so every iteration order: a body marked by a conversion later in the same
pass, or earlier in the table than the converting symbol, is picked up by a later
pass. Each pass that sets `cont` converts at least one pending body, and a body
once converted is never pending again, so there are at most one more passes than
pending bodies on entry.

The invariant `LoopInvariant` relates every state of a run to the table on entry:
the pending bodies are those on entry not yet converted, and a pending body is
marked used exactly when it was on entry or a converted symbol uses it.

From it the table a run leaves is a function of the table on entry alone
(`doNotTypechecked_lookup`): the run returns exactly when every body of the
closure can be converted, and the order of the table changes only the number of
passes, never the result. A second run on the table it leaves changes nothing.
-/

namespace Cbmc.Cpp

open Util

variable (cf : ConvertFunction) (t0 : SymbolTablet)

/-- The closure of the pending bodies used on entry under `uses`, restricted to
pending bodies. -/
inductive Demanded : String → Prop
  | used {x : String} : liveIn t0 x = true → Demanded x
  | uses {x y : String} : Demanded x → cf.uses x y = true → pendingIn t0 y = true → Demanded y

theorem Demanded.pendingIn {x : String} (h : Demanded cf t0 x) : pendingIn t0 x = true := by
  cases h with
  | used hl => rw [liveIn_eq, Bool.and_eq_true] at hl; exact hl.1
  | uses _ _ hp => exact hp

/-- The closure depends on the table only through its lookups. -/
theorem Demanded.of_lookup_eq {t0' : SymbolTablet} (hsame : ∀ x, t0.lookup x = t0'.lookup x)
    {x : String} (h : Demanded cf t0 x) : Demanded cf t0' x := by
  induction h with
  | used hl => exact .used (by rwa [liveIn, ← hsame])
  | uses _ huse hp ih => exact .uses ih huse (by rwa [Cpp.pendingIn, ← hsame])

/-- What `do_not_typechecked` makes of a symbol of the closure, from its symbol `s` on
entry and the body `v` the loop gives it: `convert_function` replaces the value. -/
def convertedSymbol (s : Symbolt) (v : Irept) : Symbolt :=
  { s with value := cf.convert { s with value := v } }

/-- Every symbol of the closure has a body: `bodyOf` returns on it once it is marked
used. -/
def HasBodies : Prop :=
  ∀ x s, t0.lookup x = some s → Demanded cf t0 x → ∃ v, bodyOf cf (markUsed s) = .ok v

/-- What every state of a run keeps, relative to the table `t0` on entry. -/
structure LoopInvariant (st : NotTypecheckedState) : Prop where
  names : st.table.names = t0.names
  pending : ∀ x, pendingIn st.table x = true ↔ pendingIn t0 x = true ∧ x ∉ st.converted
  nodup : st.converted.Nodup
  demanded : ∀ x ∈ st.converted, Demanded cf t0 x
  used : ∀ x, pendingIn st.table x = true →
    (usedIn st.table x = true ↔ usedIn t0 x = true ∨ ∃ y ∈ st.converted, cf.uses y x = true)
  values : ∀ x, (st.table.lookup x).map eraseValue = (t0.lookup x).map eraseValue
  frame : ∀ x, pendingIn t0 x = false → st.table.lookup x = t0.lookup x
  marked : ∀ x s, t0.lookup x = some s → pendingIn st.table x = true →
    st.table.lookup x = some s ∨ st.table.lookup x = some (markUsed s)
  convertedValue : ∀ x ∈ st.converted, ∀ s, t0.lookup x = some s →
    ∃ v, bodyOf cf (markUsed s) = .ok v ∧ st.table.lookup x = some (convertedSymbol cf s v)

theorem loopInvariant_init : LoopInvariant cf t0 ⟨t0, []⟩ where
  names := rfl
  pending x := by simp
  nodup := List.nodup_nil
  demanded x h := absurd h (List.not_mem_nil x)
  used x _ := by simp
  values _ := rfl
  frame _ _ := rfl
  marked _ _ hs _ := .inl hs
  convertedValue x h := absurd h (List.not_mem_nil x)

/-- A body not pending on entry never becomes pending. -/
theorem LoopInvariant.not_pending_of_entry {st : NotTypecheckedState} (hinv : LoopInvariant cf t0 st)
    {x : String} (hx : pendingIn t0 x = false) : pendingIn st.table x = false :=
  Bool.eq_false_iff.2 fun hp => by simp [((hinv.pending x).1 hp).1] at hx

/-- A converted body is no longer pending. -/
theorem LoopInvariant.not_pending_of_converted {st : NotTypecheckedState}
    (hinv : LoopInvariant cf t0 st) {x : String} (hx : x ∈ st.converted) :
    pendingIn st.table x = false :=
  Bool.eq_false_iff.2 fun hp => ((hinv.pending x).1 hp).2 hx

/-- A pending body outside the closure is never converted, so it stays pending. -/
theorem LoopInvariant.pending_of_not_demanded {st : NotTypecheckedState}
    (hinv : LoopInvariant cf t0 st) {x : String} (hp : pendingIn t0 x = true)
    (hnd : ¬Demanded cf t0 x) : pendingIn st.table x = true :=
  (hinv.pending x).2 ⟨hp, fun h => hnd (hinv.demanded x h)⟩

/-- A live symbol is its symbol on entry marked used; it lies in the closure and is not
yet converted. -/
theorem LoopInvariant.live {st : NotTypecheckedState} (hinv : LoopInvariant cf t0 st)
    {n : String} {s : Symbolt} (hl : st.table.lookup n = some s) (hlive : isLive s = true) :
    ∃ s0, t0.lookup n = some s0 ∧ s = markUsed s0 ∧ Demanded cf t0 n ∧ n ∉ st.converted := by
  have hlive' : liveIn st.table n = true := by simp [liveIn, hl, hlive]
  rw [liveIn_eq, Bool.and_eq_true] at hlive'
  obtain ⟨hp0, hnew⟩ := (hinv.pending n).1 hlive'.1
  obtain ⟨s0, h0, -⟩ := exists_of_pendingIn hp0
  refine ⟨s0, h0, ?_, ?_, hnew⟩
  · rcases hinv.marked n s0 h0 hlive'.1 with h | h <;> rw [hl] at h <;> cases h
    · exact (markUsed_of_used (by simp only [isLive, Bool.and_eq_true] at hlive; exact hlive.2)).symm
    · rfl
  · rcases (hinv.used n hlive'.1).1 hlive'.2 with hu | ⟨y, hy, huse⟩
    · exact .used (by rw [liveIn_eq, hp0, hu]; rfl)
    · exact .uses (hinv.demanded y hy) huse hp0

/-- Converting a live symbol keeps the invariant. -/
theorem LoopInvariant.convert {st : NotTypecheckedState} (hinv : LoopInvariant cf t0 st)
    {n : String} {s : Symbolt} (hl : st.table.lookup n = some s) (hlive : isLive s = true)
    {v : Irept} (hv : bodyOf cf s = .ok v) :
    LoopInvariant cf t0 (convertFunction cf { s with value := v } st) := by
  obtain ⟨s0, h0, rfl, hdem, hnew⟩ := hinv.live cf t0 hl hlive
  obtain rfl : s0.name = n := t0.name_of_lookup h0
  have hp0 : pendingIn t0 s0.name = true := hdem.pendingIn
  constructor
  case names => simp [hinv.names]
  case pending =>
    intro x
    rw [pendingIn_convertFunction, Bool.and_eq_true, hinv.pending x, converted_convertFunction]
    simp [and_assoc]
  case nodup => simpa using hinv.nodup.append (List.nodup_singleton s0.name) (by simpa using hnew)
  case demanded =>
    intro x hx
    simp only [converted_convertFunction, List.mem_append, List.mem_singleton] at hx
    rcases hx with hx | rfl
    · exact hinv.demanded x hx
    · exact hdem
  case used =>
    intro x hx
    have hx' := hx
    rw [pendingIn_convertFunction, Bool.and_eq_true, bne_iff_ne] at hx'
    rw [usedIn_convertFunction cf hx'.2 hx'.1, Bool.or_eq_true, hinv.used x hx'.1]
    simp [or_and_right, exists_or, or_assoc]
  case values =>
    intro x
    rw [lookup_convertFunction, Option.map_map,
      show eraseValue ∘ convertEffect cf _ = eraseValue from funext (eraseValue_convertEffect cf _),
      hinv.values x]
  case frame =>
    intro x hx
    rw [lookup_convertFunction_of_not_pending cf (hinv.not_pending_of_entry cf t0 hx) ?_,
      hinv.frame x hx]
    rintro rfl
    simp [hp0] at hx
  case marked =>
    intro x s1 h1 hpx
    rw [pendingIn_convertFunction, Bool.and_eq_true, bne_iff_ne] at hpx
    rcases hinv.marked x s1 h1 hpx.1 with h | h
    · exact lookup_convertFunction_of_ne cf h hpx.2
    · exact .inr (by simpa using lookup_convertFunction_of_ne cf h hpx.2)
  case convertedValue =>
    intro x hx s1 h1
    simp only [converted_convertFunction, List.mem_append, List.mem_singleton] at hx
    rcases hx with hx | rfl
    · obtain ⟨v1, hv1, hl1⟩ := hinv.convertedValue x hx s1 h1
      refine ⟨v1, hv1, ?_⟩
      rw [lookup_convertFunction_of_not_pending cf (hinv.not_pending_of_converted cf t0 hx) ?_, hl1]
      rintro rfl
      exact hnew hx
    · obtain rfl : s1 = s0 := Option.some_injective _ (h1.symm.trans h0)
      exact ⟨v, hv, by rw [lookup_convertFunction, name_markUsed, hl]; exact congrArg some (if_pos rfl)⟩

theorem LoopInvariant.visit {name : String} {acc acc' : NotTypecheckedState × Bool}
    (h : visit cf name acc = .ok acc') (hinv : LoopInvariant cf t0 acc.1) :
    LoopInvariant cf t0 acc'.1 := by
  rcases visit_eq_ok cf h with ⟨rfl, -⟩ | ⟨s, v, hl, hlive, hv, rfl⟩
  · exact hinv
  · exact hinv.convert cf t0 hl hlive hv

/-- When every symbol of the closure has a body, an iteration never stops the run. -/
theorem visit_ok {acc : NotTypecheckedState × Bool} (hinv : LoopInvariant cf t0 acc.1)
    (hb : HasBodies cf t0) (name : String) : ∃ acc', visit cf name acc = .ok acc' := by
  unfold visit
  split
  · exact ⟨_, rfl⟩
  · next s hl =>
    split
    · next hlive =>
      obtain ⟨s0, h0, rfl, hdem, -⟩ := hinv.live cf t0 hl hlive
      obtain ⟨v, hv⟩ := hb name s0 h0 hdem
      exact ⟨_, by rw [hv]; rfl⟩
    · exact ⟨_, rfl⟩

/-! ### One pass -/

theorem LoopInvariant.visitAll : ∀ {names : List String} {acc acc' : NotTypecheckedState × Bool},
    visitAll cf names acc = .ok acc' → LoopInvariant cf t0 acc.1 → LoopInvariant cf t0 acc'.1
  | [], _, _, h, hinv => by cases h; exact hinv
  | _ :: _, _, _, h, hinv => by
    obtain ⟨acc1, h1, h2⟩ := bind_eq_ok h
    exact LoopInvariant.visitAll h2 (hinv.visit cf t0 h1)

/-- The log grows by the symbols converted in the pass, and `cont` records whether
there were any. -/
theorem visitAll_converted : ∀ {names : List String} {acc acc' : NotTypecheckedState × Bool},
    visitAll cf names acc = .ok acc' →
      ∃ new, acc'.1.converted = acc.1.converted ++ new ∧ acc'.2 = (acc.2 || !new.isEmpty)
  | [], _, _, h => by cases h; exact ⟨[], by simp⟩
  | _ :: _, _, _, h => by
    obtain ⟨acc1, h1, h2⟩ := bind_eq_ok h
    obtain ⟨new, hc, hcont⟩ := visitAll_converted h2
    rcases visit_eq_ok cf h1 with ⟨rfl, -⟩ | ⟨s, v, -, -, -, rfl⟩
    · exact ⟨new, hc, hcont⟩
    · exact ⟨s.name :: new, by simp [hc], by simp [hcont]⟩

/-- A pass that leaves `cont` false changed nothing, and saw no live symbol. -/
theorem visitAll_not_cont : ∀ {names : List String} {st : NotTypecheckedState}
    {acc' : NotTypecheckedState × Bool}, visitAll cf names (st, false) = .ok acc' →
      acc'.2 = false → acc'.1 = st ∧ ∀ n ∈ names, liveIn st.table n = false
  | [], _, _, h, _ => by cases h; simp
  | _ :: _, _, _, h, hc => by
    obtain ⟨acc1, h1, h2⟩ := bind_eq_ok h
    rcases visit_eq_ok cf h1 with ⟨rfl, hlive⟩ | ⟨s, v, -, -, -, rfl⟩
    · obtain ⟨hst, hrest⟩ := visitAll_not_cont h2 hc
      exact ⟨hst, by simpa [hlive] using hrest⟩
    · obtain ⟨new, -, hcont⟩ := visitAll_converted cf h2
      simp [hc] at hcont

theorem visitAll_ok (hb : HasBodies cf t0) : ∀ (names : List String) (acc : NotTypecheckedState × Bool),
    LoopInvariant cf t0 acc.1 → ∃ acc', visitAll cf names acc = .ok acc'
  | [], acc, _ => ⟨acc, rfl⟩
  | name :: names, acc, hinv => by
    obtain ⟨acc1, h1⟩ := visit_ok cf t0 hinv hb name
    obtain ⟨acc', h2⟩ := visitAll_ok hb names acc1 (hinv.visit cf t0 h1)
    exact ⟨acc', by simp [visitAll, h1, h2]⟩

theorem pass_converted {st st' : NotTypecheckedState} {cont : Bool}
    (h : pass cf st = .ok (st', cont)) :
    ∃ new, st'.converted = st.converted ++ new ∧ cont = !new.isEmpty := by
  simpa using visitAll_converted cf h

/-- A pass that sets `cont` converts at least one symbol. -/
theorem pass_cont_converted {st st' : NotTypecheckedState} (h : pass cf st = .ok (st', true)) :
    ∃ x new, st'.converted = st.converted ++ x :: new := by
  obtain ⟨new, hc, hne⟩ := pass_converted cf h
  obtain ⟨x, rest, rfl⟩ := List.exists_cons_of_ne_nil fun h : new = [] => by simp [h] at hne
  exact ⟨x, rest, hc⟩

theorem pass_cont_length {st st' : NotTypecheckedState} (h : pass cf st = .ok (st', true)) :
    st.converted.length < st'.converted.length := by
  obtain ⟨x, new, hc⟩ := pass_cont_converted cf h
  simp [hc]

/-- After a pass that leaves `cont` false no symbol is live. -/
theorem pass_not_cont {st st' : NotTypecheckedState} (h : pass cf st = .ok (st', false)) :
    st' = st ∧ ∀ x, liveIn st.table x = false := by
  obtain ⟨hst, hlive⟩ := visitAll_not_cont cf h rfl
  refine ⟨hst, fun x => ?_⟩
  by_cases hx : x ∈ st.table.names
  · exact hlive x hx
  · simp [liveIn, (st.table.lookup_eq_none_iff).2 hx]

/-! ### Whole runs -/

/-- The states a run passes through: those that successful passes lead to. -/
inductive PassReach : NotTypecheckedState → NotTypecheckedState → Prop
  | refl (st : NotTypecheckedState) : PassReach st st
  | tail {st st' st'' : NotTypecheckedState} {cont : Bool} :
      PassReach st st' → pass cf st' = .ok (st'', cont) → PassReach st st''

theorem PassReach.trans {st st' st'' : NotTypecheckedState} (h1 : PassReach cf st st')
    (h2 : PassReach cf st' st'') : PassReach cf st st'' := by
  induction h2 with
  | refl => exact h1
  | tail _ hp ih => exact .tail ih hp

theorem LoopInvariant.passReach {st st' : NotTypecheckedState} (h : PassReach cf st st')
    (hinv : LoopInvariant cf t0 st) : LoopInvariant cf t0 st' := by
  induction h with
  | refl => exact hinv
  | tail _ hp ih => exact ih.visitAll cf t0 hp

theorem PassReach.converted_prefix {st st' : NotTypecheckedState} (h : PassReach cf st st') :
    st.converted <+: st'.converted := by
  induction h with
  | refl => exact List.prefix_refl _
  | tail _ hp ih =>
    obtain ⟨new, hc, -⟩ := pass_converted cf hp
    exact ih.trans ⟨new, hc.symm⟩

/-- The number of pending bodies on entry. -/
def pendingCount : Nat := (t0.symbols.filter isPending).length

theorem mem_pending_names {x : String} (h : pendingIn t0 x = true) :
    x ∈ (t0.symbols.filter isPending).map Symbolt.name := by
  unfold pendingIn at h
  cases hl : t0.lookup x with
  | none => simp [hl] at h
  | some s =>
    obtain ⟨hs, rfl⟩ := (t0.lookup_eq_some_iff).1 hl
    simp only [hl, Option.any_some] at h
    exact List.mem_map.2 ⟨s, List.mem_filter.2 ⟨hs, h⟩, rfl⟩

/-- Only pending bodies are converted, each once: the log is never longer than the
number of pending bodies on entry. -/
theorem LoopInvariant.converted_length_le {st : NotTypecheckedState}
    (hinv : LoopInvariant cf t0 st) : st.converted.length ≤ pendingCount t0 := by
  have hsub : st.converted ⊆ (t0.symbols.filter isPending).map Symbolt.name :=
    fun x hx => mem_pending_names t0 ((hinv.demanded x hx).pendingIn)
  simpa [pendingCount] using (List.subperm_of_subset hinv.nodup hsub).length_le

theorem passes_some : ∀ {fuel : Nat} {st st' : NotTypecheckedState} {k : Nat},
    passes cf fuel st = .ok (some (st', k)) →
      PassReach cf st st' ∧ (∀ x, liveIn st'.table x = false) ∧
        st.converted.length + k ≤ st'.converted.length + 1
  | 0, _, _, _, h => by simp [passes] at h
  | fuel + 1, st, st', k, h => by
    obtain ⟨⟨st1, cont⟩, hp, h⟩ := bind_eq_ok h
    cases cont with
    | false =>
      obtain ⟨rfl, rfl⟩ : st1 = st' ∧ 1 = k := by simpa using h
      obtain ⟨rfl, hlive⟩ := pass_not_cont cf hp
      exact ⟨.tail (.refl _) hp, hlive, le_refl _⟩
    | true =>
      obtain ⟨r, hr, h⟩ := bind_eq_ok h
      obtain ⟨⟨st2, k'⟩, rfl, h⟩ := Option.map_eq_some'.1 (Except.ok.inj h)
      obtain ⟨rfl, rfl⟩ : st2 = st' ∧ k' + 1 = k := by simpa using h
      obtain ⟨hreach, hlive, hlen⟩ := passes_some hr
      have hgrow := pass_cont_length cf hp
      exact ⟨(PassReach.tail (.refl _) hp).trans cf hreach, hlive, by omega⟩

/-- With more passes allowed than pending bodies remain, the bound is never reached. -/
theorem passes_ne_none : ∀ {fuel : Nat} {st : NotTypecheckedState}, LoopInvariant cf t0 st →
    pendingCount t0 < st.converted.length + fuel → passes cf fuel st ≠ .ok none
  | 0, _, hinv, hlt => absurd hlt (by have := hinv.converted_length_le; omega)
  | fuel + 1, st, hinv, hlt => fun h => by
    obtain ⟨⟨st1, cont⟩, hp, h⟩ := bind_eq_ok h
    cases cont with
    | false => simp at h
    | true =>
      obtain ⟨r, hr, h⟩ := bind_eq_ok h
      obtain rfl : r = none := by simpa using h
      have hgrow := pass_cont_length cf hp
      have hinv1 : LoopInvariant cf t0 st1 := hinv.visitAll cf t0 hp
      exact passes_ne_none hinv1 (by omega) hr

theorem passes_ok (hb : HasBodies cf t0) : ∀ (fuel : Nat) (st : NotTypecheckedState),
    LoopInvariant cf t0 st → ∃ r, passes cf fuel st = .ok r
  | 0, _, _ => ⟨none, rfl⟩
  | fuel + 1, st, hinv => by
    obtain ⟨⟨st1, cont⟩, hp⟩ := visitAll_ok cf t0 hb st.table.names (st, false) hinv
    cases cont with
    | false => exact ⟨some (st1, 1), by simp [passes, pass, hp]⟩
    | true =>
      obtain ⟨r, hr⟩ := passes_ok hb fuel st1 (hinv.visitAll cf t0 hp)
      exact ⟨r.map fun (s, k) => (s, k + 1), by simp [passes, pass, hp, hr]⟩

theorem LoopInvariant.mem_converted_of_used {st : NotTypecheckedState}
    (hinv : LoopInvariant cf t0 st) (hlive : ∀ x, liveIn st.table x = false) {x : String}
    (hp0 : pendingIn t0 x = true)
    (hu : usedIn t0 x = true ∨ ∃ y ∈ st.converted, cf.uses y x = true) : x ∈ st.converted := by
  by_contra hnot
  have hp := (hinv.pending x).2 ⟨hp0, hnot⟩
  have := hlive x
  rw [liveIn_eq, hp, (hinv.used x hp).2 hu] at this
  exact absurd this (by decide)

/-- Once no symbol is live, the whole closure has been converted. -/
theorem LoopInvariant.demanded_converted {st : NotTypecheckedState}
    (hinv : LoopInvariant cf t0 st) (hlive : ∀ x, liveIn st.table x = false) {x : String}
    (hx : Demanded cf t0 x) : x ∈ st.converted := by
  induction hx with
  | used hl =>
    rw [liveIn_eq, Bool.and_eq_true] at hl
    exact hinv.mem_converted_of_used cf t0 hlive hl.1 (.inl hl.2)
  | uses _ huse hp ih => exact hinv.mem_converted_of_used cf t0 hlive hp (.inr ⟨_, ih, huse⟩)

theorem lookup_nilPending (t : SymbolTablet) (x : String) :
    (nilPending t).lookup x =
      (t.lookup x).map fun s => if isPending s then { s with value := Irept.nil } else s :=
  t.lookup_update _ _ x

theorem value_nilPending {t : SymbolTablet} {x : String} (h : pendingIn t x = true) :
    ((nilPending t).lookup x).map (·.value) = some Irept.nil := by
  unfold pendingIn at h
  cases hl : t.lookup x with
  | none => simp [hl] at h
  | some s =>
    simp only [hl, Option.any_some] at h
    simp [lookup_nilPending, hl, h]

theorem eraseValue_nilPending (t : SymbolTablet) (x : String) :
    ((nilPending t).lookup x).map eraseValue = (t.lookup x).map eraseValue := by
  rw [lookup_nilPending, Option.map_map]
  congr 1
  funext s
  simp only [Function.comp]
  split <;> rfl

theorem lookup_nilPending_of_not_pending {t : SymbolTablet} {x : String}
    (h : pendingIn t x = false) : (nilPending t).lookup x = t.lookup x := by
  rw [lookup_nilPending]
  cases hl : t.lookup x with
  | none => rfl
  | some s =>
    have hp : isPending s = false := by simpa [pendingIn, hl] using h
    simp [hp]

theorem pendingIn_nilPending (t : SymbolTablet) (x : String) : pendingIn (nilPending t) x = false := by
  unfold pendingIn
  rw [lookup_nilPending]
  cases t.lookup x with
  | none => rfl
  | some s =>
    simp only [Option.map_some', Option.any_some]
    split
    · rfl
    · next hs => simpa using hs

/-- A run that returns ends in a state of the loop, with every body still pending
made nil. -/
theorem doNotTypechecked_eq_ok_some {st : NotTypecheckedState}
    (h : doNotTypechecked cf t0 = .ok (some st)) :
    ∃ st1, LoopInvariant cf t0 st1 ∧ (∀ x, liveIn st1.table x = false) ∧
      st = { st1 with table := nilPending st1.table } := by
  obtain ⟨r, hr, h⟩ := bind_eq_ok h
  obtain ⟨⟨st1, k⟩, rfl, hst⟩ := Option.map_eq_some'.1 (Except.ok.inj h)
  obtain ⟨hreach, hlive, -⟩ := passes_some cf hr
  exact ⟨st1, (loopInvariant_init cf t0).passReach cf t0 hreach, hlive, hst.symm⟩

/-- The model's bound on the number of passes is never reached. -/
theorem doNotTypechecked_ne_none : doNotTypechecked cf t0 ≠ .ok none := by
  intro h
  obtain ⟨r, hr, h⟩ := bind_eq_ok h
  obtain rfl : r = none := by simpa using Except.ok.inj h
  have hle : pendingCount t0 ≤ t0.symbols.length := List.length_filter_le _ _
  exact passes_ne_none cf t0 (loopInvariant_init cf t0) (by simp only [List.length_nil]; omega) hr

/-- When every symbol of the closure has a body, `do_not_typechecked` returns. -/
theorem doNotTypechecked_ok (hb : HasBodies cf t0) : ∃ st, doNotTypechecked cf t0 = .ok (some st) := by
  obtain ⟨r, hr⟩ := passes_ok cf t0 hb (t0.symbols.length + 1) ⟨t0, []⟩ (loopInvariant_init cf t0)
  have hok : doNotTypechecked cf t0 = .ok (r.map fun (st, _) => { st with table := nilPending st.table }) := by
    rw [doNotTypechecked, hr]; rfl
  obtain ⟨st, hst⟩ := Option.ne_none_iff_exists'.1 fun h => doNotTypechecked_ne_none cf t0 (h ▸ hok)
  exact ⟨st, hst ▸ hok⟩

/-- Every `operator=` of the closure gets its default body: the lookup of its class
and `default_assignop_value` return. -/
def AssignopBodies : Prop :=
  ∀ x s, t0.lookup x = some s → Demanded cf t0 x → s.baseName = "operator=" →
    ∃ v, cf.defaultAssignopValue (s.type.get idCMemberName) s.location = .ok v

theorem hasBodies_of_pendingWellFormed (hwf : PendingWellFormed t0) (hop : AssignopBodies cf t0) :
    HasBodies cf t0 := by
  intro x s hs hd
  obtain ⟨s', hs', hp⟩ := exists_of_pendingIn hd.pendingIn
  rw [hs] at hs'
  cases hs'
  obtain ⟨hcode, hshape⟩ := hwf x s hs hp
  refine (bodyOf_ok_iff cf).2 ⟨hcode, ?_⟩
  by_cases hbase : s.baseName = "operator="
  · exact .inl ⟨hbase, by simpa using hop x s hs hd hbase⟩
  · exact .inr ⟨hbase, by simpa using hshape.resolve_left hbase⟩

/-! ### Results -/

/-- Under the assumption that every pending body is code and an `operator=` or has
one operand, and that the default body of every `operator=` of the closure can be
built, `do_not_typechecked` returns; it has called `convert_function` once on each
symbol of the closure of the initially used pending bodies under `uses` and on no
other, every other pending body is nil, and no body is pending. -/
theorem doNotTypechecked_spec (hwf : PendingWellFormed t0) (hop : AssignopBodies cf t0) :
    ∃ st, doNotTypechecked cf t0 = .ok (some st) ∧
      st.converted.Nodup ∧ (∀ x, x ∈ st.converted ↔ Demanded cf t0 x) ∧
      (∀ x, pendingIn t0 x = true → ¬Demanded cf t0 x →
        (st.table.lookup x).map (·.value) = some Irept.nil) ∧
      ∀ x, pendingIn st.table x = false := by
  obtain ⟨st', hr⟩ := doNotTypechecked_ok cf t0 (hasBodies_of_pendingWellFormed cf t0 hwf hop)
  obtain ⟨st, hinv, hlive, rfl⟩ := doNotTypechecked_eq_ok_some cf t0 hr
  exact ⟨_, hr, hinv.nodup, fun x => ⟨hinv.demanded x, hinv.demanded_converted cf t0 hlive⟩,
    fun x hp hnd => value_nilPending (hinv.pending_of_not_demanded cf t0 hp hnd),
    pendingIn_nilPending _⟩

/-- A pending body with one operand, marked used or not. -/
def pendingBody (used : Bool) : Irept :=
  .mk idCppNotTypechecked [.mk idCode [] []] (if used then [(idIsUsed, .mk id1 [] [])] else [])

/-- A member function of class `c` whose body is still pending. -/
def pendingMember (name : String) (used : Bool) : Symbolt where
  name := name
  type := .mk idCode [] []
  value := pendingBody used
  location := default
  module := "m"
  baseName := name
  mode := idCpp
  isType := false
  isExtern := false
  isStaticLifetime := false

/-- Converting `f` uses `g`; every converted body becomes an empty code. -/
def fUsesG : ConvertFunction where
  uses s t := s == "f" && t == "g"
  convert _ := .mk idCode [] []
  convert_not_pending _ := by simp only [Irept.id_mk]; decide
  defaultAssignopValue _ _ := pure Irept.nil

/-- `g` before `f` in iteration order; only `f` is marked used. -/
def gThenF : SymbolTablet := ⟨[pendingMember "g" false, pendingMember "f" true], by decide⟩

theorem doNotTypechecked_gThenF :
    ∃ st, doNotTypechecked fUsesG gThenF = .ok (some st) ∧
      st.converted.Nodup ∧ (∀ x, x ∈ st.converted ↔ Demanded fUsesG gThenF x) ∧
      (∀ x, pendingIn gThenF x = true → ¬Demanded fUsesG gThenF x →
        (st.table.lookup x).map (·.value) = some Irept.nil) ∧
      ∀ x, pendingIn st.table x = false :=
  doNotTypechecked_spec fUsesG gThenF
    (fun x s hs _ => by
      obtain ⟨hmem, -⟩ := (gThenF.lookup_eq_some_iff).1 hs
      simp only [gThenF, List.mem_cons, List.mem_singleton, List.not_mem_nil, or_false] at hmem
      rcases hmem with rfl | rfl <;> exact ⟨rfl, .inr rfl⟩)
    (fun x s hs _ hop => by
      obtain ⟨hmem, -⟩ := (gThenF.lookup_eq_some_iff).1 hs
      simp only [gThenF, List.mem_cons, List.mem_singleton, List.not_mem_nil, or_false] at hmem
      rcases hmem with rfl | rfl <;> exact absurd hop (by decide))

/-- `f` marks `g` after the iterator has passed it, so `g` waits for a second pass
and a third finds nothing: the bound of two pending bodies plus one is reached. -/
example : (passes fUsesG 3 ⟨gThenF, []⟩).map (·.map fun r => (r.1.converted, r.2)) =
    .ok (some (["f", "g"], 3)) := rfl

/-- For every table the loop ends within one more pass than there are pending bodies
on entry (it returns, or stops on a failed invariant, before the bound), and each
pass that sets `cont` converts a body that was pending and is never pending again. -/
theorem doNotTypechecked_passes_le :
    passes cf (pendingCount t0 + 1) ⟨t0, []⟩ ≠ .ok none ∧
      (∀ fuel st k, passes cf fuel ⟨t0, []⟩ = .ok (some (st, k)) → k ≤ pendingCount t0 + 1) ∧
      ∀ st st', PassReach cf ⟨t0, []⟩ st → pass cf st = .ok (st', true) →
        ∃ x, pendingIn st.table x = true ∧ x ∉ st.converted ∧ x ∈ st'.converted ∧
          ∀ st'', PassReach cf st' st'' → pendingIn st''.table x = false := by
  have hinit := loopInvariant_init cf t0
  refine ⟨passes_ne_none cf t0 hinit (by simp), fun fuel st k h => ?_, fun st st' hreach hp => ?_⟩
  · obtain ⟨hreach, -, hlen⟩ := passes_some cf h
    have := (hinit.passReach cf t0 hreach).converted_length_le
    simp only [List.length_nil] at hlen
    omega
  · have hinv := hinit.passReach cf t0 hreach
    have hreach' : PassReach cf ⟨t0, []⟩ st' := .tail hreach hp
    have hinv' := hinit.passReach cf t0 hreach'
    obtain ⟨x, rest, hc⟩ := pass_cont_converted cf hp
    have hx' : x ∈ st'.converted := by simp [hc]
    have hnot : x ∉ st.converted := fun h =>
      (List.nodup_append.1 (hc ▸ hinv'.nodup)).2.2 h (List.mem_cons_self _ _)
    refine ⟨x, (hinv.pending x).2 ⟨(hinv'.demanded x hx').pendingIn, hnot⟩, hnot, hx',
      fun st'' h'' => ?_⟩
    have hinv'' := hinit.passReach cf t0 (hreach'.trans cf h'')
    have hmem := (PassReach.converted_prefix cf h'').subset hx'
    exact hinv''.not_pending_of_converted cf t0 hmem

/-- `do_not_typechecked` changes values only, and only those of the symbols that
held a pending body on entry. -/
theorem doNotTypechecked_frame {st : NotTypecheckedState}
    (h : doNotTypechecked cf t0 = .ok (some st)) (x : String) :
    (st.table.lookup x).map eraseValue = (t0.lookup x).map eraseValue ∧
      (pendingIn t0 x = false → st.table.lookup x = t0.lookup x) := by
  obtain ⟨st1, hinv, -, rfl⟩ := doNotTypechecked_eq_ok_some cf t0 h
  refine ⟨by rw [eraseValue_nilPending, hinv.values x], fun hx => ?_⟩
  rw [lookup_nilPending_of_not_pending (hinv.not_pending_of_entry cf t0 hx), hinv.frame x hx]

theorem doNotTypechecked_frame_gThenF :
    ∃ st, doNotTypechecked fUsesG gThenF = .ok (some st) ∧ ∀ x,
      (st.table.lookup x).map eraseValue = (gThenF.lookup x).map eraseValue ∧
        (pendingIn gThenF x = false → st.table.lookup x = gThenF.lookup x) :=
  ⟨_, rfl, doNotTypechecked_frame fUsesG gThenF rfl⟩

/-! ### The table a run leaves -/

/-- The table a run leaves, from the table on entry alone: a symbol of the closure is
converted from its body, any other pending body is nil, and every other symbol is as
it was. -/
theorem doNotTypechecked_lookup {st : NotTypecheckedState}
    (h : doNotTypechecked cf t0 = .ok (some st)) (x : String) :
    (t0.lookup x = none → st.table.lookup x = none) ∧
      ∀ s, t0.lookup x = some s →
        (Demanded cf t0 x →
          ∃ v, bodyOf cf (markUsed s) = .ok v ∧ st.table.lookup x = some (convertedSymbol cf s v)) ∧
        (¬Demanded cf t0 x →
          st.table.lookup x = some (if isPending s then { s with value := Irept.nil } else s)) := by
  obtain ⟨st1, hinv, hlive, rfl⟩ := doNotTypechecked_eq_ok_some cf t0 h
  refine ⟨fun hs => ?_, fun s hs => ⟨fun hd => ?_, fun hd => ?_⟩⟩
  · have := eraseValue_nilPending st1.table x
    rw [hinv.values x, hs] at this
    simpa using this
  · have hx := hinv.demanded_converted cf t0 hlive hd
    obtain ⟨v, hv, hl⟩ := hinv.convertedValue x hx s hs
    exact ⟨v, hv, by rw [lookup_nilPending_of_not_pending (hinv.not_pending_of_converted cf t0 hx), hl]⟩
  · cases hps : isPending s
    · have hx : pendingIn t0 x = false := by simp [pendingIn, hs, hps]
      rw [lookup_nilPending_of_not_pending (hinv.not_pending_of_entry cf t0 hx), hinv.frame x hx, hs,
        if_neg (by simp)]
    · have hx : pendingIn t0 x = true := by simp [pendingIn, hs, hps]
      have hp := hinv.pending_of_not_demanded cf t0 hx hd
      rw [lookup_nilPending]
      rcases hinv.marked x s hs hp with hl | hl
      · simp only [hl, Option.map_some', hps, if_true]
      · simp only [hl, Option.map_some', isPending_markUsed, hps, if_true]; rfl

theorem hasBodies_of_ok {st : NotTypecheckedState} (h : doNotTypechecked cf t0 = .ok (some st)) :
    HasBodies cf t0 := fun x s hs hd =>
  (((doNotTypechecked_lookup cf t0 h x).2 s hs).1 hd).imp fun _ hv => hv.1

/-- `do_not_typechecked` returns exactly when every symbol of the closure is code, and
is an `operator=` whose default body can be built or has one operand. -/
theorem doNotTypechecked_ok_iff :
    (∃ st, doNotTypechecked cf t0 = .ok (some st)) ↔
      ∀ x s, t0.lookup x = some s → Demanded cf t0 x →
        s.type.id = idCode ∧
          ((s.baseName = "operator=" ∧
              ∃ v, cf.defaultAssignopValue (s.type.get idCMemberName) s.location = .ok v) ∨
            (s.baseName ≠ "operator=" ∧ s.value.sub.length = 1)) := by
  constructor
  · rintro ⟨st, h⟩ x s hs hd
    simpa using (bodyOf_ok_iff cf).1 (hasBodies_of_ok cf t0 h x s hs hd)
  · exact fun hw => doNotTypechecked_ok cf t0 fun x s hs hd =>
      (bodyOf_ok_iff cf).2 (by simpa using hw x s hs hd)

/-- The table `do_not_typechecked` leaves does not depend on the iteration order: on
the same symbols in another order it returns as well, and leaves the same symbols. -/
theorem doNotTypechecked_order_independent {t0' : SymbolTablet} {st : NotTypecheckedState}
    (hsame : ∀ x, t0.lookup x = t0'.lookup x) (h : doNotTypechecked cf t0 = .ok (some st)) :
    ∃ st', doNotTypechecked cf t0' = .ok (some st') ∧
      ∀ x, st'.table.lookup x = st.table.lookup x := by
  have hd : ∀ x, Demanded cf t0' x ↔ Demanded cf t0 x := fun x =>
    ⟨Demanded.of_lookup_eq cf t0' fun y => (hsame y).symm, Demanded.of_lookup_eq cf t0 hsame⟩
  obtain ⟨st', h'⟩ := doNotTypechecked_ok cf t0' fun x s hs hdx =>
    hasBodies_of_ok cf t0 h x s ((hsame x).trans hs) ((hd x).1 hdx)
  refine ⟨st', h', fun x => ?_⟩
  have hl := doNotTypechecked_lookup cf t0 h x
  have hl' := doNotTypechecked_lookup cf t0' h' x
  cases hs : t0.lookup x with
  | none => rw [hl.1 hs, hl'.1 ((hsame x).symm.trans hs)]
  | some s =>
    have hs' : t0'.lookup x = some s := (hsame x).symm.trans hs
    by_cases hdx : Demanded cf t0 x
    · obtain ⟨v, hv, e⟩ := (hl.2 s hs).1 hdx
      obtain ⟨v', hv', e'⟩ := (hl'.2 s hs').1 ((hd x).2 hdx)
      rw [e, e', Except.ok.inj (hv'.symm.trans hv)]
    · rw [(hl.2 s hs).2 hdx, (hl'.2 s hs').2 (mt (hd x).1 hdx)]

/-- The symbols of `gThenF` in the other order. -/
def fThenG : SymbolTablet := ⟨[pendingMember "f" true, pendingMember "g" false], by decide⟩

theorem lookup_gThenF_fThenG (x : String) : gThenF.lookup x = fThenG.lookup x := by
  by_cases hg : "g" = x
  · subst hg; rfl
  · by_cases hf : "f" = x
    · subst hf; rfl
    · simp [SymbolTablet.lookup, gThenF, fThenG, pendingMember, hg, hf]

theorem doNotTypechecked_order_independent_fThenG :
    (∀ x, gThenF.lookup x = fThenG.lookup x) ∧
      ∃ st, doNotTypechecked fUsesG gThenF = .ok (some st) ∧
        ∃ st', doNotTypechecked fUsesG fThenG = .ok (some st') ∧
          ∀ x, st'.table.lookup x = st.table.lookup x :=
  ⟨lookup_gThenF_fThenG, _, rfl,
    doNotTypechecked_order_independent fUsesG gThenF lookup_gThenF_fThenG rfl⟩

/-- In this order `f` marks `g` before the iterator reaches it: two passes, where
`gThenF` takes three. -/
example : (passes fUsesG 3 ⟨fThenG, []⟩).map (·.map fun r => (r.1.converted, r.2)) =
    .ok (some (["f", "g"], 2)) := rfl

end Cbmc.Cpp
