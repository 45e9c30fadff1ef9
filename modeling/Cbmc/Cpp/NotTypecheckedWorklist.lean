import Cbmc.Cpp.NotTypecheckedRun

/-!
# `do_not_typechecked` against a worklist

The loop of `do_not_typechecked` walks the whole table in every pass and starts
another pass while the last one converted something. What it computes is more
simply said as a worklist: start from the pending bodies marked used, take one,
convert it, and queue the pending bodies it uses that are neither converted nor
queued, until the worklist is empty; then make every pending body left nil.
`doNotTypecheckedSpec` is that worklist, its number of steps bounded by one more
than the number of pending bodies, followed by the rewrite of every symbol in
place.

The worklist converts exactly the closure `Demanded`, each name once
(`worklistClosure_eq_some`), and on every table and every `uses` relation the
loop refines it: either both return, with the same symbols in the same order, or
both stop on a failed invariant. The two convert in different orders, but both only
convert a body once it is asked for: the loop converts each name after something
marked it used (`UseOrdered`).
-/

namespace Cbmc.Cpp

open Util

variable (cf : ConvertFunction) (t0 : SymbolTablet)

/-! ### The worklist -/

/-- The pending bodies that converting `x` marks used and that are not in `seen`,
the names converted or queued. -/
def newlyUsed (x : String) (seen : List String) : List String :=
  t0.names.filter fun y => cf.uses x y && pendingIn t0 y && decide (y ∉ seen)

/-- The worklist: convert the first queued name and queue what it newly uses.
`none` when the bound on the number of steps is reached. -/
def worklist : Nat → List String → List String → Option (List String)
  | 0, _, _ => none
  | _ + 1, [], done => some done
  | fuel + 1, x :: todo, done =>
    worklist fuel (todo ++ newlyUsed cf t0 x (done ++ x :: todo)) (done ++ [x])

/-- The worklist from the pending bodies marked used on entry. -/
def worklistClosure : Option (List String) :=
  worklist cf t0 (pendingCount t0 + 1) (t0.names.filter (liveIn t0)) []

/-- A symbol as the specification leaves it: converted from its body when it is in
the closure, with a nil value when it holds any other pending body, unchanged
otherwise. -/
def specSymbol (closure : List String) (s : Symbolt) : Except Failure Symbolt :=
  if s.name ∈ closure then do
    let v ← bodyOf cf (markUsed s)
    pure (convertedSymbol cf s v)
  else pure (if isPending s then { s with value := Irept.nil } else s)

/-- The specification of `do_not_typechecked`: the symbols of the table it leaves,
in iteration order. -/
def doNotTypecheckedSpec : Except Failure (Option (List Symbolt)) :=
  match worklistClosure cf t0 with
  | none => pure none
  | some closure => some <$> t0.symbols.mapM (specSymbol cf closure)

/-! ### What the worklist computes -/

/-- What every state of the worklist keeps: the converted and queued names are
distinct and in the closure, the pending bodies a converted name uses are converted
or queued, and so are the bodies marked used on entry. -/
structure WorklistInv (todo done : List String) : Prop where
  nodup : (done ++ todo).Nodup
  demanded : ∀ x ∈ done ++ todo, Demanded cf t0 x
  closed : ∀ x ∈ done, ∀ y, cf.uses x y = true → pendingIn t0 y = true → y ∈ done ++ todo
  seeds : ∀ x, liveIn t0 x = true → x ∈ done ++ todo

theorem mem_names_of_pendingIn {x : String} (h : pendingIn t0 x = true) : x ∈ t0.names := by
  obtain ⟨s, hs, -⟩ := exists_of_pendingIn h
  exact t0.mem_names_of_lookup hs

theorem mem_newlyUsed {x y : String} {seen : List String} :
    y ∈ newlyUsed cf t0 x seen ↔ cf.uses x y = true ∧ pendingIn t0 y = true ∧ y ∉ seen := by
  simp only [newlyUsed, List.mem_filter, Bool.and_eq_true, decide_eq_true_eq, and_assoc]
  exact ⟨fun h => h.2, fun h => ⟨mem_names_of_pendingIn t0 h.2.1, h⟩⟩

theorem worklistInv_init : WorklistInv cf t0 (t0.names.filter (liveIn t0)) [] where
  nodup := by simpa using t0.nodup.filter _
  demanded x hx := .used (List.mem_filter.1 (by simpa using hx)).2
  closed x hx := absurd hx (List.not_mem_nil x)
  seeds x hx := by
    have hp : pendingIn t0 x = true := by rw [liveIn_eq, Bool.and_eq_true] at hx; exact hx.1
    simpa [hx] using mem_names_of_pendingIn t0 hp

/-- One step keeps the invariant: the names it queues are used by a name of the
closure, pending, and new. -/
theorem WorklistInv.step {x : String} {todo done : List String}
    (hinv : WorklistInv cf t0 (x :: todo) done) :
    WorklistInv cf t0 (todo ++ newlyUsed cf t0 x (done ++ x :: todo)) (done ++ [x]) := by
  have hmem : ∀ y, y ∈ done ++ [x] ++ (todo ++ newlyUsed cf t0 x (done ++ x :: todo)) ↔
      y ∈ done ++ x :: todo ∨ y ∈ newlyUsed cf t0 x (done ++ x :: todo) := by
    intro y; simp [or_assoc]
  have hx : Demanded cf t0 x := hinv.demanded x (by simp)
  constructor
  case nodup =>
    rw [show done ++ [x] ++ (todo ++ newlyUsed cf t0 x (done ++ x :: todo)) =
      done ++ x :: todo ++ newlyUsed cf t0 x (done ++ x :: todo) by simp, List.nodup_append]
    exact ⟨hinv.nodup, t0.nodup.filter _, fun y h1 h2 => ((mem_newlyUsed cf t0).1 h2).2.2 h1⟩
  case demanded =>
    intro y hy
    rcases (hmem y).1 hy with hy | hy
    · exact hinv.demanded y hy
    · obtain ⟨huse, hp, -⟩ := (mem_newlyUsed cf t0).1 hy
      exact .uses hx huse hp
  case closed =>
    intro z hz y huse hp
    rw [hmem]
    rcases List.mem_append.1 hz with hz | hz
    · exact .inl (hinv.closed z hz y huse hp)
    · obtain rfl := List.mem_singleton.1 hz
      by_cases hy : y ∈ done ++ z :: todo
      · exact .inl hy
      · exact .inr ((mem_newlyUsed cf t0).2 ⟨huse, hp, hy⟩)
  case seeds => exact fun y hy => (hmem y).2 (.inl (hinv.seeds y hy))

/-- With nothing queued, what is converted is the whole closure. -/
theorem WorklistInv.complete {done : List String} (hinv : WorklistInv cf t0 [] done)
    {x : String} (h : Demanded cf t0 x) : x ∈ done := by
  induction h with
  | used hl => simpa using hinv.seeds _ hl
  | uses _ huse hp ih => simpa using hinv.closed _ ih _ huse hp

theorem length_le_pendingCount {l : List String} (hnd : l.Nodup)
    (hd : ∀ x ∈ l, Demanded cf t0 x) : l.length ≤ pendingCount t0 := by
  simpa [pendingCount] using
    (List.subperm_of_subset hnd fun x hx => mem_pending_names t0 (hd x hx).pendingIn).length_le

/-- Each step converts a new name of the closure, so one more step than there are
pending bodies finds the worklist empty. -/
theorem worklist_eq_some : ∀ (fuel : Nat) (todo done : List String),
    WorklistInv cf t0 todo done → pendingCount t0 < done.length + fuel →
    ∃ closure, worklist cf t0 fuel todo done = some closure ∧ closure.Nodup ∧
      ∀ x, x ∈ closure ↔ Demanded cf t0 x
  | 0, _, done, hinv, hlt => by
    have := length_le_pendingCount cf t0 (List.nodup_append.1 hinv.nodup).1
      fun x hx => hinv.demanded x (List.mem_append_left _ hx)
    omega
  | _ + 1, [], done, hinv, _ =>
    ⟨done, rfl, by simpa using hinv.nodup,
      fun x => ⟨fun h => hinv.demanded x (by simpa using h), hinv.complete cf t0⟩⟩
  | fuel + 1, _ :: _, done, hinv, hlt =>
    worklist_eq_some fuel _ _ hinv.step (by simp only [List.length_append, List.length_singleton]; omega)

/-- The worklist returns, with each name of the closure once. -/
theorem worklistClosure_eq_some :
    ∃ closure, worklistClosure cf t0 = some closure ∧ closure.Nodup ∧
      ∀ x, x ∈ closure ↔ Demanded cf t0 x :=
  worklist_eq_some cf t0 _ _ _ (worklistInv_init cf t0) (by simp)

/-- `f` uses `g`, so the worklist converts `f`, then `g`. -/
example : worklistClosure fUsesG gThenF = some ["f", "g"] := rfl

/-! ### Refinement -/

theorem doNotTypecheckedSpec_eq {closure : List String}
    (hc : worklistClosure cf t0 = some closure) :
    doNotTypecheckedSpec cf t0 = some <$> t0.symbols.mapM (specSymbol cf closure) := by
  rw [doNotTypecheckedSpec, hc]

/-- When the loop returns, the specification rewrites each symbol on entry as the
table the loop leaves has it. -/
theorem specSymbol_eq_lookup {closure : List String}
    (hmem : ∀ x, x ∈ closure ↔ Demanded cf t0 x) {st : NotTypecheckedState}
    (h : doNotTypechecked cf t0 = .ok (some st)) {s : Symbolt} (hs : s ∈ t0.symbols) :
    specSymbol cf closure s = .ok ((st.table.lookup s.name).getD s) := by
  have hl := (doNotTypechecked_lookup cf t0 h s.name).2 s ((t0.lookup_eq_some_iff).2 ⟨hs, rfl⟩)
  by_cases hd : Demanded cf t0 s.name
  · obtain ⟨v, hv, e⟩ := hl.1 hd
    simp [specSymbol, (hmem _).2 hd, hv, e]
  · simp [specSymbol, mt (hmem _).1 hd, hl.2 hd]

/-- A symbol of the closure without a body stops the loop. -/
theorem doNotTypechecked_eq_error (hb : ¬HasBodies cf t0) :
    ∃ e, doNotTypechecked cf t0 = .error e :=
  match h : doNotTypechecked cf t0 with
  | .error e => ⟨e, rfl⟩
  | .ok none => absurd h (doNotTypechecked_ne_none cf t0)
  | .ok (some _) => absurd (hasBodies_of_ok cf t0 h) hb

/-- A symbol of the closure without a body stops the specification. -/
theorem doNotTypecheckedSpec_eq_error (hb : ¬HasBodies cf t0) :
    ∃ e, doNotTypecheckedSpec cf t0 = .error e := by
  obtain ⟨closure, hc, -, hmem⟩ := worklistClosure_eq_some cf t0
  simp only [HasBodies, not_forall, not_exists] at hb
  obtain ⟨x, s, hs, hd, hnb⟩ := hb
  rw [doNotTypecheckedSpec_eq cf t0 hc]
  cases hm : t0.symbols.mapM (specSymbol cf closure) with
  | error e => exact ⟨e, rfl⟩
  | ok l =>
    obtain ⟨s', hs'⟩ := exists_of_mapM_eq_ok hm s ((t0.lookup_eq_some_iff).1 hs).1
    obtain rfl := t0.name_of_lookup hs
    rw [specSymbol, if_pos ((hmem _).2 hd)] at hs'
    obtain ⟨v, hv, -⟩ := bind_eq_ok hs'
    exact absurd hv (hnb v)

/-- On every table and every `uses` relation the loop of `do_not_typechecked`
refines the worklist: either both return, with the same symbols in the same order,
or both stop on a failed invariant. -/
theorem doNotTypechecked_refines_worklist :
    (∃ st, doNotTypechecked cf t0 = .ok (some st) ∧
        doNotTypecheckedSpec cf t0 = .ok (some st.table.symbols)) ∨
      ((∃ e, doNotTypechecked cf t0 = .error e) ∧ ∃ e, doNotTypecheckedSpec cf t0 = .error e) := by
  by_cases hb : HasBodies cf t0
  case neg => exact .inr ⟨doNotTypechecked_eq_error cf t0 hb, doNotTypecheckedSpec_eq_error cf t0 hb⟩
  case pos =>
    obtain ⟨st, h⟩ := doNotTypechecked_ok cf t0 hb
    obtain ⟨closure, hc, -, hmem⟩ := worklistClosure_eq_some cf t0
    have hnames : st.table.names = t0.names := by
      obtain ⟨st1, hinv, -, rfl⟩ := doNotTypechecked_eq_ok_some cf t0 h
      simp [nilPending, hinv.names]
    refine .inl ⟨st, h, ?_⟩
    rw [doNotTypecheckedSpec_eq cf t0 hc,
      mapM_eq_ok_map fun s hs => specSymbol_eq_lookup cf t0 hmem h hs,
      ← SymbolTablet.symbols_eq_map_lookup hnames]
    rfl

/-! ### The order of conversions

The loop converts a symbol only when the iterator finds its body pending and marked
used, and a mark is set on entry or by a conversion. So the log of conversions is
built in an order in which each name was marked used on entry or is used by a name
converted before it. -/

/-- The names are converted in an order in which each was marked used on entry or
is used by a name converted before it. -/
inductive UseOrdered : List String → Prop
  | nil : UseOrdered []
  | snoc {done : List String} {x : String} : UseOrdered done →
      (liveIn t0 x = true ∨ ∃ y ∈ done, cf.uses y x = true) → UseOrdered (done ++ [x])

theorem UseOrdered.of_eq_append {l : List String} (ho : UseOrdered cf t0 l) :
    ∀ l₁ x l₂, l = l₁ ++ x :: l₂ → liveIn t0 x = true ∨ ∃ y ∈ l₁, cf.uses y x = true := by
  induction ho with
  | nil => intro l₁ x l₂ h; simp at h
  | @snoc done z _ hz ih =>
    intro l₁ x l₂ h
    rcases List.eq_nil_or_concat l₂ with rfl | ⟨l₂, w, rfl⟩
    · obtain ⟨rfl, hzx⟩ := List.append_inj' h rfl
      obtain rfl := List.singleton_inj.1 hzx
      exact hz
    · rw [List.concat_eq_append, ← List.cons_append, ← List.append_assoc] at h
      exact ih l₁ x l₂ (List.append_inj' h rfl).1

/-- An iteration that converts converts a live symbol: its mark was set on entry or
by a conversion before. -/
theorem UseOrdered.visit {name : String} {acc acc' : NotTypecheckedState × Bool}
    (h : visit cf name acc = .ok acc') (hinv : LoopInvariant cf t0 acc.1)
    (ho : UseOrdered cf t0 acc.1.converted) : UseOrdered cf t0 acc'.1.converted := by
  rcases visit_eq_ok cf h with ⟨rfl, -⟩ | ⟨s, v, hl, hlive, -, rfl⟩
  · exact ho
  · have hlive' : liveIn acc.1.table s.name = true := by
      simp [liveIn, acc.1.table.name_of_lookup hl, hl, hlive]
    rw [liveIn_eq, Bool.and_eq_true] at hlive'
    have hp0 := ((hinv.pending _).1 hlive'.1).1
    refine .snoc ho ?_
    rcases (hinv.used _ hlive'.1).1 hlive'.2 with hu | hy
    · exact .inl (by rw [liveIn_eq, hp0, hu]; rfl)
    · exact .inr hy

theorem UseOrdered.visitAll : ∀ {names : List String} {acc acc' : NotTypecheckedState × Bool},
    visitAll cf names acc = .ok acc' → LoopInvariant cf t0 acc.1 →
      UseOrdered cf t0 acc.1.converted → UseOrdered cf t0 acc'.1.converted
  | [], _, _, h, _, ho => by cases h; exact ho
  | _ :: _, _, _, h, hinv, ho => by
    obtain ⟨acc1, h1, h2⟩ := bind_eq_ok h
    exact UseOrdered.visitAll h2 (hinv.visit cf t0 h1) (ho.visit cf t0 h1 hinv)

theorem UseOrdered.passReach {st st' : NotTypecheckedState} (h : PassReach cf st st')
    (hinv : LoopInvariant cf t0 st) (ho : UseOrdered cf t0 st.converted) :
    UseOrdered cf t0 st'.converted := by
  induction h with
  | refl => exact ho
  | tail hr hp ih => exact ih.visitAll cf t0 hp (hinv.passReach cf t0 hr)

/-- `do_not_typechecked` never converts a body before it is asked for: each name it
converts was marked used on entry or is used by a name it converted before. -/
theorem doNotTypechecked_converts_after_use {st : NotTypecheckedState}
    (h : doNotTypechecked cf t0 = .ok (some st)) {l₁ l₂ : List String} {x : String}
    (hx : st.converted = l₁ ++ x :: l₂) :
    liveIn t0 x = true ∨ ∃ y ∈ l₁, cf.uses y x = true := by
  obtain ⟨r, hr, h⟩ := bind_eq_ok h
  obtain ⟨⟨st1, k⟩, rfl, rfl⟩ := Option.map_eq_some'.1 (Except.ok.inj h)
  obtain ⟨hreach, -, -⟩ := passes_some cf hr
  exact (UseOrdered.nil.passReach cf t0 hreach (loopInvariant_init cf t0)).of_eq_append cf t0 _ _ _ hx

theorem doNotTypechecked_converts_after_use_gThenF :
    ∃ st, doNotTypechecked fUsesG gThenF = .ok (some st) ∧ st.converted = ["f"] ++ "g" :: [] ∧
      (liveIn gThenF "g" = true ∨ ∃ y ∈ ["f"], fUsesG.uses y "g" = true) :=
  ⟨_, rfl, rfl, doNotTypechecked_converts_after_use fUsesG gThenF rfl rfl⟩

end Cbmc.Cpp
