import LayerScript.Proofs.Documents
import LayerScript.Proofs.Frames
import LayerScript.Proofs.Visiting

/-!
# Iterations work on snapshots

A `for` and the native functions that call a function for each element read the collection once,
when they begin. Their callbacks may do anything, also to that collection.
-/

namespace LayerScript

variable {σ : Type}

/-! ## What a `for` visits -/

namespace Store

/-- The items that iterating over a value presents, and the store with them. Characters and entries
are presented as new values. -/
inductive Presents (s : Store) (r : Ref) : List Ref → Store → Prop
  | array {items : Array Ref} (h : s.cell r = .array items) : Presents s r items.toList s
  | text {t : String} {items : List Ref} {s' : Store} (h : s.cell r = .text t) (grown : s.Grows s')
    (each : List.Forall₂ (fun c q => ¬ s.Has (.value q) ∧ s'.cell q = .text (String.singleton c))
      t.toList items) : Presents s r items s'
  | map {entries : Dict Ref} {items : List Ref} {s' : Store} (h : s.cell r = .map entries)
    (grown : s.Grows s')
    (each : List.Forall₂ (fun e q => ¬ s.Has (.value q) ∧
      ∃ key, s'.cell q = .array #[key, e.2] ∧ s'.cell key = .text e.1) entries.entries items) :
    Presents s r items s'

/-- New values are new, they are there, and they are what was asked for. -/
structure MadeFrom (s t : Store) (c : Cell) (q : Ref) : Prop where
  new : ¬ s.Has (.value q)
  has : t.Has (.value q)
  cell : t.cell q = c

theorem allocAll_made (s : Store) (cells : List Cell) : s.Grows (s.allocAll cells).2 ∧
    List.Forall₂ (s.MadeFrom (s.allocAll cells).2) cells (s.allocAll cells).1 := by
  induction cells generalizing s with
  | nil => exact ⟨.refl s, .nil⟩
  | cons c cells ih =>
    obtain ⟨grown, made⟩ := ih (s.alloc c).2
    have first := grows_alloc s c
    refine ⟨first.trans grown, .cons ?_ (made.imp fun c q h => ?_)⟩
    · exact ⟨not_has_alloc c, grown.has _ (has_alloc_self c), grown.cell_alloc⟩
    · exact ⟨fun had => h.new (first.has _ had), h.has, h.cell⟩

theorem MadeFrom.later {s t u : Store} {c : Cell} {q : Ref} (h : s.MadeFrom t c q)
    (grown : t.Grows u) : s.MadeFrom u c q :=
  ⟨h.new, grown.has q h.has, (grown.cell q h.has).trans h.cell⟩

/-- A new array of new values. -/
theorem newArray_made (s : Store) (cells : List Cell) :
    s.Grows (Plain.newArray cells s).2 ∧ ∃ items,
      s.MadeFrom (Plain.newArray cells s).2 (.array items) (Plain.newArray cells s).1 ∧
      List.Forall₂ (s.MadeFrom (Plain.newArray cells s).2) cells items.toList := by
  obtain ⟨grown, made⟩ := allocAll_made s cells
  refine ⟨grown.trans (grows_alloc _ _), _, ⟨fun had => ?_, has_alloc_self _, cell_alloc_self _⟩, ?_⟩
  · exact not_has_alloc _ (grown.has _ had)
  · rw [List.toList_toArray]
    exact made.imp fun c q h => h.later (grows_alloc _ _)

/-- Pairs of the keys and the values of entries, where the keys have been made before. -/
theorem forall₂_pairs {s t u : Store} (first : s.Grows t) (later : t.Grows u)
    {es : List (String × Ref)} {keys pairs : List Ref}
    (hk : List.Forall₂ (s.MadeFrom t) ((es.map Prod.fst).map .text) keys)
    (hp : List.Forall₂ (t.MadeFrom u)
      ((keys.zip (es.map Prod.snd)).map fun p => .array #[p.1, p.2]) pairs) :
    List.Forall₂ (fun e q => ¬ s.Has (.value q) ∧
      ∃ key, u.cell q = .array #[key, e.2] ∧ u.cell key = .text e.1) es pairs := by
  induction es generalizing keys pairs with
  | nil =>
    cases hk
    cases hp
    exact .nil
  | cons e es ih =>
    cases hk with
    | cons key keys =>
      cases hp with
      | cons pair pairs =>
        refine .cons ⟨fun had => pair.new (first.has _ had), _, pair.cell, ?_⟩ (ih keys pairs)
        rw [later.cell _ key.has, key.cell]

/-- Arrays, maps and strings can be iterated over. -/
theorem iterate_presents (s : Store) (r : Ref)
    (kind : (s.cell r).kind = .array ∨ (s.cell r).kind = .map ∨ (s.cell r).kind = .string) :
    ∃ present, s.iterate r = .ok present ∧ s.Presents r (present s).1 (present s).2 := by
  unfold iterate
  cases found : s.cell r with rw [found] at kind
  | array items => exact ⟨_, rfl, .array found⟩
  | text t =>
    obtain ⟨grown, made⟩ := s.allocAll_made (t.toList.map fun c => .text (String.singleton c))
    rw [List.forall₂_map_left_iff] at made
    exact ⟨_, rfl, .text found grown (made.imp fun c q h => ⟨h.new, h.cell⟩)⟩
  | map entries =>
    obtain ⟨first, keys⟩ := s.allocAll_made (entries.keys.map .text)
    obtain ⟨later, pairs⟩ := allocAll_made (s.allocAll (entries.keys.map .text)).2
      (((s.allocAll (entries.keys.map .text)).1.zip entries.values).map fun e => .array #[e.1, e.2])
    exact ⟨_, rfl, .map found (first.trans later) (forall₂_pairs first later keys pairs)⟩
  | _ => simp [Cell.kind] at kind

end Store

/-! ## What is done with each item -/

namespace Run

variable (call : Caller σ) (f : Ref)

/-- Calls a function with a number as its last argument. -/
def callNumbered (args : List Ref) (number : Nat) : Run σ Ref := do
  let i ← alloc (.int (Int64.ofNat number))
  call f none (args ++ [i])

/-- The result of a function for an item and its number. -/
def resultFor (earlier : List Ref) (item : Ref) : Run σ Ref :=
  callNumbered call f [item] earlier.length

/-- Whether the result of a function for an item and its number counts as true. -/
def verdictOn (earlier : List Bool) (item : Ref) : Run σ Bool := do
  truthy (← callNumbered call f [item] earlier.length)

/-- The total with an item added to it, whose number a function gets as well. -/
def totalWith (start : Ref) (earlier : List Ref) (item : Ref) : Run σ Ref :=
  callNumbered call f [earlier.getLastD start, item] earlier.length

/-- The body of a `for` with a name bound to an item. Each round has less fuel than the one before
it. -/
def round (fuel : Nat) (x : String) (body : List Stmt) (earlier : List Flow) (item : Ref) :
    Run σ Flow :=
  inNewScope do
    declare x item true
    block call (fuel - (earlier.length + 1)) body

/-- The items with a true verdict. -/
def accepted (items : List Ref) (verdicts : List Bool) : List Ref :=
  ((items.zip verdicts).filter (·.2)).map (·.1)

/-- How a `for` ends after its rounds. -/
def lastFlow (flows : List Flow) : Flow :=
  (flows.getLast?.bind Flow.afterRound).getD .next

/-! ## The loops visit the items -/

variable {call f} {item : Ref} {items : List Ref} {number : Nat} {m : Machine σ}

theorem bind_callNumbered {α : Type} (args : List Ref) (next : Ref → Run σ α) :
    (callNumbered call f args number m).bind next =
      (alloc (.int (Int64.ofNat number)) >>= fun i => call f none (args ++ [i]) >>= next) m := by
  rw [callNumbered, bind_eq, bind_eq, Outcome.bind_assoc]
  rfl

theorem bind_verdictOn {α : Type} (earlier : List Bool) (next : Bool → Run σ α) :
    (verdictOn call f earlier item m).bind next =
      (alloc (.int (Int64.ofNat earlier.length)) >>= fun i => call f none [item, i] >>= fun r =>
        truthy r >>= next) m := by
  rw [verdictOn, bind_eq, Outcome.bind_assoc]
  exact bind_callNumbered [item] fun r => truthy r >>= next

theorem mapItems_eq_visiting (earlier : List Ref) : mapItems call f earlier.length items m =
    visiting (resultFor call f) (fun _ => false) earlier items m := by
  induction items generalizing earlier m with
  | nil => rfl
  | cons item items ih =>
    rw [visiting_cons, mapItems]
    refine (bind_callNumbered [item] _).symm.trans (Outcome.bind_congr fun r m => ?_)
    change (mapItems call f (earlier.length + 1) items m).bind _ = (visiting _ _ _ items m).bind _
    rw [← ih (earlier ++ [r]), List.length_append, List.length_singleton]

theorem filterItems_eq_visiting (earlier : List Bool) :
    filterItems call f earlier.length items m =
      (visiting (verdictOn call f) (fun _ => false) earlier items m).bind fun verdicts =>
        pure (accepted items verdicts) := by
  induction items generalizing earlier m with
  | nil => rfl
  | cons item items ih =>
    rw [visiting_cons, Outcome.bind_assoc, filterItems]
    refine (bind_verdictOn earlier _).symm.trans (Outcome.bind_congr fun keep m => ?_)
    have next := ih (m := m) (earlier ++ [keep])
    rw [List.length_append, List.length_singleton] at next
    change (filterItems call f (earlier.length + 1) items m).bind _ =
      ((visiting _ _ _ items m).bind _).bind _
    rw [next, Outcome.bind_assoc, Outcome.bind_assoc]
    refine Outcome.bind_congr fun verdicts m => ?_
    cases keep <;> rfl

theorem reduceItems_eq_visiting {start : Ref} (earlier : List Ref) :
    reduceItems call f earlier.length (earlier.getLastD start) items m =
      (visiting (totalWith call f start) (fun _ => false) earlier items m).bind fun totals =>
        pure (totals.getLastD (earlier.getLastD start)) := by
  induction items generalizing earlier m with
  | nil => rfl
  | cons item items ih =>
    rw [visiting_cons, Outcome.bind_assoc, reduceItems]
    refine (bind_callNumbered [_, item] _).symm.trans (Outcome.bind_congr fun r m => ?_)
    have next := ih (m := m) (earlier ++ [r])
    rw [List.length_append, List.length_singleton, List.getLastD_concat] at next
    change reduceItems call f (earlier.length + 1) r items m =
      ((visiting _ _ _ items m).bind _).bind _
    rw [next, Outcome.bind_assoc]
    refine Outcome.bind_congr fun totals m => ?_
    exact congrArg (fun r => (pure r : Run σ Ref) m) (List.getLastD_cons ..).symm

theorem findItem_eq_visiting (earlier : List Bool) :
    findItem call f earlier.length items m =
      (visiting (verdictOn call f) id earlier items m).bind fun verdicts =>
        pure (accepted items verdicts).head? := by
  induction items generalizing earlier m with
  | nil => rfl
  | cons item items ih =>
    rw [visiting_cons, Outcome.bind_assoc, findItem]
    refine (bind_verdictOn earlier _).symm.trans (Outcome.bind_congr fun found m => ?_)
    cases found with
    | true => rfl
    | false =>
      have next := ih (m := m) (earlier ++ [false])
      rw [List.length_append, List.length_singleton] at next
      change findItem call f (earlier.length + 1) items m =
        ((visiting _ _ _ items m).bind _).bind _
      rw [next, Outcome.bind_assoc]
      rfl

theorem lastFlow_cons_of_none {flow : Flow} (h : flow.afterRound = none) (flows : List Flow) :
    lastFlow (flow :: flows) = lastFlow flows := by
  rw [lastFlow, lastFlow, List.getLast?_cons]
  cases flows.getLast? with
  | none => rw [Option.getD_none, Option.bind_some, h, Option.bind_none]
  | some last => rfl

section

variable {fuel left : Nat} {x : String} {body : List Stmt} (earlier : List Flow)

theorem forLoop_cons (h : fuel - (earlier.length + 1) = left) :
    forLoop call (left + 1) x body (item :: items) m =
      (round call fuel x body earlier item m).bind fun flow =>
        flow.afterRound.elim (forLoop call left x body items) pure := by
  rw [forLoop, round, h, bind_eq]
  refine Outcome.bind_congr fun flow m => ?_
  cases flow.afterRound <;> rfl

/-- The last round that there is fuel for does not end, so that no round is left out. -/
theorem round_exhausted (h : fuel - (earlier.length + 1) = 0) :
    round call fuel x body earlier item m = .exhausted := by
  rw [round, h]
  rfl

theorem forLoop_eq_visiting (room : fuel - earlier.length = left + 1) :
    forLoop call (left + 1) x body items m =
      (visiting (round call fuel x body) (·.afterRound.isSome) earlier items m).bind fun flows =>
        pure (lastFlow flows) := by
  induction items generalizing earlier left m with
  | nil =>
    rw [forLoop]
    rfl
  | cons item items ih =>
    have rest : fuel - (earlier.length + 1) = left := by omega
    rw [visiting_cons, Outcome.bind_assoc, forLoop_cons earlier rest]
    cases left with
    | zero =>
      rw [round_exhausted earlier rest]
      rfl
    | succ left =>
      refine Outcome.bind_congr fun flow m => ?_
      cases after : flow.afterRound with
      | none =>
        have next := ih (m := m) (earlier ++ [flow]) (by simpa using rest)
        change forLoop call (left + 1) x body items m = ((visiting _ _ _ items m).bind _).bind _
        rw [next, Outcome.bind_assoc]
        refine Outcome.bind_congr fun flows m => ?_
        exact congrArg (fun flow => (pure flow : Run σ Flow) m)
          (lastFlow_cons_of_none after flows).symm
      | some ended =>
        exact congrArg (fun flow => (pure flow : Run σ Flow) m) (by simp [lastFlow, after])

end

/-! ## Iterations of a program -/

variable {out : Sink σ} {fuel : Nat} {a g : Ref} {elements : Array Ref} {receiver : Option Ref}

theorem itemsFor_eq (array : m.store.cell a = .array elements) (function : String) :
    itemsFor function a m = .done elements.toList m := by
  rw [itemsFor, check, Store.itemsOf, array]
  rfl

theorem map_iterates (native : m.store.cell g = .native (.traversal .map))
    (array : m.store.cell a = .array elements) : ∃ vs o,
      Iterates (resultFor call f) (fun _ => false) elements.toList m vs o ∧
      activate out call fuel g receiver [a, f] m = o.bind fun rs => alloc (.array rs.toArray) := by
  obtain ⟨vs, iterates⟩ := exists_iterates (resultFor call f) (fun _ => false) elements.toList m
  refine ⟨vs, _, iterates, ?_⟩
  rw [activate_traversal native, traverse, bind_eq, itemsFor_eq array, ← mapItems_eq_visiting]
  rfl

theorem filter_iterates (native : m.store.cell g = .native (.traversal .filter))
    (array : m.store.cell a = .array elements) : ∃ vs o,
      Iterates (verdictOn call f) (fun _ => false) elements.toList m vs o ∧
      activate out call fuel g receiver [a, f] m = o.bind fun verdicts =>
        alloc (.array (accepted elements.toList verdicts).toArray) := by
  obtain ⟨vs, iterates⟩ := exists_iterates (verdictOn call f) (fun _ => false) elements.toList m
  refine ⟨vs, _, iterates, ?_⟩
  rw [activate_traversal native, traverse, bind_eq, itemsFor_eq array]
  have walked : filterItems call f 0 elements.toList m = _ := filterItems_eq_visiting []
  change (filterItems call f 0 elements.toList m).bind _ = _
  rw [walked, Outcome.bind_assoc]
  rfl

theorem reduce_iterates {start : Ref} (native : m.store.cell g = .native (.traversal .reduce))
    (array : m.store.cell a = .array elements) : ∃ vs o,
      Iterates (totalWith call f start) (fun _ => false) elements.toList m vs o ∧
      activate out call fuel g receiver [a, f, start] m = o.bind fun totals =>
        pure (totals.getLastD start) := by
  obtain ⟨vs, iterates⟩ :=
    exists_iterates (totalWith call f start) (fun _ => false) elements.toList m
  refine ⟨vs, _, iterates, ?_⟩
  rw [activate_traversal native, traverse, bind_eq, itemsFor_eq array]
  exact reduceItems_eq_visiting []

theorem find_iterates (native : m.store.cell g = .native (.traversal .find))
    (array : m.store.cell a = .array elements) : ∃ vs o,
      Iterates (verdictOn call f) id elements.toList m vs o ∧
      activate out call fuel g receiver [a, f] m = o.bind fun verdicts =>
        (accepted elements.toList verdicts).head?.elim (alloc .none) pure := by
  obtain ⟨vs, iterates⟩ := exists_iterates (verdictOn call f) id elements.toList m
  refine ⟨vs, _, iterates, ?_⟩
  rw [activate_traversal native, traverse, bind_eq, itemsFor_eq array]
  have walked : findItem call f 0 elements.toList m = _ := findItem_eq_visiting []
  change (findItem call f 0 elements.toList m).bind _ = _
  rw [walked, Outcome.bind_assoc]
  refine Outcome.bind_congr fun verdicts m => ?_
  cases (accepted elements.toList verdicts).head? <;> rfl

theorem for_iterates {m' : Machine σ} {r : Ref} {span : Span} {x : String} {iterable : Expr}
    {body : List Stmt} (evaluated : evaluate call fuel iterable m = .done r m')
    (kind : (m'.store.cell r).kind = .array ∨ (m'.store.cell r).kind = .map ∨
      (m'.store.cell r).kind = .string) : ∃ items store vs o,
      m'.store.Presents r items store ∧
      Iterates (round call fuel x body) (·.afterRound.isSome) items { m' with store := store }
        vs o ∧
      execute call (fuel + 1) (.forLoop span x iterable body) m = o.bind fun flows =>
        pure (lastFlow flows) := by
  obtain ⟨present, possible, presents⟩ := m'.store.iterate_presents r kind
  obtain ⟨vs, iterates⟩ := exists_iterates (round call fuel x body) (·.afterRound.isSome)
    (present m'.store).1 { m' with store := (present m'.store).2 }
  refine ⟨_, _, vs, _, presents, iterates, ?_⟩
  rw [execute, bind_eq, evaluated]
  cases fuel with
  | zero => cases evaluated
  | succ fuel =>
    rw [← forLoop_eq_visiting [] rfl]
    change (attempt _ (·.iterate r) m').bind _ = _
    rw [attempt, Run.bind, check, possible]
    rfl

end Run

/-- Iterations visit what a collection contains when they begin. The visits may do anything: `call`,
which makes the calls, is arbitrary. Apart from `for`, the collections are arrays; the answers of
the visits tell what comes of the iteration. -/
theorem iterations_on_snapshots (out : Sink σ) (call : Caller σ) (fuel : Nat) (m : Machine σ) :
    (∀ a elements f g receiver, m.store.cell a = .array elements →
      (m.store.cell g = .native (.traversal .map) → ∃ vs o,
        Iterates (Run.resultFor call f) (fun _ => false) elements.toList m vs o ∧
        (∀ results m', o = .done results m' → results.length = elements.size) ∧
        Run.activate out call fuel g receiver [a, f] m =
          o.bind fun results => Run.alloc (.array results.toArray)) ∧
      (m.store.cell g = .native (.traversal .filter) → ∃ vs o,
        Iterates (Run.verdictOn call f) (fun _ => false) elements.toList m vs o ∧
        Run.activate out call fuel g receiver [a, f] m = o.bind fun verdicts =>
          Run.alloc (.array (Run.accepted elements.toList verdicts).toArray)) ∧
      (m.store.cell g = .native (.traversal .reduce) → ∀ start, ∃ vs o,
        Iterates (Run.totalWith call f start) (fun _ => false) elements.toList m vs o ∧
        Run.activate out call fuel g receiver [a, f, start] m =
          o.bind fun totals => pure (totals.getLastD start)) ∧
      (m.store.cell g = .native (.traversal .find) → ∃ vs o,
        Iterates (Run.verdictOn call f) id elements.toList m vs o ∧
        Run.activate out call fuel g receiver [a, f] m = o.bind fun verdicts =>
          (Run.accepted elements.toList verdicts).head?.elim (Run.alloc .none) pure)) ∧
    ∀ span x iterable body r m', Run.evaluate call fuel iterable m = .done r m' →
      ((m'.store.cell r).kind = .array ∨ (m'.store.cell r).kind = .map ∨
        (m'.store.cell r).kind = .string) → ∃ items store vs o,
      m'.store.Presents r items store ∧
      Iterates (Run.round call fuel x body) (·.afterRound.isSome) items
        { m' with store := store } vs o ∧
      Run.execute call (fuel + 1) (.forLoop span x iterable body) m =
        o.bind fun flows => pure (Run.lastFlow flows) := by
  refine ⟨fun a elements f g receiver array => ⟨fun native => ?_, fun native => ?_,
    fun native start => ?_, fun native => ?_⟩, fun span x iterable body r m' evaluated kind => ?_⟩
  · obtain ⟨vs, o, iterates, eq⟩ := Run.map_iterates native array
    exact ⟨vs, o, iterates, fun results m' done => (iterates.complete (by simp) done).2, eq⟩
  · exact Run.filter_iterates native array
  · exact Run.reduce_iterates native array
  · exact Run.find_iterates native array
  · exact Run.for_iterates evaluated kind

/-- Each call adds an element to the first cell and returns its first argument. -/
def pushing : Caller Unit := fun _ _ args m =>
  .done (args.headD (.cell 0)) { m with store := m.store.modifyArray (.cell 0) (·.push (.cell 0)) }

/-- An array of two numbers, and the function that maps over it. -/
def growing : Machine Unit where
  store := ⟨#[.array #[.scalar 0 (.int 1), .scalar 1 (.int 2)], .native (.traversal .map)], #[], 2⟩
  scope := ⟨0⟩
  globals := ⟨0⟩
  receiver := .cell 0
  strict := false
  depth := 0
  callSite := none
  sink := ()

theorem iterations_on_snapshots_growing :
    (∃ vs o, Iterates (Run.resultFor pushing (.cell 1)) (fun _ => false)
        [.scalar 0 (.int 1), .scalar 1 (.int 2)] growing vs o ∧
      ∃ r m', o.bind (fun results => Run.alloc (.array results.toArray)) = .done r m' ∧
        m'.store.cell r = .array #[.scalar 0 (.int 1), .scalar 1 (.int 2)] ∧
        m'.store.cell (.cell 0) =
          .array #[.scalar 0 (.int 1), .scalar 1 (.int 2), .cell 0, .cell 0]) ∧
    ∃ items store vs o, Iterates (Run.round pushing 4 "x" []) (·.afterRound.isSome) items
        { growing with store := store } vs o ∧
      Run.execute pushing 5 (.forLoop default "x" (.array default [.literal default (.int 7)]) [])
        growing = o.bind fun flows => pure (Run.lastFlow flows) := by
  let out : Sink Unit := ⟨fun _ _ _ k => some (.ok (), k)⟩
  constructor
  · obtain ⟨vs, o, iterates, -, eq⟩ :=
      ((iterations_on_snapshots out pushing 0 growing).1 (.cell 0) _ (.cell 1) (.cell 1) none
        rfl).1 rfl
    exact ⟨vs, o, iterates, _, _, eq.symm, rfl, rfl⟩
  · obtain ⟨items, store, vs, o, -, iterates, eq⟩ :=
      (iterations_on_snapshots out pushing 4 growing).2 default "x"
        (.array default [.literal default (.int 7)]) [] _ _ rfl (.inl rfl)
    exact ⟨items, store, vs, o, iterates, eq⟩

end LayerScript
