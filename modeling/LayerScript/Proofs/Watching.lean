import LayerScript.Console.Dispatch
import LayerScript.Proofs.Recording

/-!
# Watched consoles

A console can be watched while it works. Its outlet and its observers then note what they receive
and what they answer, and whoever writes to it notes what he sends and what comes back. Apart from
its notes a watched console does what it did before.
-/

namespace LayerScript

variable {η : Type}

namespace Console

abbrev Answer := Except SinkError Unit

/-- A note. Observers are known by their place in the registry. -/
inductive Mark where
  | sent (event : ConsoleWrite)
  | taken (event : ConsoleWrite) (answer : Answer)
  | called (observer : Nat) (event : ConsoleWrite)
  | answered (answer : Answer)
  | registered (observer : Nat)
  | returned (answer : Answer)

def Mark.sent? : Mark → Option ConsoleWrite
  | .sent event => some event
  | _ => none

def Mark.taken? : Mark → Option ConsoleWrite
  | .taken event _ => some event
  | _ => none

/-- The notes so far, and the place that the next observer will have. -/
structure Watch where
  next : Nat
  marks : List Mark

def noting (mark : Mark) (host : η × Watch) : η × Watch :=
  (host.1, { host.2 with marks := host.2.marks ++ [mark] })

def enlisting (host : η × Watch) : η × Watch :=
  (host.1, ⟨host.2.next + 1, host.2.marks ++ [.registered host.2.next]⟩)

end Console

open Console

/-- The reaction with its notes. The values of the script are as in `store`. -/
def Reaction.watched (store : Store) : Reaction η → Reaction (η × Watch)
  | .accept => .update (noting (.answered (.ok ()))) .accept
  | .refuse why => .update (noting (.answered (.error why))) (.refuse why)
  | .update f next => .update (fun host => (f host.1, host.2)) (next.watched store)
  | .look next => .look fun host => (next host.1).watched store
  | .register observer next =>
    .look fun host =>
      .register
        (fun s level payload =>
          .update (noting (.called host.2.next ⟨s, level, payload⟩))
            ((observer s level payload).watched s))
        (.update enlisting (next.watched store))
  | .emit level payload next =>
    .update (noting (.sent ⟨store, level, payload⟩))
      (.emit level payload fun answer =>
        .update (noting (.returned answer)) ((next answer).watched store))

def Observer.watched (place : Nat) (observer : Observer η) : Observer (η × Watch) :=
  fun store level payload =>
    .update (noting (.called place ⟨store, level, payload⟩))
      ((observer store level payload).watched store)

def Outlet.watched (outlet : Outlet η) : Outlet (η × Watch) :=
  fun store level payload host =>
    let (answer, state) := outlet store level payload host.1
    (answer, noting (.taken ⟨store, level, payload⟩ answer) (state, host.2))

namespace Console

/-- The watched console after these notes. -/
def watched (c : Console η) (marks : List Mark) : Console (η × Watch) :=
  ⟨Outlet.watched c.outlet, c.observers.mapIdx Observer.watched,
    (c.host, ⟨c.observers.length, marks⟩)⟩

/-- What a host does, turn by turn. The script may change its values between two turns. -/
def serve (depth : Nat) : List (Store × Reaction η) → Console η → Option (Console η)
  | [], c => some c
  | (store, turn) :: turns, c =>
    match react (write store depth) turn c with
    | some (_, c) => serve depth turns c
    | none => none

mutual

/-- What a host or an observer does until it answers. -/
inductive Trace where
  | answered (answer : Answer)
  | registered (observer : Nat) (next : Trace)
  | wrote (event : ConsoleWrite) (taken : Answer) (calls : Calls) (answer : Answer) (next : Trace)

/-- The observers called for one event, and what each of them does. -/
inductive Calls where
  | done
  | called (observer : Nat) (trace : Trace) (more : Calls)

end

mutual

def Trace.marks : Trace → List Mark
  | .answered answer => [.answered answer]
  | .registered observer next => .registered observer :: next.marks
  | .wrote event taken calls answer next =>
    .sent event :: .taken event taken :: (calls.marks event ++ .returned answer :: next.marks)

def Calls.marks (event : ConsoleWrite) : Calls → List Mark
  | .done => []
  | .called observer trace more => .called observer event :: (trace.marks ++ more.marks event)

end

mutual

def Trace.enlisted : Trace → List Nat
  | .answered _ => []
  | .registered observer next => observer :: next.enlisted
  | .wrote _ _ calls _ next => calls.enlisted ++ next.enlisted

def Calls.enlisted : Calls → List Nat
  | .done => []
  | .called _ trace more => trace.enlisted ++ more.enlisted

end

def Trace.answer : Trace → Answer
  | .answered answer => answer
  | .registered _ next => next.answer
  | .wrote _ _ _ _ next => next.answer

def Calls.answers : Calls → List (Nat × Answer)
  | .done => []
  | .called observer trace more => (observer, trace.answer) :: more.answers

/-- One event on its way through the console. -/
structure Dispatch where
  event : ConsoleWrite
  /-- The observers registered when the outlet has answered. -/
  registry : List Nat
  taken : Answer
  called : List (Nat × Answer)
  /-- The observers registered while others are called. -/
  late : List Nat
  answer : Answer

def Calls.dispatch (calls : Calls) (registry : List Nat) (event : ConsoleWrite)
    (taken answer : Answer) : Dispatch :=
  ⟨event, registry, taken, calls.answers, calls.enlisted, answer⟩

mutual

/-- All dispatches, the nested ones with them, when `registry` is registered at the start. -/
def Trace.dispatches (registry : List Nat) : Trace → List Dispatch
  | .answered _ => []
  | .registered observer next => next.dispatches (registry ++ [observer])
  | .wrote event taken calls answer next =>
    calls.dispatch registry event taken answer ::
      (calls.dispatches registry ++ next.dispatches (registry ++ calls.enlisted))

def Calls.dispatches (registry : List Nat) : Calls → List Dispatch
  | .done => []
  | .called _ trace more =>
    trace.dispatches registry ++ more.dispatches (registry ++ trace.enlisted)

end

end Console

end LayerScript
