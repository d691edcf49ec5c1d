import LayerScript.Machine.Basic

/-!
# The console and its observers

A write goes to the outlet first and then to the observers, in the order in which they registered.
While it is notified an observer may change the state of the host, register another observer, or
write to the same console. The first failure ends the write.
-/

namespace LayerScript

/-- What an observer does about an event, step by step. -/
inductive Reaction (η : Type) where
  | accept
  | refuse (why : SinkError)
  | update (f : η → η) (next : Reaction η)
  | look (next : η → Reaction η)
  | register (observer : Store → Level → List Ref → Reaction η) (next : Reaction η)
  | emit (level : Level) (payload : List Ref) (next : Except SinkError Unit → Reaction η)

abbrev Observer (η : Type) := Store → Level → List Ref → Reaction η

/-- The place that receives each event before the observers do. -/
abbrev Outlet (η : Type) := Store → Level → List Ref → η → Except SinkError Unit × η

structure Console (η : Type) where
  outlet : Outlet η
  observers : List (Observer η)
  host : η

namespace Console

variable {η : Type}

def register (c : Console η) (observer : Observer η) : Console η :=
  { c with observers := c.observers ++ [observer] }

def updateHost (c : Console η) (f : η → η) : Console η :=
  { c with host := f c.host }

/-- A write that may not end: its result and the console after it. -/
abbrev Write (η : Type) := Level → List Ref → Console η → Option (Except SinkError Unit × Console η)

/-- Carries out a reaction; `write` makes the writes in it. -/
def react (write : Write η) : Reaction η → Console η → Option (Except SinkError Unit × Console η)
  | .accept, c => some (.ok (), c)
  | .refuse why, c => some (.error why, c)
  | .update f next, c => react write next (c.updateHost f)
  | .look next, c => react write (next c.host) c
  | .register observer next, c => react write next (c.register observer)
  | .emit level payload next, c =>
    match write level payload c with
    | some (result, c) => react write (next result) c
    | none => none

/-- Notifies observers, from first to last, until one fails. -/
def notify (write : Write η) (store : Store) (level : Level) (payload : List Ref) :
    List (Observer η) → Console η → Option (Except SinkError Unit × Console η)
  | [], c => some (.ok (), c)
  | observer :: observers, c =>
    match react write (observer store level payload) c with
    | some (.ok (), c) => notify write store level payload observers c
    | stopped => stopped

/-- Writes an event. The observers notified are those registered when the outlet has taken it.
Writes may be nested fewer than `depth` levels deep. -/
def write (store : Store) (depth : Nat) : Write η :=
  fun level payload c =>
    match depth with
    | 0 => none
    | depth + 1 =>
      match c.outlet store level payload c.host with
      | (.error why, host) => some (.error why, { c with host := host })
      | (.ok (), host) =>
        notify (write store depth) store level payload c.observers { c with host := host }
termination_by structural depth

end Console

/-- The console as the sink of a running script. -/
def Sink.ofConsole (η : Type) (depth : Nat) : Sink (Console η) :=
  ⟨fun store level payload c => c.write store depth level payload⟩

end LayerScript
