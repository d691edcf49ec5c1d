import LayerScript.CommandLine.Arguments
import LayerScript.Session.Prompt
import LayerScript.Text.Typing

/-!
# The program

What the program does with its arguments, over any monad that gives it files, input, output and
the time.
-/

namespace LayerScript

/-- The time in the two forms that the program shows. -/
structure Clock where
  panel : String
  journal : String
deriving DecidableEq, Repr, Inhabited

/-- What surrounds the program. -/
structure World (m : Type → Type) where
  read : String → m (Except FileError String)
  save : String → String → m (Except FileError Unit)
  print : String → m Unit
  printError : String → m Unit
  /-- The next line of the input. -/
  readLine : m (Option String)
  clock : m Clock

/-- Text for the standard output or for the standard error. -/
inductive Output where
  | out (text : String)
  | err (text : String)
deriving DecidableEq, Repr

/-- The console panel, the text not yet printed, and what to print of the journal. -/
structure Desk where
  panel : Panel
  output : Array Output
  clock : String
  verbose : Bool
  consoleTracing : Bool
deriving DecidableEq, Repr

namespace Desk

def emit (d : Desk) (o : Output) : Desk :=
  { d with output := d.output.push o }

/-- Events print their text, warnings and errors to the standard error. -/
def outlet : Outlet Desk :=
  fun s level payload d =>
    let line := s.displayAll payload ++ "\n"
    match level with
    | .log | .info => (.ok (), d.emit (.out line))
    | .warn | .error => (.ok (), d.emit (.err line))

/-- Whether a journal entry is printed. -/
def shows (d : Desk) (e : JournalEntry) : Bool :=
  match e.severity with
  | .debug => d.verbose
  | .info => d.verbose || (d.consoleTracing && e.target.startsWith JournalEntry.consoleTarget)
  | .warn | .error => true

def journal : Journal Desk :=
  fun e d => if d.shows e then d.emit (.err (e.line d.clock ++ "\n")) else d

/-- Forgets the text that has been printed, and sets the time. -/
def cleared (d : Desk) (c : Clock) : Desk :=
  { d with output := #[], clock := c.journal, panel := { d.panel with clock := c.panel } }

end Desk

/-- Why the program ends with a failure. -/
inductive ProgramError where
  | readScript (path : String) (why : FileError)
  | write (path : String) (why : FileError)
  | session (why : SessionError)
  | scriptFailed
  | endless
deriving DecidableEq, Repr

def ProgramError.message : ProgramError → String
  | .readScript path why => s!"failed to read `{path}`: {why.message}"
  | .write path why => s!"failed to write `{path}`: {why.message}"
  | .session why => why.message
  | .scriptFailed => "script failed"
  | .endless => "script did not end"

namespace CommandLine

variable {m : Type → Type} [Monad m]

/-- Prints what the session has left to print, and sets its clock. -/
def settle (w : World m) (s : Session Desk) : m (Session Desk) := do
  for o in s.host.output do
    match o with
    | .out text => w.print text
    | .err text => w.printError text
  let clock ← w.clock
  return { s with console := s.console.updateHost (·.cleared clock) }

/-- Prints what a step has left to print; a step that does not end is an error. -/
def settled {α : Type} (w : World m) :
    Option (α × Session Desk) → ExceptT ProgramError m (α × Session Desk)
  | none => throw .endless
  | some (a, s) => do return (a, ← ExceptT.lift (settle w s))

def loadLayers (w : World m) (fuel : Nat) (s : Session Desk) :
    List String → ExceptT ProgramError m (Session Desk)
  | [] => return s
  | path :: paths => do
    let (loaded, s) ← settled w (s.load fuel path (← w.read path))
    match loaded with
    | .ok _ => loadLayers w fuel s paths
    | .error why => throw (.session why)

/-- A session with a panel and the layers of the request. -/
def openSession (w : World m) (fuel : Nat) (request : Request) :
    ExceptT ProgramError m (Session Desk) := do
  let clock ← w.clock
  let desk : Desk :=
    ⟨.empty clock.panel, #[], clock.journal, request.verbose, request.consoleTracing⟩
  let outlet := if request.consoleTracing then Desk.journal.outlet else Desk.outlet
  let panel := Panel.observer fun f (d : Desk) => { d with panel := f d.panel }
  let session := Session.start .standard ⟨outlet, [panel], desk⟩ Desk.journal .empty
  loadLayers w fuel session request.layers

def writeFile (w : World m) (path text : String) : ExceptT ProgramError m Unit := do
  match ← w.save path text with
  | .ok () => return ()
  | .error why => throw (.write path why)

/-- Runs one script. The log file is written whether or not the script fails. -/
def runOnce (w : World m) (fuel : Nat) (request : Request) (source : String) :
    ExceptT ProgramError m Unit := do
  let s ← openSession w fuel request
  let (outcome, s) ← settled w (s.run fuel source)
  if let some path := request.logFile then
    writeFile w path (joinWith "\n" s.host.panel.lines.toList ++ "\n")
  if outcome.isFailure then throw .scriptFailed
  match s.scratchText with
  | .error why => throw (.session why)
  | .ok none => return ()
  | .ok (some json) =>
    match request.output with
    | some path => writeFile w path json
    | none => w.print (json ++ "\n")

/-- What the journal says before a line is read. -/
def lineNote : JournalEntry :=
  ⟨.debug, "rustyline", "stdin is not a tty", []⟩

/-- The contents of the file that a command reads. -/
def contents (w : World m) : Command → m (Except FileError String)
  | .load path => w.read path
  | _ => return .error .notFound

/-- Replies to at most `count` lines of the input, without what was taken back in them. Blank lines
are skipped. -/
def replies (w : World m) (fuel : Nat) :
    (count : Nat) → Session Desk → ExceptT ProgramError m Unit
  | 0, _ => throw .endless
  | count + 1, s => do
    let s ← ExceptT.lift (settle w (s.note lineNote))
    match ← w.readLine with
    | none => return ()
    | some line =>
      let line := String.ofList (Text.trim (Text.typed line.toList))
      if line.isEmpty then replies w fuel count s
      else
        let command := Command.ofLine line
        let file ← ExceptT.lift (contents w command)
        let (reply, s) ← settled w (s.obey fuel (fun _ => file) (·.panel) command)
        match reply with
        | .quit => return ()
        | .text text =>
          w.print (text ++ "\n")
          replies w fuel count s

def perform (w : World m) (fuel : Nat) (request : Request) : ExceptT ProgramError m Unit := do
  match request.task with
  | .run path =>
    match ← w.read path with
    | .ok source => runOnce w fuel request source
    | .error why => throw (.readScript path why)
  | .eval source => runOnce w fuel request source
  | .prompt => replies w fuel fuel (← openSession w fuel request)

/-- Runs the program and gives its exit status. -/
def run (w : World m) (fuel : Nat) (arguments : List String) : m Nat := do
  match Request.ofArguments arguments with
  | .error why =>
    w.printError s!"error: {why.message}\n"
    return 2
  | .ok request =>
    match ← perform w fuel request with
    | .ok () => return 0
    | .error why =>
      w.printError s!"error: {why.message}\n"
      return 1

end CommandLine

end LayerScript
