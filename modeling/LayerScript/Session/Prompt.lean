import LayerScript.Console.Panel
import LayerScript.Session.Basic
import LayerScript.Text.Blank

/-!
# The prompt

A line is a command, which starts with a colon, or a script to run. Each line has a reply.
-/

namespace LayerScript

inductive Command where
  | quit
  | help
  | layers
  | load (path : String)
  | remove (id : String)
  | usage (command : String)
  | scratch
  | clear
  | console
  | unknown (command : String)
  | script (source : String)
deriving DecidableEq, Repr

namespace Command

/-- The first word of a line and the rest without the blanks around it. -/
def words (line : String) : String × String :=
  match Text.splitAtBlank? line.toList with
  | some (first, rest) => (String.ofList first, String.ofList (Text.trim rest))
  | none => (line, "")

def ofLine (line : String) : Command :=
  let (first, rest) := words line
  match first with
  | ":quit" | ":exit" => .quit
  | ":help" => .help
  | ":layers" => .layers
  | ":load" => if rest.isEmpty then .usage first else .load rest
  | ":remove" => if rest.isEmpty then .usage first else .remove rest
  | ":scratch" => .scratch
  | ":clear" => .clear
  | ":console" => .console
  | _ => if first.startsWith ":" then .unknown first else .script line

def helpText : String :=
  ":layers          list input layers\n" ++
  ":load <file>     add a GeoJSON file as an input layer\n" ++
  ":remove <id>     remove an input layer\n" ++
  ":scratch         print the scratch layer\n" ++
  ":clear           clear the scratch layer\n" ++
  ":console         print the captured console lines\n" ++
  ":quit | :exit    leave\n" ++
  "anything else runs as a script"

end Command

inductive Reply where
  | text (t : String)
  | quit
deriving DecidableEq, Repr

namespace Session

variable {η : Type}

/-- One line for each layer, with its source. -/
def layerList (s : Session η) : String :=
  if s.layers.isEmpty then "(no input layers)"
  else joinWith "\n" <| s.layers.entries.map fun e =>
    e.1 ++ "\t(" ++ e.2.source.getD "source not available" ++ ")"

/-- The reply to a script that has run. -/
def outcomeText (s : Session η) : RunOutcome → String
  | .displayed => s.status.text ++ " scratch layer updated"
  | .notDisplayable r => s.status.text ++ " result: " ++ s.store.display r
  | .noResult | .failed _ => s.status.text

def answer (s : Session η) (text : String) : Option (Reply × Session η) :=
  some (.text text, s)

/-- Obeys a command. `read` gives the contents of files, `panel` finds the panel of the host. -/
def obey (fuel : Nat) (read : String → Except FileError String) (panel : η → Panel)
    (s : Session η) : Command → Option (Reply × Session η)
  | .quit => some (.quit, s)
  | .help => s.answer Command.helpText
  | .layers => s.answer s.layerList
  | .load path =>
    (s.load fuel path (read path)).map fun (result, s) =>
      match result with
      | .ok id => (.text s!"loaded `{path}` as {id}", s)
      | .error why => (.text why.message, s)
  | .remove id =>
    match s.removeLayer id with
    | .ok (_, s) => s.answer s!"removed {id}"
    | .error why => s.answer why.message
  | .usage command => s.answer s!"usage: {command} <argument>"
  | .scratch =>
    match s.scratchText with
    | .ok (some text) => s.answer text
    | .ok none => s.answer "(scratch layer is empty)"
    | .error why => s.answer why.message
  | .clear =>
    let s := s.clearScratch
    s.answer s.status.text
  | .console => s.answer (joinWith "\n" (panel s.host).lines.toList)
  | .unknown command => s.answer s!"unknown command `{command}`, try :help"
  | .script source =>
    (s.run fuel source).map fun (outcome, s) => (.text (s.outcomeText outcome), s)

end Session

end LayerScript
