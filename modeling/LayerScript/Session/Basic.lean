import LayerScript.Console.Journal
import LayerScript.Json.Reader
import LayerScript.Json.Printer
import LayerScript.Script.Execution
import LayerScript.Value.Document

/-!
# Sessions

A session holds the input layers and the scratch layer, and runs scripts on them. A script sees
the layers under their ids, all of them in one array, and the scratch layer. A displayable result
becomes the new scratch layer.
-/

namespace LayerScript

/-- The names under which scripts see the layers. -/
structure SessionConfig where
  scratchName : String
  allLayersName : String
  layerStem : String
deriving DecidableEq, Repr

def SessionConfig.standard : SessionConfig :=
  ⟨"scratch", "inputLayers", "layer"⟩

instance : Inhabited SessionConfig := ⟨.standard⟩

inductive Status where
  | idle
  | running
  | done
  | error
  | cleared
deriving DecidableEq, Repr, Inhabited

def Status.text : Status → String
  | .idle => "Idle."
  | .running => "Running..."
  | .done => "Done."
  | .error => "Error."
  | .cleared => "Cleared."

/-- An input layer, and where it came from. -/
structure Layer where
  source : Option String
  data : Ref

/-- Why a file cannot be read or written. -/
inductive FileError where
  | notFound
  | notDirectory
  | isDirectory
  | nameTooLong
  | zeroInName
  | notText
  | other (reason : String)
deriving DecidableEq, Repr

def FileError.message : FileError → String
  | .notFound => "No such file or directory (os error 2)"
  | .notDirectory => "Not a directory (os error 20)"
  | .isDirectory => "Is a directory (os error 21)"
  | .nameTooLong => "File name too long (os error 36)"
  | .zeroInName => "file name contained an unexpected NUL byte"
  | .notText => "stream did not contain valid UTF-8"
  | .other reason => reason

inductive SessionError where
  | unknownLayer (id : String)
  | read (path : String) (why : FileError)
  | parse (path : String) (why : Json.Error)
  | serialize (why : Fault)
deriving DecidableEq, Repr

def SessionError.message : SessionError → String
  | .unknownLayer id => s!"no input layer named `{id}`"
  | .read path why => s!"failed to read `{path}`: {why.message}"
  | .parse path why => s!"`{path}` is not valid JSON: {why.message}"
  | .serialize why => s!"scratch layer cannot be serialized: {why.diagnostic.render}"

inductive RunOutcome where
  | displayed
  | noResult
  | notDisplayable (result : Ref)
  | failed (why : ScriptFailure)

def RunOutcome.isFailure : RunOutcome → Bool
  | .failed _ => true
  | _ => false

structure Session (η : Type) where
  config : SessionConfig
  console : Console η
  journal : Journal η
  store : Store
  /-- The layers by id, in the order in which they were added. -/
  layers : Dict Layer
  /-- The number of layers ever added. -/
  counter : Nat
  scratch : Option Ref
  status : Status

namespace Session

variable {η : Type}

def start (config : SessionConfig) (console : Console η) (journal : Journal η) (store : Store) :
    Session η :=
  ⟨config, console, journal, store, .empty, 0, none, .idle⟩

def host (s : Session η) : η :=
  s.console.host

def note (s : Session η) (e : JournalEntry) : Session η :=
  { s with console := s.console.updateHost (s.journal e) }

def alloc (s : Session η) (c : Cell) : Ref × Session η :=
  let (r, store) := s.store.alloc c
  (r, { s with store := store })

/-! ## Layers -/

def sessionTarget : String := "geoscript::session"

/-- Adds a layer under a new id. Ids are not used again when their layer is removed. -/
def addLayer (s : Session η) (data : Ref) (source : Option String) : String × Session η :=
  let count := s.counter + 1
  let id := s.config.layerStem ++ toString count
  let origin := match source with
    | some path => "Some(" ++ quoted path ++ ")"
    | none => "None"
  let s := s.note ⟨.debug, sessionTarget, "adding input layer", [("layer", id), ("source", origin)]⟩
  (id, { s with layers := s.layers.insert id ⟨source, data⟩, counter := count })

def removeLayer (s : Session η) (id : String) : Except SessionError (Layer × Session η) :=
  match s.layers.find? id with
  | none => .error (.unknownLayer id)
  | some layer =>
    let s := s.note ⟨.debug, sessionTarget, "removed input layer", [("layer", id)]⟩
    .ok (layer, { s with layers := s.layers.erase id })

/-- Writes a line to the console; a failure to do so goes to the journal. -/
def report (fuel : Nat) (s : Session η) (level : Level) (text : String) : Option (Session η) :=
  let (line, s) := s.alloc (.text text)
  match s.console.write s.store fuel level [line] with
  | none => none
  | some (.ok (), console) => some { s with console := console }
  | some (.error why, console) =>
    some (note { s with console := console }
      ⟨.warn, sessionTarget, "console observer failed while reporting",
        [("error", why.message)]⟩)

/-- The document in the contents of a file. -/
def readDocument (path : String) (contents : Except FileError String) :
    Except SessionError Json :=
  match contents with
  | .error why => .error (.read path why)
  | .ok text =>
    match Json.read text with
    | .error why => .error (.parse path why)
    | .ok document => .ok document

/-- Adds the layer in a file that has been read. -/
def load (fuel : Nat) (s : Session η) (path : String) (contents : Except FileError String) :
    Option (Except SessionError String × Session η) :=
  match readDocument path contents with
  | .error why => (s.report fuel .error why.message).map fun s => (.error why, s)
  | .ok document =>
    let (data, store) := s.store.fromDocument document
    let (id, s) := addLayer { s with store := store } data (some path)
    some (.ok id, s)

/-! ## Scripts -/

/-- The layers that scripts see: those whose data count as true. -/
def visibleLayers (s : Session η) : List (String × Ref) :=
  (s.layers.entries.map fun e => (e.1, e.2.data)).filter fun e => (s.store.cell e.2).truthy

/-- The bindings of a script. -/
def bindings (s : Session η) : Bindings × Session η :=
  let layers := s.visibleLayers
  let (all, s) := s.alloc (.array (layers.map Prod.snd).toArray)
  let (scratch, s) := match s.scratch with
    | some r => (r, s)
    | none => s.alloc .none
  let (b, store) := Bindings.ofList s.store
    (layers ++ [(s.config.allLayersName, all), (s.config.scratchName, scratch)])
  (b, { s with store := store })

def executorTarget : String := "geoscript::executor"

/-- What the journal says about a script that has run. Nothing is said of one that could not be
read. -/
def noteResult (s : Session η) : Except ScriptFailure Ref → Session η
  | .ok r =>
    s.note ⟨.debug, executorTarget, "script finished",
      [("result", quoted (s.store.cell r).kind.title)]⟩
  | .error why =>
    match why.phase with
    | .compile => s
    | .run =>
      s.note ⟨.debug, executorTarget, "script failed", [("error", why.diagnostic.message)]⟩

def notGeoJson (kind : Kind) : String :=
  s!"script returned a {kind.title} that is not GeoJSON; scratch layer unchanged"

/-- Takes the result of a script. -/
def conclude (fuel : Nat) (s : Session η) (result : Except ScriptFailure Ref) :
    Option (RunOutcome × Session η) :=
  match result with
  | .ok r =>
    if !(s.store.cell r).truthy then some (.noResult, { s with status := .done })
    else if s.store.isDisplayable r then
      some (.displayed, { s with scratch := some r, status := .done })
    else
      (s.report fuel .warn (notGeoJson (s.store.cell r).kind)).map fun s =>
        (.notDisplayable r, { s with status := .done })
  | .error why =>
    (s.report fuel .error why.trace).map fun s => (.failed why, { s with status := .error })

/-- Runs a script on the present layers. -/
def run (fuel : Nat) (s : Session η) (source : String) : Option (RunOutcome × Session η) :=
  let (b, s) := bindings { s with status := .running }
  let s := s.note ⟨.debug, executorTarget, "compiling script",
    [("bindings", quotedList (b.names s.store))]⟩
  match Script.execute (.ofConsole η fuel) fuel source b s.store s.console with
  | none => none
  | some ended =>
    conclude fuel (noteResult { s with store := ended.store, console := ended.sink } ended.result)
      ended.result

/-! ## The scratch layer -/

def clearScratch (s : Session η) : Session η :=
  { s with scratch := none, status := .cleared }

/-- The scratch layer as indented JSON. -/
def scratchText (s : Session η) : Except SessionError (Option String) :=
  match s.scratch with
  | none => .ok none
  | some r =>
    match s.store.toDocument r with
    | .ok document => .ok (some document.pretty)
    | .error why => .error (.serialize why)

end Session

end LayerScript
