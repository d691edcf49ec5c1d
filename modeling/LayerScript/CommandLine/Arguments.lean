/-!
# Arguments

What the program is asked to do: run the script in a file, run a script given as an argument, or
answer the lines of its input.
-/

namespace LayerScript

inductive Task where
  | run (path : String)
  | eval (source : String)
  | prompt
deriving DecidableEq, Repr

/-- A task and the options for it. -/
structure Request where
  task : Task
  layers : List String
  output : Option String
  logFile : Option String
  verbose : Bool
  consoleTracing : Bool
deriving DecidableEq, Repr

/-- Arguments that ask for nothing the program does. -/
inductive UsageError where
  | unexpected (argument : String)
  | missingValue (option : String)
  | missingArgument (name : String)
  | repeated (option : String)
deriving DecidableEq, Repr

def UsageError.message : UsageError → String
  | .unexpected argument => s!"unexpected argument '{argument}' found"
  | .missingValue option => s!"a value is required for '{option}' but none was supplied"
  | .missingArgument name => s!"the required argument <{name}> was not provided"
  | .repeated option => s!"the argument '{option}' cannot be used multiple times"

namespace Request

inductive Verb where
  | run
  | eval
  | repl
deriving DecidableEq, Repr

/-- The name of the argument that a verb needs. -/
def Verb.operand? : Verb → Option String
  | .run => some "SCRIPT"
  | .eval => some "SOURCE"
  | .repl => none

def Verb.ofText? : String → Option Verb
  | "run" => some .run
  | "eval" => some .eval
  | "repl" => some .repl
  | _ => none

/-- The arguments read so far. -/
structure Draft where
  verb : Option Verb
  operand : Option String
  layers : List String
  output : Option String
  logFile : Option String
  verbose : Bool
  consoleTracing : Bool

def Draft.empty : Draft :=
  ⟨none, none, [], none, none, false, false⟩

/-- The options that take a value. -/
inductive ValueOption where
  | layer
  | output
  | logFile
deriving DecidableEq, Repr

def ValueOption.text : ValueOption → String
  | .layer => "--layer"
  | .output => "--output"
  | .logFile => "--log-file"

/-- The option of a name, where the verb has it. -/
def ValueOption.find? (verb : Option Verb) (text : String) : Option ValueOption :=
  match verb, text with
  | some _, "--layer" => some .layer
  | some .run, "--output" | some .eval, "--output" => some .output
  | some .run, "--log-file" => some .logFile
  | _, _ => none

namespace Draft

def withValue (d : Draft) (option : ValueOption) (value : String) : Except UsageError Draft :=
  match option with
  | .layer => .ok { d with layers := d.layers ++ [value] }
  | .output =>
    if d.output.isSome then .error (.repeated option.text)
    else .ok { d with output := some value }
  | .logFile =>
    if d.logFile.isSome then .error (.repeated option.text)
    else .ok { d with logFile := some value }

/-- An argument that is no option: a verb first, then what the verb needs. -/
def withWord (d : Draft) (word : String) : Except UsageError Draft :=
  match d.verb with
  | none =>
    match Verb.ofText? word with
    | some verb => .ok { d with verb := some verb }
    | none => .error (.unexpected word)
  | some verb =>
    if verb.operand?.isSome && d.operand.isNone then .ok { d with operand := some word }
    else .error (.unexpected word)

/-- Splits `--name=value`. -/
def splitValue? (argument : String) : Option (String × String) :=
  match argument.toList.span (· ≠ '=') with
  | (name, '=' :: value) => some (String.ofList name, String.ofList value)
  | _ => none

/-- Whether an argument is an option and no value. -/
def looksLikeOption (argument : String) : Bool :=
  argument.startsWith "-" && argument ≠ "-"

/-- Reads arguments; `plain` says that none of them is an option. -/
def read (plain : Bool) (d : Draft) : List String → Except UsageError Draft
  | [] => .ok d
  | argument :: rest =>
    if plain || !looksLikeOption argument then
      match d.withWord argument with
      | .ok d => read plain d rest
      | .error why => .error why
    else if argument = "--" then read true d rest
    else if argument = "--verbose" then read plain { d with verbose := true } rest
    else if argument = "--console-tracing" then read plain { d with consoleTracing := true } rest
    else
      match ValueOption.find? d.verb argument, rest with
      | some _, [] => .error (.missingValue argument)
      | some option, value :: rest =>
        if looksLikeOption value then .error (.missingValue argument)
        else match d.withValue option value with
          | .ok d => read plain d rest
          | .error why => .error why
      | none, rest =>
        match splitValue? argument with
        | none => .error (.unexpected argument)
        | some (name, value) =>
          match ValueOption.find? d.verb name with
          | none => .error (.unexpected argument)
          | some option =>
            match d.withValue option value with
            | .ok d => read plain d rest
            | .error why => .error why

def task (d : Draft) : Except UsageError Task :=
  match d.verb, d.operand with
  | some .run, some path => .ok (.run path)
  | some .eval, some source => .ok (.eval source)
  | some .run, none => .error (.missingArgument "SCRIPT")
  | some .eval, none => .error (.missingArgument "SOURCE")
  | some .repl, _ | none, _ => .ok .prompt

end Draft

/-- Reads the arguments of the program. Without any it answers the lines of its input. -/
def ofArguments (arguments : List String) : Except UsageError Request := do
  let d ← Draft.empty.read false arguments
  return ⟨← d.task, d.layers, d.output, d.logFile, d.verbose, d.consoleTracing⟩

end Request

end LayerScript
