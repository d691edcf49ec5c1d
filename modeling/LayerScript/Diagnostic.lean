import LayerScript.Text.Position

/-!
# Diagnostics

A diagnostic says what went wrong, where, and through which calls the failure travelled, innermost
call first.
-/

namespace LayerScript

/-- The stage that found the failure. -/
inductive Stage where
  | lexer
  | parser
  | runtime
deriving DecidableEq, Repr, Inhabited

def Stage.title : Stage → String
  | .lexer => "Lexer"
  | .parser => "Parser"
  | .runtime => "Runtime"

/-- Whether the failure was found before any code ran. -/
def Stage.isCompileTime : Stage → Bool
  | .lexer | .parser => true
  | .runtime => false

/-- A call that a failure left, and the place of the call it was making. -/
structure Frame where
  function : String
  span : Option Span
deriving DecidableEq, Repr, Inhabited

structure Diagnostic where
  stage : Stage
  message : String
  span : Option Span
  notes : List String
  stack : List Frame
deriving DecidableEq, Repr, Inhabited

namespace Diagnostic

def of (stage : Stage) (message : String) : Diagnostic :=
  ⟨stage, message, none, [], []⟩

def withSpan (d : Diagnostic) (span : Span) : Diagnostic :=
  { d with span := some span }

/-- Adds a place unless one is known. -/
def orSpan (d : Diagnostic) (span : Span) : Diagnostic :=
  { d with span := d.span <|> some span }

def withNote (d : Diagnostic) (note : String) : Diagnostic :=
  { d with notes := d.notes ++ [note] }

def pushFrame (d : Diagnostic) (function : String) (span : Option Span) : Diagnostic :=
  { d with stack := d.stack ++ [⟨function, span⟩] }

/-- Moves every place towards the start of the text. -/
def shiftBack (d : Diagnostic) (bytes : Nat) : Diagnostic :=
  { d with
    span := d.span.map (·.shiftBack bytes)
    stack := d.stack.map fun f => { f with span := f.span.map (·.shiftBack bytes) } }

/-- The stage, the message, the byte offsets and the notes. -/
def render (d : Diagnostic) : String :=
  let place := match d.span with
    | some span => s!" ({span.start}..{span.stop})"
    | none => ""
  let notes := d.notes.map fun note => s!"  note: {note}\n"
  s!"{d.stage.title}: {d.message}" ++ place ++
    (if notes.isEmpty then "" else "\n" ++ String.join notes)

/-- The line and column of a span in brackets. -/
def locationText (source : String) : Option Span → String
  | none => ""
  | some span =>
    let p := span.position source
    s!" ({p.line}:{p.column})"

/-- The message, one line for each call and one for each note. -/
def trace (d : Diagnostic) (source : String) : String :=
  s!"{d.stage.title}: {d.message}" ++ locationText source d.span ++
    String.join (d.stack.map fun f => s!"\n    at {f.function}" ++ locationText source f.span) ++
    String.join (d.notes.map fun note => s!"\n  note: {note}")

end Diagnostic

end LayerScript
