import LayerScript.Program.Parser

/-!
# Scripts

A script is the body of a strict function whose parameters are the names bound for it. It is read
behind a directive that makes it strict; the places in it are moved back so that they refer to the
text that was given.
-/

namespace LayerScript

/-- The name of the frame of a script. -/
def scriptFrame : String := "<script>"

/-- The text read before every script. -/
def strictPrelude : String := "\"" ++ strictDirective ++ "\";\n"

/-- Why a script has no result: it could not be read, or it failed while it ran. -/
inductive ScriptPhase where
  | compile
  | run
deriving DecidableEq, Repr, Inhabited

def ScriptPhase.title : ScriptPhase → String
  | .compile => "compile error"
  | .run => "runtime error"

structure ScriptFailure where
  phase : ScriptPhase
  diagnostic : Diagnostic
  /-- The stack trace in the text that was given. -/
  trace : String
deriving DecidableEq, Repr, Inhabited

namespace ScriptFailure

def isCompile (f : ScriptFailure) : Bool :=
  f.phase = .compile

def ofCompile (source : String) (d : Diagnostic) : ScriptFailure :=
  let d := d.pushFrame scriptFrame none
  ⟨.compile, d, d.trace source⟩

def ofRun (source : String) (d : Diagnostic) : ScriptFailure :=
  ⟨.run, d, d.trace source⟩

/-- The message of the diagnostic, or a stand-in for a message without any text. -/
def message (f : ScriptFailure) : String :=
  if (Text.trim f.diagnostic.message.toList).isEmpty then "script failed without a message"
  else f.diagnostic.message

/-- The phase and the message. -/
def render (f : ScriptFailure) : String :=
  f.phase.title ++ ": " ++ f.diagnostic.message

end ScriptFailure

/-- A script that can be run: its parameters, its statements and whether it is strict. The places
in the statements count the text read before the script. -/
structure Script where
  params : List String
  body : List Stmt
  strict : Bool

namespace Script

/-- The diagnostic of a name that no script can read. -/
def invalidName (name : String) : Diagnostic :=
  (Diagnostic.of .parser s!"invalid binding name `{name}`").withNote
    "binding names must be identifiers and not keywords"

/-- Reads a script. The first wrong name is found before any error in the text. -/
def compile (source : String) (params : List String) : Except ScriptFailure Script :=
  match params.find? (!isIdentifier ·) with
  | some name => .error (.ofCompile source (invalidName name))
  | none =>
    match Program.parse (strictPrelude ++ source) with
    | .ok program => .ok ⟨params, program.body, program.strict⟩
    | .error d => .error (.ofCompile source (d.shiftBack strictPrelude.utf8ByteSize))

variable {source : String} {params : List String}

theorem of_compile {script : Script} (h : compile source params = .ok script) :
    (∀ x ∈ params, isIdentifier x) ∧ ∃ program,
      Program.parse (strictPrelude ++ source) = .ok program ∧
      script = ⟨params, program.body, program.strict⟩ := by
  unfold compile at h
  split at h
  · cases h
  · next valid =>
    split at h
    · next program parsed =>
      cases h
      exact ⟨by simpa using valid, program, parsed, rfl⟩
    · cases h

theorem of_compile_error {failure : ScriptFailure} (h : compile source params = .error failure) :
    ∃ d, failure = .ofCompile source d ∧
      ((∃ x ∈ params, ¬ isIdentifier x ∧ d = invalidName x) ∨
        ∃ d', Program.parse (strictPrelude ++ source) = .error d' ∧
          d = d'.shiftBack strictPrelude.utf8ByteSize) := by
  unfold compile at h
  split at h
  · next x found =>
    cases h
    have wrong := List.find?_some found
    exact ⟨_, rfl, .inl ⟨x, List.mem_of_find?_eq_some found, by simpa using wrong, rfl⟩⟩
  · split at h
    · cases h
    · next d parsed =>
      cases h
      exact ⟨_, rfl, .inr ⟨d, parsed, rfl⟩⟩

end Script

end LayerScript
