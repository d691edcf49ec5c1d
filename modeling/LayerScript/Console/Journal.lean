import LayerScript.Console.Dispatch
import LayerScript.Text.Unprintable
import LayerScript.Value.Display

/-!
# The journal of the host

What the host reports about its own work. A console can also write its events there.
-/

namespace LayerScript

inductive Severity where
  | debug
  | info
  | warn
  | error
deriving DecidableEq, Repr

def Severity.label : Severity → String
  | .debug => "DEBUG"
  | .info => "INFO"
  | .warn => "WARN"
  | .error => "ERROR"

structure JournalEntry where
  severity : Severity
  /-- The part of the host that reports. -/
  target : String
  message : String
  fields : List (String × String)
deriving DecidableEq, Repr

/-- Text in quotes. Characters that cannot be printed are written by number. -/
def quoted (text : String) : String :=
  "\"" ++ String.ofList (text.toList.flatMap escaped) ++ "\""
where
  escaped (c : Char) : List Char :=
    match c with
    | '"' => ['\\', '"']
    | '\\' => ['\\', '\\']
    | '\n' => ['\\', 'n']
    | '\r' => ['\\', 'r']
    | '\t' => ['\\', 't']
    | '\x00' => ['\\', '0']
    | c =>
      if Text.isPrintable c then [c] else "\\u\x7b".toList ++ Nat.toDigits 16 c.toNat ++ ['\x7d']

/-- Quoted texts in brackets. -/
def quotedList (texts : List String) : String :=
  "[" ++ joinWith ", " (texts.map quoted) ++ "]"

namespace JournalEntry

/-- Writes out the characters that a terminal would obey. -/
def harmless (c : Char) : List Char :=
  let n := c.toNat
  if n = 0x1B ∨ n = 0x07 ∨ n = 0x08 ∨ n = 0x0C ∨ n = 0x7F then
    ['\\', 'x', Nat.digitChar (n / 16), Nat.digitChar (n % 16)]
  else if 0x80 ≤ n ∧ n < 0xA0 then "\\u\x7b".toList ++ Nat.toDigits 16 n ++ ['\x7d']
  else [c]

/-- One line: the time, the severity, the target, the message and the fields. -/
def line (e : JournalEntry) (clock : String) : String :=
  let label := e.severity.label
  let pad := String.ofList (List.replicate (5 - label.length) ' ')
  clock ++ " " ++ pad ++ label ++ " " ++ e.target ++ ": " ++
    String.ofList (e.message.toList.flatMap harmless) ++
    String.join (e.fields.map fun f => " " ++ f.1 ++ "=" ++ f.2)

def consoleTarget : String := "geoscript::console"

/-- The entry of a console event. The two levels of information are told apart by a field. -/
def ofEvent (level : Level) (text : String) : JournalEntry :=
  match level with
  | .log | .info => ⟨.info, consoleTarget, text, [("console_level", level.label)]⟩
  | .warn => ⟨.warn, consoleTarget, text, []⟩
  | .error => ⟨.error, consoleTarget, text, []⟩

end JournalEntry

/-- The way a host keeps its journal. -/
abbrev Journal (η : Type) := JournalEntry → η → η

/-- The outlet that writes console events to the journal. -/
def Journal.outlet {η : Type} (journal : Journal η) : Outlet η :=
  fun s level payload host => (.ok (), journal (.ofEvent level (s.displayAll payload)) host)

end LayerScript
