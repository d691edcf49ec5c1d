import LayerScript.CommandLine.Calendar
import Std.Time.DateTime.Timestamp

/-!
# The executable
-/

namespace LayerScript

/-- The number of a system error. Some calls report it negated. -/
def systemCode (code : UInt32) : Nat :=
  min code.toNat (0 - code).toNat

def FileError.ofIO : IO.Error → FileError
  | .noFileOrDirectory .. => .notFound
  | .inappropriateType _ code _ => if systemCode code = 20 then .notDirectory else .isDirectory
  | .invalidArgument _ code reason =>
    if systemCode code = 36 then .nameTooLong
    else if systemCode code = 22 then .zeroInName
    else .other reason
  | .permissionDenied _ code _ => .other s!"Permission denied (os error {systemCode code})"
  | .resourceExhausted _ code _ => .other s!"No space left on device (os error {systemCode code})"
  | e => .other (toString e)

def systemWorld : World IO where
  read path := do
    try
      let bytes ← IO.FS.readBinFile path
      match String.fromUTF8? bytes with
      | some text => return .ok text
      | none => return .error .notText
    catch e => return .error (.ofIO e)
  save path text := do
    try
      IO.FS.writeFile path text
      return .ok ()
    catch e => return .error (.ofIO e)
  print := IO.print
  printError := IO.eprint
  readLine := do
    let line ← (← IO.getStdin).getLine
    return if line.isEmpty then none else some line
  clock := do
    let now ← Std.Time.Timestamp.now
    return .at (now.toNanosecondsSinceUnixEpoch.toInt / 1000).toNat

end LayerScript

def main (arguments : List String) : IO UInt32 := do
  return (← LayerScript.CommandLine.run LayerScript.systemWorld (Nat.pow 2 60) arguments).toUInt32
