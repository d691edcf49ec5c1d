/-!
# Console levels

The four ways a script can write to its console, and the ways a write can fail.
-/

namespace LayerScript

inductive Level where
  | log
  | info
  | warn
  | error
deriving DecidableEq, Repr

namespace Level

def all : List Level :=
  [.log, .info, .warn, .error]

/-- The name of the script function. -/
def method : Level → String
  | .log => "log"
  | .info => "info"
  | .warn => "warn"
  | .error => "error"

/-- The name shown to observers. -/
def label : Level → String
  | .log => "LOG"
  | .info => "INFO"
  | .warn => "WARN"
  | .error => "ERROR"

end Level

inductive SinkError where
  | io (reason : String)
  | observer (reason : String)
deriving DecidableEq, Repr

def SinkError.message : SinkError → String
  | .io reason => s!"failed to write log output: {reason}"
  | .observer reason => s!"log observer failed: {reason}"

end LayerScript
