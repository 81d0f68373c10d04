/-
# Log events

What the keeper says about its work.  An event has a level, the part of the keeper it comes
from, a message and named fields.  A `Journal` is the capability to record events in a
world of any kind.
-/

namespace BotKeeper.Log

/-- The severity of an event, most severe first. -/
inductive Level where
  | error
  | warn
  | info
  | debug
  | trace
deriving DecidableEq, Repr

namespace Level

/-- The place of a level in the order of severity, most severe first. -/
def rank : Level → Nat
  | error => 1
  | warn => 2
  | info => 3
  | debug => 4
  | trace => 5

/-- The name of a level. -/
def name : Level → String
  | error => "ERROR"
  | warn => "WARN"
  | info => "INFO"
  | debug => "DEBUG"
  | trace => "TRACE"

end Level

/-- The value of a field. -/
inductive Value where
  /-- Text shown as it is. -/
  | plain (s : String)
  /-- Text shown in quotes. -/
  | quoted (s : String)
  /-- A whole number. -/
  | number (n : Nat)
  /-- A span of time shown as single-precision seconds. -/
  | seconds (ms : Nat)
deriving DecidableEq, Repr

/-- The part of the keeper an event comes from. -/
inductive Source where
  | main
  | project
  | command
  | commands
  | npm
  | session
  | launcher
  | shutdown
  | interrupt
  | lifecycle
  | terminator
  | reaper
  | signals
  | stateFile
deriving DecidableEq, Repr

/-- The target name of a source, on which filters select. -/
def Source.target : Source → String
  | main => "vixen"
  | project => "vixen_manager::project"
  | command => "vixen_manager::cmd"
  | commands => "vixen_manager::commands"
  | npm => "vixen_manager::npm"
  | session => "vixen_core::supervisor::session"
  | launcher => "vixen_core::supervisor::launcher"
  | shutdown => "vixen_core::supervisor::shutdown"
  | interrupt => "vixen_core::supervisor::interrupt"
  | lifecycle => "vixen_core::process"
  | terminator => "vixen_core::process::terminator"
  | reaper => "vixen_core::process::reaper"
  | signals => "vixen_core::process::platform"
  | stateFile => "vixen_core::process::state_file"

/-- One log event. -/
structure Event where
  /-- Its severity. -/
  level : Level
  /-- Where it comes from. -/
  source : Source
  /-- What it says. -/
  message : String
  /-- Named details, in order. -/
  fields : List (String × Value) := []
deriving DecidableEq, Repr

/-- The capability to record events in a world `W`. -/
structure Journal (W : Type) where
  /-- Records one event. -/
  record : Event → StateM W Unit

namespace Journal

variable {W : Type}

/-- Records an event of a given level. -/
def log (j : Journal W) (level : Level) (source : Source) (message : String)
    (fields : List (String × Value)) : StateM W Unit :=
  j.record ⟨level, source, message, fields⟩

/-- Records an error. -/
def error (j : Journal W) (source : Source) (message : String)
    (fields : List (String × Value) := []) : StateM W Unit :=
  j.log .error source message fields

/-- Records a warning. -/
def warn (j : Journal W) (source : Source) (message : String)
    (fields : List (String × Value) := []) : StateM W Unit :=
  j.log .warn source message fields

/-- Records a notice. -/
def info (j : Journal W) (source : Source) (message : String)
    (fields : List (String × Value) := []) : StateM W Unit :=
  j.log .info source message fields

/-- Records a detail for debugging. -/
def debug (j : Journal W) (source : Source) (message : String)
    (fields : List (String × Value) := []) : StateM W Unit :=
  j.log .debug source message fields

/-- A journal that forgets everything. -/
def silent : Journal W := ⟨fun _ => pure ()⟩

end Journal

end BotKeeper.Log
