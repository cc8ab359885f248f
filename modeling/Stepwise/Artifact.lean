import Stepwise.Recording.Json
import Stepwise.Source.Prepare
import Stepwise.Text.Bytes
import Stepwise.Trace.Tracer
import Stepwise.Writes.Json
import Stepwise.Writes.Repair

/-!
# Artifacts

What there is to show of a program: the writes of its lines and the trace of a
run. The writes come first. A program that does not parse is never run, and
what is run is the text that was parsed, with the same lines emptied.
-/

namespace Stepwise

open Stepwise.Run

/-- The writes of a program and the trace of a run. -/
structure Artifact where
  writes : Writes.WriteMap
  trace : Trace.Log
  /-- The lines that were emptied, in the order of the repairs. -/
  repaired : List Nat

namespace Artifact

/-- The number of steps of the trace. -/
def stepCount (a : Artifact) : Nat := a.trace.stepCount

/-- An artifact in JSON: the writes, and then the trace. -/
def toJson (a : Artifact) : Json := .array [a.writes.toJson, a.trace.toJson]

/-- An artifact as JSON text. -/
def toText (a : Artifact) : List Char := a.toJson.write

/-- An artifact as the bytes of its JSON text. -/
def toBytes (a : Artifact) : List UInt8 := Text.bytes a.toText

/-- How an artifact is made. -/
structure Settings where
  tracer : Trace.Settings
  /-- Whether comments are taken out and blank lines filled in at first. -/
  prepare : Bool
  deriving DecidableEq

/-- The usual settings. -/
def Settings.standard : Settings := ⟨.standard, true⟩

/-- The source of a program, as it is analysed. -/
def Settings.load (settings : Settings) (program : List Char) : Source :=
  if settings.prepare then .prepare program else .ofText program

/-- Why there is no artifact. -/
inductive BuildError (ε : Type) where
  | analysis (e : Writes.SyntaxError)
  | run (e : ε)

namespace BuildError

variable {ε : Type}

/-- What failed. -/
def context : BuildError ε → String
  | analysis _ => "Failed to analyse program writes"
  | run _ => "Failed to trace program execution"

/-- Why it failed. -/
def cause (describe : ε → String) : BuildError ε → String
  | analysis e => e.message
  | run e => describe e

/-- What failed and why. -/
def message (describe : ε → String) (e : BuildError ε) : String :=
  e.context ++ ": " ++ e.cause describe

end BuildError

/-- Makes an artifact with a certain parser. -/
def buildWith (parser : Writes.Parser) {ε : Type} (settings : Settings)
    (host : Host Trace.State ε) (program : List Char) : Except (BuildError ε) Artifact :=
  let source := settings.load program
  match Writes.collectWith parser source with
  | .error e => .error (.analysis e)
  | .ok found =>
      let emptied := found.repaired.foldl Source.blankLine source
      let tracer : Trace.Tracer := ⟨emptied, settings.tracer, .standard⟩
      match host emptied.toText tracer.step .start with
      | .error e => .error (.run e)
      | .ok s => .ok ⟨found.writes, s.log, found.repaired⟩

/-- Makes an artifact with the parser of the grammar. -/
def build (wording : Writes.Wording) {ε : Type} (settings : Settings)
    (host : Host Trace.State ε) (program : List Char) : Except (BuildError ε) Artifact :=
  buildWith (.ofGrammar wording) settings host program

end Artifact

end Stepwise
