import AlertRelay.Config.Settings
import AlertRelay.Log.Line
import AlertRelay.Log.Threshold

namespace AlertRelay.Log

open AlertRelay.Config

structure Sink where
  threshold : Nat
  format : Format
  deriving DecidableEq, Repr

namespace Sink

def choose (given : Option String) (setting : String) : String :=
  match given with
  | some s => if s.isEmpty then setting else s
  | none => setting

/-- The sink that settings ask for. A level and a format that are given go before theirs. -/
def ofSettings (c : LoggingConfig) (level format : Option String) : Except TakenName Sink :=
  (thresholdNamed (choose level c.level)).map fun threshold =>
    ⟨threshold, .named (choose format c.format)⟩

def clientThreshold (s : Sink) : Nat := max s.threshold Level.warning.code

def accepts (s : Sink) (e : Entry) : Bool := s.threshold ≤ e.level.code

def line? (s : Sink) (e : Entry) (time : String) : Option String :=
  if s.accepts e then some (e.line s.format time) else none

end Sink

end AlertRelay.Log
