import AlertRelay.Alert.Event

namespace AlertRelay.Alert

/-- An alert as its sender gives it. The level is a number, and need not be that of a level. -/
structure Occurrence where
  id : String
  message : String
  level : Int
  data : EventData

def Event.occurrence (e : Event) : Occurrence :=
  { id := e.state.id
    message := e.state.message
    level := e.state.level.code
    data := e.data }

end AlertRelay.Alert
