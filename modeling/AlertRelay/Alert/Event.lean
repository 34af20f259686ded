import AlertRelay.Validation.Scalar

namespace AlertRelay.Alert

open AlertRelay.Validation

structure EventData where
  name : String
  taskName : String
  fields : List (String × Value)
  tags : List (String × String)

structure EventState where
  id : String
  message : String
  level : Level

structure Event where
  state : EventState
  data : EventData

def EventData.empty : EventData := ⟨"", "", [], []⟩

def EventData.record (d : EventData) (id : String) : Record :=
  ⟨id, d.name, d.taskName, d.fields, d.tags⟩

def EventData.check (v : Value) : Checked EventData :=
  (modelEntries "EventData" v).bind fun es =>
    EventData.mk <$> optionalField es ["name"] "" checkText
      <*> optionalField es ["task_name"] "" checkText
      <*> optionalField es ["fields"] [] checkValues <*> optionalField es ["tags"] [] checkTexts

def EventState.check (v : Value) : Checked EventState :=
  (modelEntries "EventState" v).bind fun es =>
    EventState.mk <$> requiredField es "id" checkText <*> optionalField es ["message"] "" checkText
      <*> optionalField es ["level"] .ok checkLevel

def Event.check (v : Value) : Checked Event :=
  (modelEntries "AlertEvent" v).bind fun es =>
    Event.mk <$> requiredField es "state" EventState.check
      <*> optionalField es ["data"] EventData.empty EventData.check

def checkRecord (v : Value) : Checked Record :=
  (modelEntries "TemplateData" v).bind fun es =>
    Record.mk <$> optionalField es ["ID"] "" checkText <*> optionalField es ["Name"] "" checkText
      <*> optionalField es ["TaskName"] "" checkText <*> optionalField es ["Fields"] [] checkValues
      <*> optionalField es ["Tags"] [] checkTexts

end AlertRelay.Alert
