import AlertRelay.Text.Base64
import AlertRelay.Value.Basic
import AlertRelay.Yaml.Node
import AlertRelay.Yaml.Number

namespace AlertRelay.Yaml

open AlertRelay.Text

/-- What a node stands for. Points in time are not told from each other, nor are collections that
are no maps. -/
inductive Datum where
  | value (v : Value)
  | moment
  | list
  | map (place : Place)
  deriving Inhabited

def Datum.isCollection : Datum → Bool
  | .value _ => false
  | .moment => false
  | .list => true
  | .map _ => true

def Datum.text? : Datum → Option String
  | .value (.text s) => some s
  | _ => none

abbrev Member := Option String × Datum

structure Reading where
  nodes : Array Node
  data : Array (Option Datum)
  members : Array (List Member)
  /-- The collections that wait, latest first. -/
  waiting : List Place

abbrev ReadData := StateT Reading (Except Error)

namespace ReadData

def fail {α : Type} : ReadData α := throw .malformed

def node (place : Place) : ReadData Node := do return (← get).nodes.getD place default

def retag (place : Place) (tag : String) : ReadData Unit :=
  modify fun s => { s with nodes := s.nodes.modify place fun n => { n with tag } }

def setBody (place : Place) (body : Body) : ReadData Unit :=
  modify fun s => { s with nodes := s.nodes.modify place fun n => { n with body } }

def entries (place : Place) : ReadData (List (Place × Place)) := do
  match (← node place).body with
  | .mapping es => return es
  | _ => fail

def items (place : Place) : ReadData (List Place) := do
  match (← node place).body with
  | .sequence ps => return ps
  | _ => fail

end ReadData

open ReadData

def cutMerge (es : List (Place × Place)) : ReadData (Option (Place × List (Place × Place))) := do
  match es with
  | [] => return none
  | (k, v) :: rest =>
    if (← node k).tag == mergeTag then return some (v, rest)
    else return (← cutMerge rest).map fun (w, others) => (w, (k, v) :: others)

def plainKey (place : Place) : ReadData Unit := do
  if (← node place).tag == valueTag then retag place strTag

/-- Puts the entries of the maps that a map merges before its own; of a list of maps the first one
comes last. What is merged has its own merges resolved for good. -/
def resolveMerges (merged : List (Place × Place)) : Nat → Place → ReadData Unit
  | 0, _ => fail
  | fuel + 1, place => do
    let es ← entries place
    match ← cutMerge es with
    | none =>
      es.forM fun e => plainKey e.1
      setBody place (.mapping (merged ++ es))
    | some (v, others) =>
      setBody place (.mapping others)
      let more ←
        match (← node v).body with
        | .mapping _ =>
          resolveMerges [] fuel v
          entries v
        | .sequence ps => do
          let parts ← ps.mapM fun p => do
            resolveMerges [] fuel p
            entries p
          pure parts.reverse.flatten
        | .scalar _ => fail
      resolveMerges (merged ++ more) fuel place

/-- The text of a scalar. A map stands for the scalar under its key of the value type. -/
def scalarText : Nat → Place → ReadData (List Char)
  | 0, _ => fail
  | fuel + 1, place => do
    match (← node place).body with
    | .scalar cs => return cs
    | .mapping es =>
      match ← es.findM? fun e => do return (← node e.1).tag == valueTag with
      | some (_, v) => scalarText fuel v
      | none => fail
    | .sequence _ => fail

def scalarDatum (tag : String) (text : List Char) (body : Body) : Except Error Datum := do
  if tag == strTag then return .value (.text (String.ofList text))
  else if tag == coreTag "null" then return .value .nil
  else if tag == coreTag "bool" then return .value (.bool (← readTruth text))
  else if tag == coreTag "int" then return .value (.int (← readInteger text))
  else if tag == coreTag "float" then return .value (.float (← readFloat text))
  else if tag == coreTag "binary" then
    if text.any (0x80 ≤ ·.toNat) then throw .malformed
    match Base64.decode? text with
    | some bs => return .value (.bytes bs)
    | none => throw .malformed
  else if tag == coreTag "timestamp" then
    if body matches .mapping _ then throw .timeOfMap
    match moment? text with
    | some m =>
      checkMoment m
      return .moment
    | none => throw .badTime
  else throw .malformed

def setTag : String := coreTag "set"

def isPairsTag (tag : String) : Bool := tag == coreTag "omap" || tag == coreTag "pairs"

def isCollectionTag (tag : String) : Bool :=
  tag == seqTag || tag == mapTag || tag == setTag || isPairsTag tag

def reach (fuel : Nat) (place : Place) : ReadData Datum := do
  match (← get).data.getD place none with
  | some d => return d
  | none =>
    let n ← node place
    let d ←
      if isCollectionTag n.tag then do
        modify fun s => { s with waiting := place :: s.waiting }
        pure (if n.tag == mapTag then .map place else .list)
      else scalarDatum n.tag (← scalarText fuel place) n.body
    modify fun s => { s with data := s.data.setIfInBounds place (some d) }
    return d

def readMembers (fuel : Nat) (place : Place) : ReadData (List Member) := do
  resolveMerges [] fuel place
  (← entries place).mapM fun (k, v) => do
    let key ← reach fuel k
    if key.isCollection then fail
    return (key.text?, ← reach fuel v)

def fill (fuel : Nat) (place : Place) : ReadData Unit := do
  let tag := (← node place).tag
  if tag == mapTag then
    let ms ← readMembers fuel place
    modify fun s => { s with members := s.members.setIfInBounds place ms }
  else if tag == setTag then
    let _ ← readMembers fuel place
  else
    for item in ← items place do
      if isPairsTag tag then
        match ← entries item with
        | [(k, v)] =>
          let _ ← reach fuel k
          let _ ← reach fuel v
        | _ => fail
      else
        let _ ← reach fuel item

/-- Fills the collections that wait in the order in which they were reached, then those that were
reached meanwhile. -/
def fillAll (fuel : Nat) : Nat → ReadData Unit
  | 0 => fail
  | rounds + 1 => do
    match (← get).waiting with
    | [] => return ()
    | places =>
      modify fun s => { s with waiting := [] }
      places.reverse.forM (fill fuel)
      fillAll fuel rounds

structure Data where
  root : Datum
  members : Array (List Member)

def Node.width (n : Node) : Nat :=
  match n.body with
  | .mapping es => es.length
  | _ => 0

/-- A bound on how often an entry can be cut out of the maps of a document, and on how many nodes
lead from one to the next without a circle. -/
def Document.size (d : Document) : Nat :=
  d.nodes.foldl (fun size n => size + n.width) (d.nodes.size + 2)

def Document.data (d : Document) (root : Place) : Except Error Data := do
  let count := d.nodes.size
  let read : ReadData Datum := do
    let datum ← reach d.size root
    fillAll d.size d.size
    return datum
  let (datum, s) ← read ⟨d.nodes, .replicate count none, .replicate count [], []⟩
  return ⟨datum, s.members⟩

end AlertRelay.Yaml
