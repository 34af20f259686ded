import AlertRelay.Yaml.Resolve
import AlertRelay.Yaml.Token

namespace AlertRelay.Yaml

abbrev Place := Nat

inductive Body where
  | scalar (text : List Char)
  | sequence (items : List Place)
  | mapping (entries : List (Place × Place))
  deriving DecidableEq, Repr, Inhabited

structure Node where
  tag : String
  body : Body
  deriving DecidableEq, Repr, Inhabited

structure Builder where
  tokens : List Token
  nodes : Array Node
  anchors : List (String × Place)
  handles : List (String × String)

abbrev Build := StateT Builder (Except Error)

namespace Build

def peek : Build Token := do
  match (← get).tokens with
  | [] => throw .malformed
  | .failure e :: _ => throw e
  | t :: _ => return t

def advance : Build Unit := modify fun s => { s with tokens := s.tokens.drop 1 }

def expect (t : Token) : Build Unit := do
  if (← peek) == t then advance else throw .malformed

def atAny (ts : List Token) : Build Bool := do return ts.contains (← peek)

def accept (t : Token) : Build Bool := do
  if (← peek) == t then
    advance
    return true
  else return false

end Build

open Build

structure Properties where
  anchor : Option String
  tag : Option (Option String × String)

def readAnchorToken : Build (Option String) := do
  match ← peek with
  | .anchor name =>
    advance
    return some name
  | _ => return none

def readTagToken : Build (Option (Option String × String)) := do
  match ← peek with
  | .tag h s =>
    advance
    return some (h, s)
  | _ => return none

def readProperties : Build Properties := do
  match ← readAnchorToken with
  | some a => return ⟨some a, ← readTagToken⟩
  | none =>
    match ← readTagToken with
    | some t => return ⟨← readAnchorToken, some t⟩
    | none => return ⟨none, none⟩

def fullTag (t : Option String × String) : Build String := do
  match t.1 with
  | none => return t.2
  | some h =>
    match (← get).handles.lookup h with
    | some meaning => return meaning ++ t.2
    | none => throw .malformed

def openTag : String := "!"

def scalarTag (tag : Option String) (plain : Bool) (text : List Char) : String :=
  match tag with
  | none => if plain then plainTag text else strTag
  | some t => if t == openTag then plainTag text else t

def emptyTag (tag : Option String) : String :=
  match tag with
  | none => plainTag []
  | some t => if t == openTag then plainTag [] else t

def collectionTag (default : String) (tag : Option String) : String :=
  match tag with
  | none => default
  | some t => if t == openTag then default else t

def add (n : Node) : Build Place :=
  modifyGet fun s => (s.nodes.size, { s with nodes := s.nodes.push n })

def addEmpty : Build Place := add ⟨plainTag [], .scalar []⟩

def mark (anchor : Option String) (place : Place) : Build Unit := do
  match anchor with
  | none => return ()
  | some a => modify fun s => { s with anchors := (a, place) :: s.anchors }

def checkAnchor (anchor : Option String) : Build Unit := do
  match anchor with
  | none => return ()
  | some a => if ((← get).anchors.lookup a).isSome then throw .malformed

def addScalar (anchor : Option String) (tag : String) (text : List Char) : Build Place := do
  checkAnchor anchor
  let place ← add ⟨tag, .scalar text⟩
  mark anchor place
  return place

/-- Adds a collection. It has its place before what is in it, so that its own anchor may be used
within. -/
def addCollection (anchor : Option String) (tag : String) (build : Build Body) : Build Place := do
  checkAnchor anchor
  let place ← add ⟨tag, .sequence []⟩
  mark anchor place
  let body ← build
  modify fun s => { s with nodes := s.nodes.setIfInBounds place ⟨tag, body⟩ }
  return place

mutual

/-- A node. Block collections are taken only where `block` allows it, and entries without
indentation of their own only where `entries` does. -/
def readNode (block entries : Bool) : Nat → Build Place
  | 0 => throw .malformed
  | fuel + 1 => do
    match ← peek with
    | .alias name =>
      advance
      match (← get).anchors.lookup name with
      | some place => return place
      | none => throw .malformed
    | _ =>
      let p ← readProperties
      let tag ← p.tag.mapM fullTag
      match ← peek with
      | .blockEntry =>
        if entries then
          addCollection p.anchor (collectionTag seqTag tag) do
            return .sequence (← readLooseEntries fuel)
        else emptyOr p tag
      | .scalar text plain =>
        advance
        addScalar p.anchor (scalarTag tag plain text) text
      | .flowSequenceStart =>
        advance
        addCollection p.anchor (collectionTag seqTag tag) do
          return .sequence (← readFlowEntries true fuel)
      | .flowMappingStart =>
        advance
        addCollection p.anchor (collectionTag mapTag tag) do
          return .mapping (← readFlowPairs true fuel)
      | .blockSequenceStart =>
        if block then
          advance
          addCollection p.anchor (collectionTag seqTag tag) do
            return .sequence (← readBlockEntries fuel)
        else emptyOr p tag
      | .blockMappingStart =>
        if block then
          advance
          addCollection p.anchor (collectionTag mapTag tag) do
            return .mapping (← readBlockPairs fuel)
        else emptyOr p tag
      | _ => emptyOr p tag

def emptyOr (p : Properties) (tag : Option String) : Build Place := do
  if p.anchor.isNone && tag.isNone then throw .malformed
  addScalar p.anchor (emptyTag tag) []

def readUnless (ends : List Token) (block entries : Bool) : Nat → Build Place
  | 0 => throw .malformed
  | fuel + 1 => do
    if ← atAny ends then addEmpty else readNode block entries fuel

def readBlockEntries : Nat → Build (List Place)
  | 0 => throw .malformed
  | fuel + 1 => do
    if ← accept .blockEntry then
      let n ← readUnless [.blockEntry, .blockEnd] true false fuel
      return n :: (← readBlockEntries fuel)
    else
      expect .blockEnd
      return []

/-- Entries that are indented no further than the key before them. -/
def readLooseEntries : Nat → Build (List Place)
  | 0 => throw .malformed
  | fuel + 1 => do
    if ← accept .blockEntry then
      let n ← readUnless [.blockEntry, .key, .value, .blockEnd] true false fuel
      return n :: (← readLooseEntries fuel)
    else return []

def readBlockPairs : Nat → Build (List (Place × Place))
  | 0 => throw .malformed
  | fuel + 1 => do
    if ← accept .key then
      let k ← readUnless [.key, .value, .blockEnd] true true fuel
      let v ←
        if ← accept .value then readUnless [.key, .value, .blockEnd] true true fuel
        else addEmpty
      return (k, v) :: (← readBlockPairs fuel)
    else
      expect .blockEnd
      return []

def readFlowEntries (first : Bool) : Nat → Build (List Place)
  | 0 => throw .malformed
  | fuel + 1 => do
    if ← accept .flowSequenceEnd then return []
    else
      if !first then expect .flowEntry
      if ← accept .key then
        let k ← readUnless [.value, .flowEntry, .flowSequenceEnd] false false fuel
        let v ←
          if ← accept .value then
            readUnless [.flowEntry, .flowSequenceEnd] false false fuel
          else addEmpty
        let pair ← add ⟨mapTag, .mapping [(k, v)]⟩
        return pair :: (← readFlowEntries false fuel)
      else if ← accept .flowSequenceEnd then return []
      else
        let n ← readNode false false fuel
        return n :: (← readFlowEntries false fuel)

def readFlowPairs (first : Bool) : Nat → Build (List (Place × Place))
  | 0 => throw .malformed
  | fuel + 1 => do
    if ← accept .flowMappingEnd then return []
    else
      if !first then expect .flowEntry
      if ← accept .key then
        let k ← readUnless [.value, .flowEntry, .flowMappingEnd] false false fuel
        let v ←
          if ← accept .value then
            readUnless [.flowEntry, .flowMappingEnd] false false fuel
          else addEmpty
        return (k, v) :: (← readFlowPairs false fuel)
      else if ← accept .flowMappingEnd then return []
      else
        let k ← readNode false false fuel
        let v ← addEmpty
        return (k, v) :: (← readFlowPairs false fuel)

end

def defaultHandles : List (String × String) := [("!", "!"), ("!!", coreTag "")]

/-- Directives before a document: whether a version was set, and the handles. -/
def readDirectives (versioned : Bool) (handles : List (String × String)) : Nat → Build Unit
  | 0 => throw .malformed
  | fuel + 1 => do
    match ← peek with
    | .version major =>
      advance
      if versioned || major != 1 then throw .malformed
      readDirectives true handles fuel
    | .handle name meaning =>
      advance
      if (handles.lookup name).isSome then throw .malformed
      readDirectives versioned ((name, meaning) :: handles) fuel
    | .directive =>
      advance
      readDirectives versioned handles fuel
    | _ => modify fun s => { s with handles := handles ++ defaultHandles }

def atBoundary : Build Bool := do
  match ← peek with
  | .version _ | .handle _ _ | .directive | .documentStart | .documentEnd | .streamEnd =>
    return true
  | _ => return false

def skipEnds : Nat → Build Unit
  | 0 => throw .malformed
  | fuel + 1 => do if ← accept .documentEnd then skipEnds fuel

def startsBare : Token → Bool
  | .version _ | .handle _ _ | .directive | .documentStart | .streamEnd => false
  | _ => true

def readDocument (fuel : Nat) : Build (Option Place) := do
  let root ←
    if startsBare (← peek) then do
      modify fun s => { s with handles := defaultHandles }
      pure (some (← readNode true false fuel))
    else do
      skipEnds fuel
      if ← atAny [.streamEnd] then pure none
      else
        readDirectives false [] fuel
        expect .documentStart
        if ← atBoundary then pure (some (← addEmpty))
        else pure (some (← readNode true false fuel))
  if root.isSome then
    let _ ← accept .documentEnd
    skipEnds fuel
  expect .streamEnd
  return root

structure Document where
  root : Option Place
  nodes : Array Node

def Document.ofTokens (ts : List Token) : Except Error Document := do
  let (root, s) ← readDocument (4 * ts.length + 16) ⟨ts, #[], [], []⟩
  return ⟨root, s.nodes⟩

end AlertRelay.Yaml
