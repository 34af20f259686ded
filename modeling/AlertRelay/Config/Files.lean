import AlertRelay.Text.Split

namespace AlertRelay.Config

open AlertRelay.Text

inductive Found where
  | nothing
  | directory
  | file (text : String)
  /-- The path, or a part of it that would have to be looked up, is too long. -/
  | tooLong
  deriving DecidableEq, Repr

abbrev Files := String → Found

/-- The parts of a path, without empty ones and those that stay in place. -/
def pathParts (path : String) : List String :=
  ((splitAt '/' path.toList).map String.ofList).filter fun p => p != "" && p != "."

/-- The slashes at the head of a path, of which two count as they are and more as one. -/
def pathRoot (path : String) : String :=
  match (path.toList.takeWhile (· == '/')).length with
  | 0 => ""
  | 2 => "//"
  | _ => "/"

def plainPath (path : String) : String :=
  let s := pathRoot path ++ "/".intercalate (pathParts path)
  if s == "" then "." else s

def backPart : String := ".."

def partLimit : Nat := 255

def pathLimit : Nat := 4095

abbrev Tree := List (List String × String)

inductive Directory where
  | inside (names : List String)
  /-- Some directory outside of the working directory. Of what is in it nothing is known. -/
  | outside

def Directory.parent : Directory → Directory
  | .inside [] => .outside
  | .inside names => .inside names.dropLast
  | .outside => .outside

namespace Tree

def hasDirectory (t : Tree) (names : List String) : Bool :=
  names.isEmpty || t.any fun f => names.isPrefixOf f.1 && names != f.1

def lookUp (t : Tree) (names : List String) : Found :=
  match t.lookup names with
  | some text => .file text
  | none => if t.hasDirectory names then .directory else .nothing

def follow (t : Tree) (d : Directory) : List String → Found
  | [] => .directory
  | p :: rest =>
    if p == backPart then follow t d.parent rest
    else if partLimit < p.utf8ByteSize then .tooLong
    else
      match d with
      | .outside => .nothing
      | .inside names =>
        match t.lookUp (names ++ [p]), rest with
        | .directory, rest => follow t (.inside (names ++ [p])) rest
        | found, [] => found
        | _, _ => .nothing

/-- What a path leads to. No path holds the zero character. -/
def find (t : Tree) : Files := fun path =>
  if path.toList.contains '\x00' then .nothing
  else if pathLimit < (plainPath path).utf8ByteSize then .tooLong
  else t.follow (if pathRoot path == "" then .inside [] else .outside) (pathParts path)

def addPart (names : List String) (part : String) : List String :=
  if part == backPart then names.dropLast else names ++ [part]

def write (t : Tree) (path text : String) : Tree :=
  let names := (pathParts path).foldl addPart []
  (names, text) :: t.filter fun f => f.1 != names

end Tree

end AlertRelay.Config
