import AlertRelay.Alert.Level
import AlertRelay.Delivery.Service
import AlertRelay.Text.Digit
import AlertRelay.Text.Quoted

namespace AlertRelay.Command

open AlertRelay.Alert AlertRelay.Delivery AlertRelay.Text AlertRelay.Validation

inductive Opt where
  | help
  | config
  | logLevel
  | alertId
  | source
  | level
  | message
  deriving DecidableEq, Repr

def optNames : List (String × Opt) :=
  [("-h", .help), ("--help", .help), ("--config", .config), ("--log-level", .logLevel),
    ("--alert-id", .alertId), ("--source", .source), ("--level", .level), ("--message", .message)]

def Opt.title (o : Opt) : String :=
  "/".intercalate ((optNames.filter fun n => n.2 == o).map Prod.fst)

inductive Misuse where
  | ambiguous (arg : String) (names : List String)
  | ignoredValue (o : Opt) (value : String)
  | missingValue (o : Opt)
  | badLevel (value : String)
  | unrecognized (args : List String)
  deriving DecidableEq, Repr

def Misuse.message : Misuse → String
  | .ambiguous arg names =>
    "ambiguous option: " ++ arg ++ " could match " ++ ", ".intercalate names
  | .ignoredValue o value =>
    "argument " ++ o.title ++ ": ignored explicit argument " ++ quoted value
  | .missingValue o => "argument " ++ o.title ++ ": expected one argument"
  | .badLevel value =>
    "argument " ++ Opt.title .level ++ ": invalid choice: " ++ quoted value ++ " (choose from " ++
      ", ".intercalate (Level.all.map fun l => quoted l.name) ++ ")"
  | .unrecognized args => "unrecognized arguments: " ++ " ".intercalate args

inductive OptValue (α : Type) where
  | one (a : α)
  | nothing
  deriving DecidableEq, Repr

namespace OptValue

variable {α : Type}

def get? : OptValue α → Option α
  | .one a => some a
  | .nothing => none

def ofText (s : String) : OptValue String := if s == "--" then .nothing else .one s

def check : OptValue String → Checked String
  | .one s => .ok s
  | .nothing => .complain .text

end OptValue

structure Arguments where
  config : Option (OptValue String)
  logLevel : Option (OptValue String)
  id : OptValue String
  source : OptValue String
  level : OptValue Level
  message : OptValue String
  deriving DecidableEq, Repr

inductive Unfit where
  | noLevel
  | invalid (ps : List Problem)
  deriving DecidableEq, Repr

def Unfit.message : Unfit → String
  | .noLevel => "unhashable type: 'list'"
  | .invalid _ => "AlertTestOptions"

namespace Arguments

def default : Arguments :=
  let o := TestOptions.default
  ⟨none, none, .one o.id, .one o.source, .one o.level, .one o.message⟩

def path (a : Arguments) : Option String := a.config.bind OptValue.get?

def threshold (a : Arguments) : Option String := a.logLevel.bind OptValue.get?

/-- The options of the alert. That there is no level is found before anything else. -/
def options (a : Arguments) : Except Unfit TestOptions :=
  match a.level with
  | .nothing => .error .noLevel
  | .one level =>
    let options : Checked TestOptions :=
      TestOptions.mk <$> a.id.check.within "alert_id" <*> a.source.check.within "source"
        <*> pure level <*> a.message.check.within "message"
    match options with
    | .ok o => .ok o
    | .problems ps => .error (.invalid ps)

end Arguments

inductive Word where
  | plain (s : String)
  | option (o : Opt) (value : Option String)
  | row (letters : List Char)
  | unknown (s : String)
  deriving DecidableEq, Repr

/-- Digits with an optional point among them, after a minus; a line feed may follow. -/
def looksNegative (cs : List Char) : Bool :=
  let cs := if cs.getLast? == some '\n' then cs.dropLast else cs
  match cs with
  | '-' :: r =>
    match r.dropWhile isDigit with
    | [] => !r.isEmpty
    | '.' :: fraction => !fraction.isEmpty && fraction.all isDigit
    | _ => false
  | _ => false

def splitValue (cs : List Char) : List Char × Option (List Char) :=
  match cs.dropWhile (· != '=') with
  | [] => (cs, none)
  | _ :: value => (cs.takeWhile (· != '='), some value)

def wordOf (arg : String) : Except Misuse Word :=
  let cs := arg.toList
  let (name, value) := splitValue cs
  if cs.head? != some '-' then .ok (.plain arg)
  else
    match optNames.lookup arg with
    | some o => .ok (.option o none)
    | none =>
      if cs.length == 1 then .ok (.plain arg)
      else
        match optNames.lookup (String.ofList name), startsWith ['-', '-'] cs with
        | some o, true => .ok (.option o (value.map String.ofList))
        | some _, false => .ok (.row (value.getD []))
        | none, true =>
          match optNames.filter fun n => startsWith name n.1.toList with
          | [] => .ok (other arg)
          | [(_, o)] => .ok (.option o (value.map String.ofList))
          | ns => .error (.ambiguous arg (ns.map Prod.fst))
        | none, false =>
          if startsWith ['-', 'h'] cs then .ok (.row (cs.drop 2)) else .ok (other arg)
where
  other (arg : String) : Word :=
    if looksNegative arg.toList || arg.toList.contains ' ' then .plain arg else .unknown arg

/-- The words for some arguments. After two dashes on their own nothing counts as an option. -/
def wordsOf : List String → Except Misuse (List Word)
  | [] => .ok []
  | arg :: rest =>
    if arg == "--" then .ok ((arg :: rest).map Word.unknown)
    else do
      let w ← wordOf arg
      let ws ← wordsOf rest
      return w :: ws

def rowRest? : List Char → Option (List Char)
  | ['h'] => none
  | 'h' :: r => rowRest? r
  | r => some r

def levelOfText (s : String) : Except Misuse (OptValue Level) :=
  match OptValue.ofText s with
  | .nothing => .ok .nothing
  | .one name =>
    match Level.ofName? name with
    | some l => .ok (.one l)
    | none => .error (.badLevel name)

def setOption (a : Arguments) (o : Opt) (s : String) : Except Misuse Arguments :=
  let value := OptValue.ofText s
  match o with
  | .help => .error (.ignoredValue .help s)
  | .config => .ok { a with config := some value }
  | .logLevel => .ok { a with logLevel := some value }
  | .alertId => .ok { a with id := value }
  | .source => .ok { a with source := value }
  | .level => (levelOfText s).map fun level => { a with level }
  | .message => .ok { a with message := value }

inductive Asked where
  | help
  | send (a : Arguments)
  deriving DecidableEq, Repr

/-- Reads words in turn; `extra` are those that found no place, latest first. -/
def readWords (a : Arguments) (extra : List String) : List Word → Except Misuse Asked
  | [] => if extra.isEmpty then .ok (.send a) else .error (.unrecognized extra.reverse)
  | .plain s :: rest => readWords a (s :: extra) rest
  | .unknown s :: rest => readWords a (s :: extra) rest
  | .row letters :: _ =>
    match rowRest? letters with
    | some value => .error (.ignoredValue .help (String.ofList value))
    | none => .ok .help
  | .option o (some value) :: rest =>
    match setOption a o value with
    | .ok a => readWords a extra rest
    | .error e => .error e
  | .option .help none :: _ => .ok .help
  | .option o none :: .plain value :: rest =>
    match setOption a o value with
    | .ok a => readWords a extra rest
    | .error e => .error e
  | .option o none :: _ => .error (.missingValue o)

def readArguments (args : List String) : Except Misuse Asked :=
  (wordsOf args).bind (readWords .default [])

end AlertRelay.Command
