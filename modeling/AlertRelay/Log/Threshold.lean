import AlertRelay.Log.Entry

namespace AlertRelay.Log

inductive TakenName where
  | format
  | styles
  deriving DecidableEq, Repr

def TakenName.message : TakenName → String
  | .format => "Unknown level: '%(levelname)s:%(name)s:%(message)s'"
  | .styles =>
    "Level not an integer or a valid string: " ++
      "\x7b'%': (<class 'logging.PercentStyle'>, '%(levelname)s:%(name)s:%(message)s'), " ++
      "'\x7b': (<class 'logging.StrFormatStyle'>, " ++
      "'\x7blevelname\x7d:\x7bname\x7d:\x7bmessage\x7d'), " ++
      "'$': (<class 'logging.StringTemplateStyle'>, " ++
      "'$\x7blevelname\x7d:$\x7bname\x7d:$\x7bmessage\x7d')\x7d"

/-- Capitals for the letters that occur in names: those of English, the two letters that have
one of these as their capital, and the ligatures of s and t. -/
def capital (c : Char) : List Char :=
  if c.toNat == 0x131 then ['I']
  else if c.toNat == 0x17F then ['S']
  else if c.toNat == 0xFB05 || c.toNat == 0xFB06 then ['S', 'T']
  else [c.toUpper]

def capitals (s : String) : String := String.ofList (s.toList.flatMap capital)

def levelCodes : List (String × Nat) :=
  [("CRITICAL", 50), ("FATAL", 50), ("ERROR", 40), ("WARNING", 30), ("WARN", 30), ("INFO", 20),
    ("DEBUG", 10), ("NOTSET", 0)]

def takenNames : List (String × TakenName) := [("BASIC_FORMAT", .format), ("_STYLES", .styles)]

def thresholdNamed (name : String) : Except TakenName Nat :=
  let name := capitals name
  match takenNames.lookup name with
  | some t => .error t
  | none => .ok ((levelCodes.lookup name).getD Level.info.code)

end AlertRelay.Log
