import ChainProfile.Log.Level
import ChainProfile.Log.Calendar

/-! Log records and the two forms of a line. A text line may start with the time; a JSON line has its
members in the order of their names. -/

namespace ChainProfile.Log

structure Record where
  stamp : UInt64
  level : Level
  target : String
  context : Option String
  message : String
  deriving DecidableEq, Repr

namespace Record

def text (r : Record) (time : Option String) : String :=
  let start := match time with
    | some time => time ++ " "
    | none => ""
  let tag := match r.context with
    | some context => " [" ++ context ++ "]"
    | none => ""
  start ++ r.level.label ++ tag ++ " " ++ r.target ++ ": " ++ r.message

def hexDigit (n : Nat) : Char := Nat.digitChar n

def escape (c : Char) : List Char :=
  if c = '"' then ['\\', '"']
  else if c = '\\' then ['\\', '\\']
  else if c.toNat = 0x08 then ['\\', 'b']
  else if c.toNat = 0x09 then ['\\', 't']
  else if c.toNat = 0x0a then ['\\', 'n']
  else if c.toNat = 0x0c then ['\\', 'f']
  else if c.toNat = 0x0d then ['\\', 'r']
  else if c.toNat < 0x20 then
    ['\\', 'u', '0', '0', hexDigit (c.toNat / 16), hexDigit (c.toNat % 16)]
  else [c]

def quoted (s : String) : String := String.ofList ('"' :: s.toList.flatMap escape ++ ['"'])

def json (r : Record) : String :=
  let context := match r.context with
    | some context => quoted context
    | none => "null"
  "\x7b\"ctx\":" ++ context ++ ",\"level\":" ++ quoted r.level.label ++
    ",\"msg\":" ++ quoted r.message ++ ",\"target\":" ++ quoted r.target ++
    ",\"ts_ms\":" ++ toString r.stamp.toNat ++ "\x7d"

end Record

end ChainProfile.Log
