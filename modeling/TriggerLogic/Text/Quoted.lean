import TriggerLogic.Text.Printable

namespace TriggerLogic.Text

def codePoint (c : Char) : String :=
  "\\u\x7b" ++ String.ofList (Nat.toDigits 16 c.toNat) ++ "\x7d"

def escape (quote c : Char) : String :=
  if c = '\x00' then "\\0"
  else if c = '\t' then "\\t"
  else if c = '\r' then "\\r"
  else if c = '\n' then "\\n"
  else if c = '\\' || c = quote then String.ofList ['\\', c]
  else if isPrintable c then c.toString
  else codePoint c

def quotedChar (c : Char) : String :=
  "'" ++ escape '\'' c ++ "'"

def quoted (s : String) : String :=
  "\"" ++ String.join (s.toList.map (escape '"')) ++ "\""

end TriggerLogic.Text
