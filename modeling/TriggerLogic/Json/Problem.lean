import TriggerLogic.Text.Quoted

namespace TriggerLogic.Json

inductive Found where
  | null
  | boolean (value : Bool)
  | integer (value : Int)
  | decimal (digits : String)
  | text (value : String)
  | sequence
  | map
  | bareVariant
deriving DecidableEq, Repr

def Found.describe : Found → String
  | null => "null"
  | boolean b => "boolean `" ++ (if b then "true" else "false") ++ "`"
  | integer n => "integer `" ++ toString n ++ "`"
  | decimal digits => "floating point `" ++ digits ++ "`"
  | text s => "string " ++ Text.quoted s
  | sequence => "sequence"
  | map => "map"
  | bareVariant => "unit variant"

inductive Mismatch where
  | wrongType (found : Found) (expected : String)
  | wrongValue (found : Found) (expected : String)
  | wrongLength (length : Nat) (expected : String)
  | unknownVariant (name : String) (known : List String)
  | duplicateField (name : String)
  | missingField (name : String)
deriving DecidableEq, Repr

namespace Mismatch

def ticked (name : String) : String :=
  "`" ++ name ++ "`"

def choice : List String → String
  | [a, b] => ticked a ++ " or " ++ ticked b
  | names => "one of " ++ ", ".intercalate (names.map ticked)

def message : Mismatch → String
  | wrongType found expected => "invalid type: " ++ found.describe ++ ", expected " ++ expected
  | wrongValue found expected => "invalid value: " ++ found.describe ++ ", expected " ++ expected
  | wrongLength n expected => "invalid length " ++ toString n ++ ", expected " ++ expected
  | unknownVariant name known => "unknown variant " ++ ticked name ++ ", expected " ++ choice known
  | duplicateField name => "duplicate field " ++ ticked name
  | missingField name => "missing field " ++ ticked name

end Mismatch

inductive Problem where
  | malformed
  | endOfText
  | mismatch (mismatch : Mismatch)
deriving DecidableEq, Repr

def Problem.category : Problem → String
  | malformed => "syntax"
  | endOfText => "eof"
  | mismatch _ => "data"

abbrev Result := Except Problem

abbrev Reader (α : Type) := List Char → Result (α × List Char)

end TriggerLogic.Json
