import TriggerLogic.Json.FilterConfig
import TriggerLogic.Yaml.FilterConfig

/-! Configuration files: JSON where the name ends in `.json`, YAML everywhere else. -/

namespace TriggerLogic

inductive ConfigError where
  | json (problem : Json.Problem)
  | yaml
  | noFile
  | notText
deriving DecidableEq, Repr

def ConfigError.fileMessage : ConfigError → Option String
  | noFile => some "I/O error: No such file or directory (os error 2)"
  | notText => some "I/O error: stream did not contain valid UTF-8"
  | _ => none

inductive ConfigFormat where
  | json
  | yaml
deriving DecidableEq, Repr

namespace ConfigFormat

def extension? (name : List Char) : Option (List Char) :=
  let behind := name.reverse.takeWhile (· ≠ '.')
  match name.reverse.dropWhile (· ≠ '.') with
  | [] | ['.'] => none
  | _ => if name = ['.', '.'] then none else some behind.reverse

def ofFileName (name : String) : ConfigFormat :=
  if extension? name.toList = some ['j', 's', 'o', 'n'] then json else yaml

end ConfigFormat

namespace FilterConfig

def ofText (format : ConfigFormat) (text : String) : Except ConfigError FilterConfig :=
  match format with
  | .json => (ofJson text).mapError .json
  | .yaml => (ofYaml text).elim (.error .yaml) .ok

def ofFile (name : String) (content : Option ByteArray) : Except ConfigError FilterConfig :=
  match content with
  | none => .error .noFile
  | some bytes =>
    match String.fromUTF8? bytes with
    | none => .error .notText
    | some text => ofText (.ofFileName name) text

end FilterConfig

end TriggerLogic
