import NetIntent.Config.Basic

/-!
Configurations from YAML text and from the bytes of a file. The parser is a parameter: it gives the
document of a text, or none where the text is malformed.
-/

namespace NetIntent.Config

def ofYaml (parse : String → Option Document) (text : String) : Except ConfigError Config :=
  match parse text with
  | none => .error .parse
  | some d => load d

/-- The configuration in a file, given what reading the file at a path brought: its bytes, or the
reason why there are none. -/
def ofFile (parse : String → Option Document) (path : String) (content : Except String ByteArray) :
    Except ConfigError Config :=
  match content with
  | .error reason => .error (.unreadable path reason)
  | .ok bytes =>
    match String.fromUTF8? bytes with
    | none => .error (.unreadable path "stream did not contain valid UTF-8")
    | some text => ofYaml parse text

end NetIntent.Config
