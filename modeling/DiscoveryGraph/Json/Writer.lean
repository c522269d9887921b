import DiscoveryGraph.Json.Value
import DiscoveryGraph.Text.Hex

/-! Written JSON, without blanks. Quotes, backslashes and control characters are escaped, all
other characters stand for themselves. What cannot be read is written as `null`. -/
namespace DiscoveryGraph.Json

/-- A character inside a string. -/
def escape (c : Char) : List Char :=
  if c = '"' then ['\\', '"']
  else if c = '\\' then ['\\', '\\']
  else if c.toNat < 0x20 then
    ['\\', 'u', '0', '0', Text.Hex.digit (c.toNat / 16), Text.Hex.digit (c.toNat % 16)]
  else [c]

def quote (text : String) : List Char := '"' :: (text.toList.flatMap escape ++ ['"'])

mutual

/-- The text of a value. -/
def write : Json → List Char
  | .null | .unreadable => "null".toList
  | .bool value => (if value then "true" else "false").toList
  | .int value => (toString value).toList
  | .decimal spelling => spelling.toList
  | .string text => quote text
  | .array items => '[' :: writeItems items
  | .object fields => '\x7b' :: writeFields fields

/-- The items of an array and its closing bracket. -/
def writeItems : List Json → List Char
  | [] => [']']
  | [item] => write item ++ [']']
  | item :: items => write item ++ ',' :: writeItems items

/-- The fields of an object and its closing brace. -/
def writeFields : List (String × Json) → List Char
  | [] => ['\x7d']
  | [(name, value)] => quote name ++ ':' :: (write value ++ ['\x7d'])
  | (name, value) :: fields => quote name ++ ':' :: (write value ++ ',' :: writeFields fields)

end

def render (value : Json) : String := String.ofList value.write

end DiscoveryGraph.Json
