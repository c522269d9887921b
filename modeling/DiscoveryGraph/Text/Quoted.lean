import DiscoveryGraph.Text.Invisible

/-! Text in quotes as it is shown for inspection: a quote, a backslash and the common controls
are escaped by a letter, and characters that would not show by their number. -/
namespace DiscoveryGraph.Text.Quoted

/-- The hexadecimal digits of a number, without leading zeros. -/
def hexDigits (n : Nat) : List Char := Nat.toDigits 16 n

/-- A character by its number. -/
def numbered (c : Char) : List Char := ['\\', 'u', '\x7b'] ++ hexDigits c.toNat ++ ['\x7d']

/-- A character inside quotes. -/
def shown (c : Char) : List Char :=
  if c = '\x00' then ['\\', '0']
  else if c = '\t' then ['\\', 't']
  else if c = '\r' then ['\\', 'r']
  else if c = '\n' then ['\\', 'n']
  else if c = '\\' then ['\\', '\\']
  else if c = '"' then ['\\', '"']
  else if isInvisible c then numbered c
  else [c]

def ofText (text : String) : String :=
  String.ofList ('"' :: (text.toList.flatMap shown ++ ['"']))

end DiscoveryGraph.Text.Quoted
