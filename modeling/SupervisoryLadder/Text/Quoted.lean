import SupervisoryLadder.Text.Invisible

/-!
# Quoted text

Messages show arbitrary text between double quotes. The quote and the backslash get a backslash, the
four usual control characters have a letter, and any other character without a visible form is given
by its code point in lower-case hexadecimal digits.
-/

namespace SupervisoryLadder.Text

/-- True for a character that quoted text gives by its code point. -/
def isHidden (character : Char) : Bool :=
  let code := character.toNat
  if code < 0x80 then code < 0x20 || code == 0x7f else isInvisible code

/-- The form of one character in quoted text. -/
def encodeCharacter (character : Char) : List Char :=
  if character = '"' then ['\\', '"']
  else if character = '\\' then ['\\', '\\']
  else if character = '\n' then ['\\', 'n']
  else if character = '\r' then ['\\', 'r']
  else if character = '\t' then ['\\', 't']
  else if character = '\x00' then ['\\', '0']
  else if isHidden character then
    ['\\', 'u', '\x7b'] ++ Nat.toDigits 16 character.toNat ++ ['\x7d']
  else [character]

/-- The text between double quotes. -/
def quote (text : String) : String :=
  String.ofList ('"' :: text.toList.flatMap encodeCharacter ++ ['"'])

end SupervisoryLadder.Text
