import GameConfig.Json.Writer
import GameConfig.Unicode.Visibility

/-!
# Messages

How errors in a text are worded.  A text that is quoted in a message has its quotation marks,
backslashes and all characters that cannot be seen escaped.
-/

namespace GameConfig
namespace Json

open Number

/-!
# Quoting for readers
-/

def isVisible (c : Char) : Bool :=
  !Unicode.invisible.contains c.toNat

def shown (c : Char) : List Char :=
  match c with
  | '"' => ['\\', '"']
  | '\\' => ['\\', '\\']
  | '\n' => ['\\', 'n']
  | '\r' => ['\\', 'r']
  | '\t' => ['\\', 't']
  | '\x00' => ['\\', '0']
  | c =>
      if isVisible c then [c]
      else '\\' :: 'u' :: '{' :: (Nat.toDigits 16 c.toNat ++ ['}'])

def quotedForReaders (s : String) : String :=
  String.ofList ('"' :: (s.toList.flatMap shown ++ ['"']))

/-!
# Wording
-/

def inTicks (text : List Char) : String :=
  "`" ++ String.ofList text ++ "`"

def Found.describe : Found → String
  | .null => "null"
  | .boolean b => "boolean " ++ inTicks (booleanText b)
  | .integer n => "integer " ++ inTicks (integerText n)
  | .float x => "floating point " ++ inTicks (floatText x)
  | .string s => "string " ++ quotedForReaders s
  | .sequence => "sequence"
  | .map => "map"

def Expected.describe : Expected → String
  | .savedGame => "struct GameState"
  | .map => "a map"
  | .boolean => "a boolean"
  | .integer => "i64"
  | .string => "a string"
  | .sequence => "a sequence"

def Reason.describe : Reason → String
  | .endInValue => "EOF while parsing a value"
  | .endInList => "EOF while parsing a list"
  | .endInObject => "EOF while parsing an object"
  | .endInString => "EOF while parsing a string"
  | .expectedWord => "expected ident"
  | .expectedValue => "expected value"
  | .expectedColon => "expected `:`"
  | .expectedListEnd => "expected `,` or `]`"
  | .expectedObjectEnd => "expected `,` or `\x7d`"
  | .keyNotString => "key must be a string"
  | .trailingComma => "trailing comma"
  | .trailingCharacters => "trailing characters"
  | .controlCharacter =>
      "control character (\\u0000-\\u001F) found while parsing a string"
  | .invalidEscape => "invalid escape"
  | .loneSurrogate => "lone leading surrogate in hex escape"
  | .endOfHexEscape => "unexpected end of hex escape"
  | .invalidNumber => "invalid number"
  | .numberOutOfRange => "number out of range"
  | .nestedTooDeep => "recursion limit exceeded"
  | .invalidType found expected =>
      "invalid type: " ++ found.describe ++ ", expected " ++ expected.describe
  | .invalidValue found expected =>
      "invalid value: " ++ found.describe ++ ", expected " ++ expected.describe
  | .duplicateField name => "duplicate field `" ++ name ++ "`"

def naturalText (n : Nat) : String :=
  String.ofList (Nat.toDigits 10 n)

def Error.message (error : Error) : String :=
  error.reason.describe ++ " at line " ++ naturalText error.place.line ++
    " column " ++ naturalText error.place.column

end Json
end GameConfig
