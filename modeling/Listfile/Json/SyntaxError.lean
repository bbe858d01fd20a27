set_option autoImplicit false

/-! What can be wrong with a JSON text, and where. A position is a line, counted from one, and a column:
the number of bytes since the last line feed before it. -/

namespace Listfile.Json

inductive Fault where
  | endInValue
  | endInArray
  | endInObject
  | endInString
  | expectedValue
  | expectedWord
  | expectedColon
  | expectedCommaOrBracket
  | expectedCommaOrBrace
  | invalidNumber
  | numberTooLarge
  | keyNotString
  | trailingComma
  | trailingCharacters
  | invalidEscape
  | controlCharacter
  | loneSurrogate
  | brokenSurrogatePair
  | nestedTooDeep
  deriving DecidableEq, Repr

def Fault.message : Fault → String
  | .endInValue => "EOF while parsing a value"
  | .endInArray => "EOF while parsing a list"
  | .endInObject => "EOF while parsing an object"
  | .endInString => "EOF while parsing a string"
  | .expectedValue => "expected value"
  | .expectedWord => "expected ident"
  | .expectedColon => "expected `:`"
  | .expectedCommaOrBracket => "expected `,` or `]`"
  | .expectedCommaOrBrace => "expected `,` or `\x7d`"
  | .invalidNumber => "invalid number"
  | .numberTooLarge => "number out of range"
  | .keyNotString => "key must be a string"
  | .trailingComma => "trailing comma"
  | .trailingCharacters => "trailing characters"
  | .invalidEscape => "invalid escape"
  | .controlCharacter => "control character (\\u0000-\\u001F) found while parsing a string"
  | .loneSurrogate => "lone leading surrogate in hex escape"
  | .brokenSurrogatePair => "unexpected end of hex escape"
  | .nestedTooDeep => "recursion limit exceeded"

structure SyntaxError where
  fault : Fault
  line : Nat
  column : Nat
  deriving DecidableEq, Repr

def SyntaxError.message (error : SyntaxError) : String :=
  error.fault.message ++ " at line " ++ Nat.repr error.line ++ " column " ++ Nat.repr error.column

def SyntaxError.after (fault : Fault) (bytes : List UInt8) : SyntaxError :=
  ⟨fault, bytes.count 10 + 1, (bytes.reverse.takeWhile (· ≠ 10)).length⟩

end Listfile.Json
