import SensorGateway.Decimal.Shortest
import SensorGateway.Json.Value
import SensorGateway.Text.Quoted

/-!
What can be wrong with a document, and where. A `Fault` counts the bytes that were not yet
read, which together with the document gives the line and the column.
-/

namespace SensorGateway.Json

inductive Breach where
  | endInValue
  | endInList
  | endInObject
  | endInText
  | noValue
  | badLiteral
  | badNumber
  | numberTooLarge
  | keyNotText
  | noColon
  | noCommaOrBracket
  | noCommaOrBrace
  | trailingComma
  | trailingCharacters
  | badEscape
  | controlCharacter
  | loneSurrogate
  | unfinishedSurrogate
  | tooDeep
  deriving DecidableEq, Repr

def Breach.message : Breach → String
  | .endInValue => "EOF while parsing a value"
  | .endInList => "EOF while parsing a list"
  | .endInObject => "EOF while parsing an object"
  | .endInText => "EOF while parsing a string"
  | .noValue => "expected value"
  | .badLiteral => "expected ident"
  | .badNumber => "invalid number"
  | .numberTooLarge => "number out of range"
  | .keyNotText => "key must be a string"
  | .noColon => "expected `:`"
  | .noCommaOrBracket => "expected `,` or `]`"
  | .noCommaOrBrace => "expected `,` or `\x7d`"
  | .trailingComma => "trailing comma"
  | .trailingCharacters => "trailing characters"
  | .badEscape => "invalid escape"
  | .controlCharacter => "control character (\\u0000-\\u001F) found while parsing a string"
  | .loneSurrogate => "lone leading surrogate in hex escape"
  | .unfinishedSurrogate => "unexpected end of hex escape"
  | .tooDeep => "recursion limit exceeded"

/-- Whether the document ended too early. -/
def Breach.isEnd : Breach → Bool
  | .endInValue | .endInList | .endInObject | .endInText => true
  | _ => false

/-- What a reader of typed data came upon. -/
inductive Found where
  | null
  | boolean (b : Bool)
  | number (n : Number)
  | text (cs : List Char)
  | list
  | object
  deriving DecidableEq, Repr

def Number.describe : Number → String
  | .natural n => "integer `" ++ toString n ++ "`"
  | .negative n => "integer `-" ++ toString n ++ "`"
  | .real minus magnitude =>
    "floating point `" ++ (if minus then "-" else "") ++
      String.ofList magnitude.shortest.render ++ "`"

def Found.describe : Found → String
  | .null => "null"
  | .boolean b => "boolean `" ++ (if b then "true" else "false") ++ "`"
  | .number n => n.describe
  | .text cs => "string " ++ Text.quoted (String.ofList cs)
  | .list => "sequence"
  | .object => "map"

/-- What a reader of typed data would have accepted. -/
inductive Expected where
  | text
  | boolean
  | list
  | unit
  /-- A natural number that fits a word; the name says which. -/
  | word (name : String)
  | uuid
  | record (name : String)
  /-- A list with one item for each field of a record. -/
  | fields (name : String) (count : Nat)
  deriving DecidableEq, Repr

def Expected.describe : Expected → String
  | .text => "a string"
  | .boolean => "a boolean"
  | .list => "a sequence"
  | .unit => "unit"
  | .word name => name
  | .uuid => "a formatted UUID string"
  | .record name => "struct " ++ name
  | .fields name count =>
    "struct " ++ name ++ " with " ++ toString count ++
      (if count = 1 then " element" else " elements")

/-- Data in good grammar that is not of the type asked for. -/
inductive Mismatch where
  | wrongType (found : Found) (expected : Expected)
  | outOfRange (found : Number) (expected : Expected)
  | wrongLength (found : Nat) (expected : Expected)
  | missingField (name : String)
  | duplicateField (name : String)
  | unknownField (name : List Char) (known : List String)
  | unknownVariant (name : List Char) (known : List String)
  /-- A text of the right type that names nothing. -/
  | refused (reason : String)
  deriving DecidableEq, Repr

/-- Names in back quotes: two joined by `or`, more as a list. -/
def alternatives (names : List String) : String :=
  match names.map fun name => "`" ++ name ++ "`" with
  | [a, b] => a ++ " or " ++ b
  | quoted => "one of " ++ String.intercalate ", " quoted

def Mismatch.message : Mismatch → String
  | .wrongType found expected =>
    "invalid type: " ++ found.describe ++ ", expected " ++ expected.describe
  | .outOfRange found expected =>
    "invalid value: " ++ found.describe ++ ", expected " ++ expected.describe
  | .wrongLength found expected =>
    "invalid length " ++ toString found ++ ", expected " ++ expected.describe
  | .missingField name => "missing field `" ++ name ++ "`"
  | .duplicateField name => "duplicate field `" ++ name ++ "`"
  | .unknownField name known =>
    "unknown field `" ++ String.ofList name ++ "`, expected " ++ alternatives known
  | .unknownVariant name known =>
    "unknown variant `" ++ String.ofList name ++ "`, expected " ++ alternatives known
  | .refused reason => reason

inductive Problem where
  | grammar (breach : Breach)
  | data (mismatch : Mismatch)
  deriving DecidableEq, Repr

def Problem.message : Problem → String
  | .grammar breach => breach.message
  | .data mismatch => mismatch.message

/-- A problem and the number of bytes that were not yet read when it was found. -/
structure Fault where
  problem : Problem
  unread : Nat
  deriving DecidableEq, Repr

def byteLength (cs : List Char) : Nat :=
  cs.foldr (fun c bytes => c.utf8Size + bytes) 0

namespace Fault

/-- A breach found when all of the document had been read. -/
def atEnd (breach : Breach) : Fault :=
  ⟨.grammar breach, 0⟩

def before (breach : Breach) (rest : List Char) : Fault :=
  ⟨.grammar breach, byteLength rest⟩

/-- A breach shown by the first byte of the given rest. -/
def shownBy (breach : Breach) (rest : List Char) : Fault :=
  ⟨.grammar breach, byteLength rest - 1⟩

def mismatch (found : Mismatch) (rest : List Char) : Fault :=
  ⟨.data found, byteLength rest⟩

end Fault

/-- A line, counted from one, and the number of bytes read of it. -/
structure Position where
  line : Nat
  column : Nat
  deriving DecidableEq, Repr

/-- The position after so many bytes of a text that starts at the given position. -/
def Position.advance (start : Position) : (bytes : Nat) → List Char → Position
  | 0, _ => start
  | _, [] => start
  | bytes, c :: cs =>
    if c = '\n' then advance ⟨start.line + 1, 0⟩ (bytes - 1) cs
    else if bytes ≤ c.utf8Size then ⟨start.line, start.column + bytes⟩
    else advance ⟨start.line, start.column + c.utf8Size⟩ (bytes - c.utf8Size) cs

def Fault.position (fault : Fault) (document : List Char) : Position :=
  Position.advance ⟨1, 0⟩ (byteLength document - fault.unread) document

def Fault.describe (fault : Fault) (document : List Char) : String :=
  let place := fault.position document
  fault.problem.message ++ " at line " ++ toString place.line ++
    " column " ++ toString place.column

end SensorGateway.Json
