import LogAnalysis.Json.Reader
import LogAnalysis.Pattern.Fault
import LogAnalysis.Query.Fault
import LogAnalysis.Text.Utf8

/-!
Everything for which an operation can stop without a result.

`Unacceptable` holds the values that an operation understands and refuses; the other causes of `Fault` say
that it was given something of the wrong kind, that something is missing, or that a text could not be read.
-/

namespace LogAnalysis

inductive Unacceptable
  | integer (fault : Numeral.IntegerFault)
  | notANumber
  | json (fault : Json.Fault)
  | shortYear (written : String)
  | mergeStrategy (shown : String)
  | sizes
  | logLevel (name : String)
  | chunkSize
  | pageSize
  | nodeType (shown : String)
  | requestType (name : String)
  | fieldType (shown : String)
  | sampleLimit
  | alphabets
  | scalar (reason : String)
  | encoding (fault : Text.Utf8.Fault)
  | nullInPath
deriving Repr, DecidableEq

def Unacceptable.message : Unacceptable → String
  | integer fault => fault.message
  | notANumber => "cannot convert float NaN to integer"
  | json fault =>
    match fault.problem with
    | .tooLong _ => fault.message
    | _ => "Invalid JSON file: " ++ fault.message
  | shortYear written => s!"time data '{written}' does not match format '%Y-%m-%dT%H:%M:%S.%fZ'"
  | mergeStrategy shown =>
    s!"Invalid merge strategy {shown}; expected one of: last-wins, first-wins, merge"
  | sizes => "chunk_size and page_size must be positive"
  | logLevel name => "Invalid log level " ++ Text.quoted name
  | chunkSize => "chunk_size must be positive"
  | pageSize => "per_page must be positive"
  | nodeType shown => "Unknown query node type: " ++ shown
  | requestType name => "Unknown request type: " ++ name
  | fieldType shown => s!"{shown} is not a valid FieldType"
  | sampleLimit => "maxlen must be non-negative"
  | alphabets => "ASCII and UNICODE flags are incompatible"
  | scalar reason => reason
  | encoding fault => fault.message
  | nullInPath => "embedded null byte"

inductive Fault
  | unacceptable (cause : Unacceptable)
  | wrongKind
  | noSuchPart
  | missingKey (shown : String)
  | tooLarge
  | emptyScalar
  | noFile (path : String)
  | noFiles
  | isFolder (path : String)
  | notFolder (path : String)
  | bareLineBreak
  | fieldTooLong
  | query (fault : Query.Fault)
  | pattern (source : String) (fault : Pattern.Fault)
deriving Repr, DecidableEq

def Fault.message : Fault → String
  | unacceptable cause => cause.message
  | wrongKind | noSuchPart | tooLarge | emptyScalar => ""
  | missingKey shown => shown
  | noFile path => "File not found: " ++ path
  | noFiles => "No log files found matching the given paths"
  | isFolder path => "[Errno 21] Is a directory: " ++ Text.quoted path
  | notFolder path => "[Errno 20] Not a directory: " ++ Text.quoted path
  | bareLineBreak =>
    "new-line character seen in unquoted field - " ++
      "do you need to open the file in universal-newline mode?"
  | fieldTooLong => "field larger than field limit (131072)"
  | query fault => fault.message
  | pattern source fault => s!"Invalid pattern {Text.quoted source}: {fault.message}"

abbrev Outcome (α : Type) := Except Fault α

def Fault.refuse {α : Type} (cause : Unacceptable) : Outcome α := .error (.unacceptable cause)

def Fault.ofRefusal (source : String) : Pattern.Refusal → Fault
  | .malformed fault => .pattern source fault
  | .repeatTooLarge => .tooLarge
  | .repeatDigits digits => .unacceptable (.integer (.tooLong digits))
  | .alphabets => .unacceptable .alphabets

end LogAnalysis
