import LogAnalysis.Fault
import LogAnalysis.Text.Case
import LogAnalysis.Value.Text

/-!
Values as numbers: whole numbers of sizes and orders, and the doubles that filters and statistics compare.
-/

namespace LogAnalysis

def Dyadic.truncated (x : Dyadic) : Nat :=
  let (num, den) := x.fraction
  num / den

namespace Value

def toInteger : Value → Outcome Int
  | bool b => .ok (if b then 1 else 0)
  | int n => .ok n
  | float x =>
    match decode x with
    | .notANumber => Fault.refuse .notANumber
    | .infinite _ => .error .tooLarge
    | .finite negative magnitude =>
      .ok (if negative then -(magnitude.truncated : Int) else magnitude.truncated)
  | text s => (Numeral.integer s).mapError fun fault => .unacceptable (.integer fault)
  | null | list _ | object _ => .error .wrongKind

def number? : Value → Option Float
  | bool b => some (if b then 1 else 0)
  | int n => Numeral.ofInteger? n
  | float x => some x
  | null | text _ | list _ | object _ => none

def nan : Float := 0 / 0

def leadingNumber : Value → Outcome Float
  | bool _ => .ok nan
  | int n =>
    match Numeral.ofInteger? n with
    | some x => .ok x
    | none => .error .tooLarge
  | float x => .ok x
  | v => .ok ((Numeral.leading? v.plain).getD nan)

def isNumber : Value → Bool
  | bool _ => false
  | v => (Numeral.float? (Text.trimmed v.plain)).any Float.isFinite

def isEmpty : Value → Bool
  | null => true
  | list items => items.isEmpty
  | v => Text.isBlankString v.plain

def toMembers : Value → Outcome (Members Value)
  | object members => .ok members
  | _ => .error .noSuchPart

def parts : Value → Outcome (List Value)
  | list items => .ok items
  | text s => .ok (s.toList.map fun c => text (String.singleton c))
  | object members => .ok (members.map fun m => text m.1)
  | _ => .error .wrongKind

def listMember (members : Members Value) (name : String) : Outcome (List Value) :=
  ((Members.get? members name).getD (list [])).parts

def require (name : String) : Value → Outcome Value
  | object members =>
    match Members.get? members name with
    | some v => .ok v
    | none => .error (.missingKey (Text.quoted name))
  | _ => .error .wrongKind

def lookup (name : String) (v : Value) : Outcome Value := do
  let members ← v.toMembers
  return Value.ofOption (Members.get? members name)

def uppercase : Value → Outcome String
  | text s => .ok (Text.uppered s)
  | _ => .error .noSuchPart

end Value

end LogAnalysis
