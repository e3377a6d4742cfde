import LogAnalysis.CommandLine.Option
import LogAnalysis.Decimal.Reader

/-!
The arguments of the command line.

Each argument is first looked at by itself: it is a word, the sign after which all are words, or an option, perhaps with its
operand. A long option may be shortened as long as no other one begins in the same way, and short options without operands may
stand together. Then words become operands of the options before them. The first words that do not are the files,
and there may be no others.
-/

namespace LogAnalysis.CommandLine

/-! ## Single arguments -/

structure Attached where
  text : List Char
  afterSign : Bool
deriving Repr, DecidableEq

/-- An argument by itself. An option without a switch is unknown. -/
inductive Argument
  | word (text : String)
  | separator
  | option (switch : Option Switch) (isShort : Bool) (attached : Option Attached)
deriving Repr, DecidableEq, Inhabited

inductive Stop
  | misused
  | help
deriving Repr, DecidableEq

def isNegativeNumber (cs : List Char) : Bool :=
  match cs with
  | '-' :: rest =>
    let rest := if rest.getLast? = some '\n' then rest.dropLast else rest
    let whole := rest.takeWhile Text.isDecimal
    match rest.drop whole.length with
    | [] => !whole.isEmpty
    | '.' :: places => !places.isEmpty && places.all Text.isDecimal
    | _ => false
  | _ => false

def splitSign (cs : List Char) : List Char × Option (List Char) :=
  let name := cs.takeWhile (· ≠ '=')
  match cs.drop name.length with
  | _ :: operand => (name, some operand)
  | [] => (name, none)

def isShortName (name : List Char) : Bool := name[1]? ≠ some '-'

def Argument.ofName (switch : Switch) (name : List Char) (attached : Option Attached) : Argument :=
  .option (some switch) (isShortName name) attached

def Argument.meanings (cs : List Char) : List Argument :=
  match cs with
  | '-' :: '-' :: _ =>
    let (start, operand) := splitSign cs
    (Switch.names.filter fun (name, _) => start.isPrefixOf name.toList).map fun (name, switch) =>
      ofName switch name.toList (operand.map (⟨·, true⟩))
  | _ =>
    let short := String.ofList (cs.take 2)
    Switch.names.filterMap fun (name, switch) =>
      if name = short then some (ofName switch name.toList (some ⟨cs.drop 2, false⟩))
      else if cs.isPrefixOf name.toList then some (ofName switch name.toList none)
      else none

def Argument.ofText (text : String) : Except Stop Argument :=
  let cs := text.toList
  if cs.head? ≠ some '-' || text = "-" then .ok (.word text)
  else match Switch.names.lookup text with
    | some switch => .ok (ofName switch cs none)
    | none =>
      let (name, operand) := splitSign cs
      match Switch.names.lookup (String.ofList name), operand with
      | some switch, some operand => .ok (ofName switch name (some ⟨operand, true⟩))
      | _, _ =>
        match meanings cs with
        | [meant] => .ok meant
        | _ :: _ => .error .misused
        | [] =>
          if isNegativeNumber cs || cs.contains ' ' then .ok (.word text)
          else .ok (.option none false none)

def Argument.ofTexts : List String → Except Stop (List Argument)
  | [] => .ok []
  | text :: rest => do
    -- Behind the separator all are words.
    if text = "--" then return .separator :: rest.map .word
    let argument ← ofText text
    return argument :: (← ofTexts rest)

/-! ## All arguments -/

structure Arguments where
  files : List String := []
  format : String := "auto"
  query : Option String := none
  saved : Option String := none
  extract : List String := []
  mergeStrategy : Option String := none
  config : Option String := none
  sort : Option String := none
  order : Option String := none
  page : Option Int := none
  perPage : Option Int := none
  lines : Option Int := none
  output : String := "text"
  color : Bool := false
  stats : Bool := false
  summary : Bool := false
  verbose : Bool := false
deriving Repr, DecidableEq, Inhabited

namespace Arguments

def take (a : Arguments) : Switch → Except Stop Arguments
  | .help => .error .help
  | .color => .ok { a with color := true }
  | .stats => if a.summary then .error .misused else .ok { a with stats := true }
  | .summary => if a.stats then .error .misused else .ok { a with summary := true }
  | .verbose => .ok { a with verbose := true }
  | _ => .error .misused

def takeText (a : Arguments) (switch : Switch) (text : String) : Except Stop Arguments :=
  match switch with
  | .format => .ok { a with format := text }
  | .query => .ok { a with query := some text }
  | .saved => .ok { a with saved := some text }
  | .extract => .ok { a with extract := a.extract ++ [text] }
  | .mergeStrategy => .ok { a with mergeStrategy := some text }
  | .config => .ok { a with config := some text }
  | .sort => .ok { a with sort := some text }
  | .order => .ok { a with order := some text }
  | .output => .ok { a with output := text }
  | _ => .error .misused

def takeNumber (a : Arguments) (switch : Switch) (n : Int) : Except Stop Arguments :=
  match switch with
  | .page => .ok { a with page := some n }
  | .perPage => .ok { a with perPage := some n }
  | .lines => .ok { a with lines := some n }
  | _ => .error .misused

def takeOperand (a : Arguments) (switch : Switch) (text : String) : Except Stop Arguments :=
  match switch.operand with
  | .nothing => .error .misused
  | .text => a.takeText switch text
  | .oneOf choices => if choices.contains text then a.takeText switch text else .error .misused
  | .number =>
    match Numeral.integer text with
    | .ok n => a.takeNumber switch n
    | .error _ => .error .misused

end Arguments

structure Given where
  switch : Switch
  operand : Option String
deriving Repr, DecidableEq

def Arguments.takeAll (a : Arguments) (given : List Given) : Except Stop Arguments :=
  given.foldlM (fun a g => match g.operand with
    | none => a.take g.switch
    | some text => a.takeOperand g.switch text) a

/-- The options in one argument, whether one of them is unknown, and whether one took the next word. -/
structure Options where
  given : List Given
  unknown : Bool := false
  tookWord : Bool := false
deriving Repr, DecidableEq

/-- The options in one argument. One that needs an operand and has none attached takes the next word. -/
def optionsAt (next : Option String) :
    (fuel : Nat) → Switch → (isShort : Bool) → Option Attached → Except Stop Options
  | 0, _, _, _ => .error .misused
  | fuel + 1, switch, isShort, attached =>
    match switch.operand, attached with
    | .nothing, none => .ok { given := [⟨switch, none⟩] }
    | .nothing, some ⟨[], _⟩ => .error .misused
    | .nothing, some ⟨c :: rest, afterSign⟩ =>
      if !isShort || afterSign || c = '-' then .error .misused
      else match Switch.names.lookup (String.ofList ['-', c]) with
        | none => .ok { given := [⟨switch, none⟩], unknown := true }
        | some other =>
          let attached := match rest with
            | [] => none
            | '=' :: operand => some ⟨operand, true⟩
            | operand => some ⟨operand, false⟩
          (optionsAt next fuel other true attached).map fun o =>
            { o with given := ⟨switch, none⟩ :: o.given }
    | _, some ⟨text, _⟩ => .ok { given := [⟨switch, some (String.ofList text)⟩] }
    | _, none =>
      match next with
      | some text => .ok { given := [⟨switch, some text⟩], tookWord := true }
      | none => .error .misused

namespace Argument

def isOption : Argument → Bool
  | option .. => true
  | _ => false

def word? : Argument → Option String
  | word text => some text
  | _ => none

end Argument

/-- What is known after a part of the arguments: what they ask for, whether the files are there, and whether there was an
argument without a meaning. -/
structure Taken where
  arguments : Arguments := {}
  hasFiles : Bool := false
  hasStray : Bool := false
deriving Repr, DecidableEq

def Taken.takeAll : (fuel : Nat) → Taken → List Argument → Except Stop Taken
  | 0, t, _ | _, t, [] => .ok t
  | fuel + 1, t, .option none _ _ :: rest => takeAll fuel { t with hasStray := true } rest
  | fuel + 1, t, .option (some switch) isShort attached :: rest => do
    let size := (attached.map fun a => a.text.length).getD 0
    let o ← optionsAt (rest.head?.bind Argument.word?) (size + 1) switch isShort attached
    let arguments ← t.arguments.takeAll o.given
    takeAll fuel { t with arguments, hasStray := t.hasStray || o.unknown }
      (if o.tookWord then rest.drop 1 else rest)
  | fuel + 1, t, rest =>
    let words := (rest.takeWhile (!·.isOption)).filterMap Argument.word?
    let rest := rest.dropWhile (!·.isOption)
    if t.hasFiles || words.isEmpty then takeAll fuel { t with hasStray := true } rest
    else takeAll fuel { t with arguments.files := words, hasFiles := true } rest

def Arguments.ofTexts (texts : List String) : Except Stop Arguments := do
  let arguments ← Argument.ofTexts texts
  let t ← Taken.takeAll (arguments.length + 1) {} arguments
  if t.hasFiles && !t.hasStray then return t.arguments else throw .misused

end LogAnalysis.CommandLine
