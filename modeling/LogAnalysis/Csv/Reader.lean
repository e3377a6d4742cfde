import LogAnalysis.Fault

/-!
Reading tables with commas between the cells.

A cell may stand in quotation marks, inside which commas and line breaks are text and a quotation mark is written
twice. A line feed ends a record. A carriage return ends it too, but then nothing but line breaks may
follow in the line.
-/

namespace LogAnalysis.Csv

/-- Where the reader is: before a record, before a cell, in a plain cell, in a quoted cell, behind a quotation mark in a
quoted cell, or behind the end of a record. -/
inductive Place
  | record
  | cell
  | plain
  | quoted
  | quoteSeen
  | ended
deriving Repr, DecidableEq, Inhabited

/-- A record that is being read. The characters of the last cell and the cells before it stand in reverse order. -/
structure Partial where
  place : Place := .record
  cell : List Char := []
  size : Nat := 0
  cells : List String := []
deriving Repr, Inhabited

def maxCell : Nat := 131072

namespace Partial

def push (p : Partial) (place : Place) (c : Char) : Outcome Partial :=
  if maxCell ≤ p.size then .error .fieldTooLong
  else .ok { p with place, cell := c :: p.cell, size := p.size + 1 }

def close (p : Partial) (place : Place) : Partial :=
  { place, cells := String.ofList p.cell.reverse :: p.cells }

def isBreak (c : Char) : Bool := c = '\n' || c = '\r'

def openCell (p : Partial) (c : Char) : Outcome Partial :=
  if isBreak c then .ok (p.close .ended)
  else if c = '"' then .ok { p with place := .quoted }
  else if c = ',' then .ok (p.close .cell)
  else p.push .plain c

def take (p : Partial) (c : Char) : Outcome Partial :=
  match p.place with
  | .record => if isBreak c then .ok { p with place := .ended } else openCell p c
  | .cell => openCell p c
  | .plain =>
    if isBreak c then .ok (p.close .ended)
    else if c = ',' then .ok (p.close .cell)
    else p.push .plain c
  | .quoted => if c = '"' then .ok { p with place := .quoteSeen } else p.push .quoted c
  | .quoteSeen =>
    if c = '"' then p.push .quoted c
    else if c = ',' then .ok (p.close .cell)
    else if isBreak c then .ok (p.close .ended)
    else p.push .plain c
  | .ended => if isBreak c then .ok p else .error .bareLineBreak

def endLine (p : Partial) : Partial × Option (List String) :=
  match p.place with
  -- Only a quoted cell goes on in the next line.
  | .quoted => (p, none)
  | .record | .ended => ({}, some p.cells.reverse)
  | .cell | .plain | .quoteSeen => ({}, some (p.close .record).cells.reverse)

def endText (p : Partial) : List (List String) :=
  match p.place with
  | .quoted => [(p.close .record).cells.reverse]
  | _ => []

end Partial

/-- The records of the rest of a text, up to a fault. `atStart` says that the rest begins a line. -/
def recordsFrom (p : Partial) (atStart : Bool) : List Char → List (List String) × Option Fault
  | [] =>
    let (p, done) := if atStart then (p, none) else p.endLine
    (done.toList ++ p.endText, none)
  | c :: rest =>
    match p.take c with
    | .error fault => ([], some fault)
    | .ok p =>
      if c = '\n' then
        match p.endLine with
        | (p, none) => recordsFrom p true rest
        | (p, some done) =>
          let (more, fault) := recordsFrom p true rest
          (done :: more, fault)
      else recordsFrom p false rest

def records (text : String) : List (List String) × Option Fault := recordsFrom {} true text.toList

end LogAnalysis.Csv
