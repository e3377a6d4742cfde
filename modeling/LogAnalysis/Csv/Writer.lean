import LogAnalysis.Text.Basic

/-!
Writing tables with commas between the cells and a line feed after each record.
-/

namespace LogAnalysis.Csv

def isSpecial (c : Char) : Bool := c = ',' || c = '"' || c = '\n'

def writeCell (cell : String) : String :=
  if cell.toList.any isSpecial then
    String.ofList
      ('"' :: (cell.toList.flatMap (fun c => if c = '"' then ['"', '"'] else [c]) ++ ['"']))
  else cell

def writeRecord (cells : List String) : String := Text.joined "," (cells.map writeCell) ++ "\n"

def write (records : List (List String)) : String := String.join (records.map writeRecord)

end LogAnalysis.Csv
