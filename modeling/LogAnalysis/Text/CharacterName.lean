import LogAnalysis.Text.CharacterName.Alias
import LogAnalysis.Text.CharacterName.Letters
import LogAnalysis.Text.CharacterName.Pictures
import LogAnalysis.Text.CharacterName.Rule
import LogAnalysis.Text.CharacterName.Scripts
import LogAnalysis.Text.CharacterName.Syllables
import LogAnalysis.Text.CharacterName.Symbols
import Std.Data.HashMap

/-!
The character with a name of Unicode 14.

Names in the tables and their aliases are read in any case. Korean syllables and unified ideographs have no
table; their names are formed by rule and read in capitals only.
-/

namespace LogAnalysis.Text

def nameTables : List (List NameRun) :=
  [letterNames, symbolNames, syllableNames, scriptNames, pictureNames, aliasNames]

def indexOf (tables : List (List NameRun)) : Std.HashMap String Nat :=
  tables.foldl (fun index runs => runs.foldl (fun index run => index.insertMany run.entries) index) ∅

def nameIndex : Thunk (Std.HashMap String Nat) := .mk fun _ => indexOf nameTables

def characterNamed? (name : String) : Option Nat :=
  let capitals := name.toList.map Char.toUpper
  ((capitalRule? name.toList).or (codedRule? capitals)).or nameIndex.get[String.ofList capitals]?

end LogAnalysis.Text
