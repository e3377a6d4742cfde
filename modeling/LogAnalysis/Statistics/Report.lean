import LogAnalysis.Statistics.Field
import LogAnalysis.Statistics.View

/-!
Statistics as text for the eye and as JSON.
-/

namespace LogAnalysis.Statistics

def padRight (width : Nat) (s : String) : String :=
  s ++ String.ofList (List.replicate (width - s.length) ' ')

def padLeft (width : Nat) (s : String) : String :=
  String.ofList (List.replicate (width - s.length) ' ') ++ s

namespace View

def minuteText (minute : String) : String := minute.map fun c => if c = 'T' then ' ' else c

def report (v : View) : String :=
  let levels := v.levels.mergeSort fun a b => b.2 ≤ a.2
  let minutes := v.minutes.map fun (minute, n) => s!"  {minuteText minute}  {n}"
  Text.joined "\n" (
    [s!"Total entries: {v.total}", "", "Level counts:"] ++
    levels.map (fun (level, n) => s!"  {padRight 8 level} {n}") ++
    ["", "Entries per minute:"] ++
    if minutes.isEmpty then ["  (no timestamped entries)"] else minutes)

def json (v : View) : String := Json.write Json.indented v.toValue

end View

namespace Summary

def lines : Summary → List String
  | none => []
  | numbers s =>
    let number := Decimal.generalText
    [s!"  min: {number s.least}  max: {number s.greatest}  mean: {number s.mean}" ++
      s!"  median: {number s.median}  mode: {number s.mode}"]
  | dates s => [s!"  earliest: {s.earliest.text}  latest: {s.latest.text}"]
  | texts s =>
    s!"  length min/max/avg: {s.shortest}/{s.longest}/{Decimal.onePlaceText s.meanLength}" ::
      s.mostCommon.map fun (text, n) =>
        s!"    {padLeft 6 (toString n)}  {String.ofList (text.toList.take 80)}"

end Summary

def Field.lines (name : String) (f : Field) : List String :=
  s!"{name} ({f.typeName})" ::
  s!"  with value: {f.withValue}  without: {f.withoutValue}  unique: {f.unique}" ::
  f.summary.lines

def summaryReport (summary : Members Field) : String :=
  Text.joined "\n" (summary.flatMap fun (name, f) => f.lines name)

def summaryJson (summary : Members Field) : String :=
  Json.write Json.indented (.object (summary.map fun (name, f) => (name, .object f.toMembers)))

end LogAnalysis.Statistics
