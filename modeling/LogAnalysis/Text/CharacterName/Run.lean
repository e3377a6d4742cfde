import LogAnalysis.Text.Basic

/-!
Names of consecutive code points, written so that words shared with the name before are left out.

A small letter opens each name and counts the shared words: `a` none, `b` one, `c` two. The other words follow
it. `aBLACK STARbHEART` writes `BLACK STAR` and `BLACK HEART`.
-/

namespace LogAnalysis.Text

structure NameRun where
  first : Nat
  written : List String

def cutAtSmall (cs : List Char) : List (Char × List Char) :=
  (cs.foldr (fun c (current, cut) =>
    if c.isLower then ([], (c, current) :: cut) else (c :: current, cut)) ([], [])).2

def spellOut (previous : List (List Char)) : List (Char × List Char) → List (List (List Char))
  | [] => []
  | (shared, others) :: names =>
    let words := previous.take (shared.toNat - 'a'.toNat) ++ splitOn ' ' others
    words :: spellOut words names

def NameRun.names (run : NameRun) : List (List (List Char)) :=
  spellOut [] (cutAtSmall (run.written.flatMap String.toList))

def NameRun.entries (run : NameRun) : List (String × Nat) :=
  run.names.zipIdx.map fun (words, place) => (String.ofList (joinWith [' '] words), run.first + place)

theorem length_spellOut (previous : List (List Char)) (cut : List (Char × List Char)) :
    (spellOut previous cut).length = cut.length := by
  induction cut generalizing previous with
  | nil => rfl
  | cons name cut ih => simp [spellOut, ih]

theorem NameRun.length_entries (run : NameRun) :
    run.entries.length = (cutAtSmall (run.written.flatMap String.toList)).length := by
  simp [entries, names, length_spellOut]

example : NameRun.entries ⟨0x2605, ["aBLACK STARbHEART"]⟩ =
    [("BLACK STAR", 0x2605), ("BLACK HEART", 0x2606)] := by decide +kernel

end LogAnalysis.Text
