import LogAnalysis.Proofs.Extraction
import LogAnalysis.Proofs.Loading
import LogAnalysis.Proofs.Text.Uppercase

/-!
# Levels in their usual form

The usual name of a level is left alone when it is read again (`isUsualLevel_canonicalLevel`). All entries of a log have
such levels, also after any extraction (`Extraction.runAll_kept`).
-/

namespace LogAnalysis

open Text (IsTrimmed)

structure IsUsualLevel (level : String) : Prop where
  same : canonicalLevel level = level

theorem canonicalLevel_trimmed (level : String) : canonicalLevel (Text.trimmed level) = canonicalLevel level := by
  rw [canonicalLevel, canonicalLevel, Text.trimmed, Text.trimmed, String.toList_ofList, Text.trim_trim]

theorem isUsualLevel_canonicalLevel (token : String) : IsUsualLevel (canonicalLevel token) := by
  have trimmed : IsTrimmed (Text.upper (Text.trim token.toList)) := Text.isTrimmed_upper (Text.isTrimmed_trim _)
  have again : Text.uppered (Text.trimmed (Text.uppered (Text.trimmed token))) = Text.uppered (Text.trimmed token) := by
    simp only [Text.uppered, Text.trimmed, String.toList_ofList, trimmed.trim_eq, Text.upper_upper]
  have warning : canonicalLevel "WARNING" = "WARNING" := by decide
  refine ⟨?_⟩
  by_cases isWarn : Text.uppered (Text.trimmed token) = "WARN"
  · have folded : canonicalLevel token = "WARNING" := by
      rw [canonicalLevel, Line.foldWarning, if_pos isWarn]
    rw [folded, warning]
  · have whole : canonicalLevel token = Text.uppered (Text.trimmed token) := by
      rw [canonicalLevel, Line.foldWarning, if_neg isWarn]
    rw [whole, canonicalLevel, again, Line.foldWarning, if_neg isWarn]

theorem isUsualLevel_level (line : String) : IsUsualLevel (Line.level line) := by
  have words : ∀ word ∈ Line.levelWords, canonicalLevel (Line.foldWarning word) = Line.foldWarning word := by
    decide
  have none : canonicalLevel "" = "" := by decide
  unfold Line.level
  dsimp only
  split
  · next word found => exact ⟨words word (List.mem_of_find?_eq_some found)⟩
  · exact ⟨none⟩

theorem parseText_levels (clock : Calendar.Clock) (text : String) :
    ∀ e ∈ parseText clock text, IsUsualLevel e.level :=
  Assembler.parseText_forall clock (fun _ line _ => isUsualLevel_level line) (fun _ _ usual => usual) text

namespace Extraction

variable {clock : Calendar.Clock} {strategy : MergeStrategy}

theorem isUsualLevel_levelAfter {level : String} (usual : IsUsualLevel level) (capture : String × List String) :
    IsUsualLevel (levelAfter level capture) := by
  unfold levelAfter
  split
  · exact isUsualLevel_canonicalLevel _
  · exact usual

theorem runAll_kept (clock : Calendar.Clock) (strategy : MergeStrategy) (extractors : List Extractor)
    (entries : List Entry) :
    ∃ f : Entry → Entry, (runAll clock strategy extractors entries).entries = entries.map f ∧
      ∀ e, (f e).id = e.id ∧ (IsUsualLevel e.level → IsUsualLevel (f e).level) := by
  refine runAll_map (R := fun e e' => e'.id = e.id ∧ (IsUsualLevel e.level → IsUsualLevel e'.level))
    (fun _ => ⟨rfl, id⟩) (fun _ _ _ first later => ⟨later.1.trans first.1, later.2 ∘ first.2⟩)
    (fun e captured => ?_) extractors entries
  rw [applyCaptures, foldl_applyCapture]
  refine ⟨rfl, fun usual => ?_⟩
  exact List.foldlRecOn (motive := IsUsualLevel) captured _ usual fun _ usual capture _ =>
    isUsualLevel_levelAfter usual capture

end Extraction

end LogAnalysis
