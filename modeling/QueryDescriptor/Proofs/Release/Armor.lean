import QueryDescriptor.Proofs.Text.Replace
import QueryDescriptor.Release

namespace QueryDescriptor.Release

def annotatedHeader : Text := armorHeader ++ '\n' :: armorVersion

theorem armorHeader_ne_nil : armorHeader ≠ [] := by decide

/-- An annotated key has the gaps of the key it was made from, with the version line after each
header between them, and without those lines it is that key, whatever the text of the key. -/
theorem replace_annotate (armor : Text) :
    Text.replace annotatedHeader armorHeader (annotate armor) = armor ∧
      ∃! gaps, Text.Gaps armorHeader armor gaps ∧ armor = Text.join armorHeader gaps ∧
        annotate armor = Text.join annotatedHeader gaps := by
  refine ⟨Text.replace_replace_append armorHeader_ne_nil _ armor, ?_⟩
  obtain ⟨gaps, hg⟩ := Text.exists_gaps armorHeader_ne_nil armor
  refine ⟨gaps, ⟨hg, hg.join_eq.symm, hg.replace_eq armorHeader_ne_nil _⟩, ?_⟩
  rintro others ⟨ho, _⟩
  exact hg.unique ho

/-- A header that begins in the dashes of another is none of its own. -/
example : annotate (armorHeader ++ armorHeader.drop 5) = annotatedHeader ++ armorHeader.drop 5 := by
  decide

end QueryDescriptor.Release
