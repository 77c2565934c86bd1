import JuliaBlocks.Run
import Mathlib.Data.List.Nodup

/-!
The names of side files. In one directory different evaluations have different names, and the
source file of one is the output file of none.
-/

namespace JuliaBlocks

theorem Path.join_injective {directory entry other : String}
    (hsame : join directory entry = join directory other) : entry = other := by
  unfold join at hsame
  split at hsame
  · simpa [← String.toList_inj] using hsame
  · simpa [← String.toList_inj] using hsame

theorem Path.newline_mem_join {directory entry : String} (hentry : '\n' ∉ entry.toList) :
    '\n' ∈ (join directory entry).toList ↔ '\n' ∈ directory.toList := by
  unfold join
  split
  · simp [hentry]
  · simp [hentry]

/-- The names of side files. -/
def SideFiles.names (files : SideFiles) : List String := [files.source, files.output]

namespace Naming

variable (naming : Naming)

theorem eq_of_source_eq {directory : String} {m n : Nat}
    (hsame : (naming.files directory m).source = (naming.files directory n).source) : m = n := by
  have hentry := Path.join_injective hsame
  apply naming.source_injective
  simpa [← String.toList_inj] using hentry

theorem eq_of_output_eq {directory : String} {m n : Nat}
    (hsame : (naming.files directory m).output = (naming.files directory n).output) : m = n := by
  have hentry := Path.join_injective hsame
  apply naming.output_injective
  simpa [← String.toList_inj] using hentry

theorem source_ne_output (directory : String) (m n : Nat) :
    (naming.files directory m).source ≠ (naming.files directory n).output := by
  intro hsame
  have hentry := Path.join_injective hsame
  simp [← String.toList_inj] at hentry

/-- Different evaluations have no name in common. -/
theorem names_disjoint {directory : String} {m n : Nat} (hne : m ≠ n) :
    List.Disjoint (naming.files directory m).names (naming.files directory n).names := by
  intro name hm hn
  simp only [SideFiles.names, List.mem_cons, List.not_mem_nil, or_false] at hm hn
  rcases hm with rfl | rfl
  · rcases hn with hsame | hsame
    · exact hne (naming.eq_of_source_eq hsame)
    · exact naming.source_ne_output directory m n hsame
  · rcases hn with hsame | hsame
    · exact naming.source_ne_output directory n m hsame.symm
    · exact hne (naming.eq_of_output_eq hsame)

theorem newline_not_mem (number : Nat) :
    '\n' ∉ (naming.sourceWord number).toList ∧ '\n' ∉ (naming.outputWord number).toList := by
  have hplain : '\n' ∉ (naming.sourceWord number).toList ++ (naming.outputWord number).toList := by
    intro hmem
    rcases naming.plain number _ hmem with hletter | hunderscore
    · exact absurd hletter (by decide)
    · exact absurd hunderscore (by decide)
  simpa using hplain

/-- Only the directory of side files can bring line feeds into their names. -/
theorem newline_mem_files (directory : String) (number : Nat) :
    ('\n' ∈ (naming.files directory number).source.toList ↔ '\n' ∈ directory.toList) ∧
    ('\n' ∈ (naming.files directory number).output.toList ↔ '\n' ∈ directory.toList) := by
  obtain ⟨hsource, houtput⟩ := naming.newline_not_mem number
  constructor
  · exact Path.newline_mem_join (by simp [hsource])
  · exact Path.newline_mem_join (by simp [houtput])

end Naming

end JuliaBlocks
