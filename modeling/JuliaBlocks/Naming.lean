import JuliaBlocks.Number.Numeral
import JuliaBlocks.Settings.Path

/-!
The names of side files. Each evaluation has a source and an output file in one directory, whose
names differ from those of other evaluations in a word that stands in them.
-/

namespace JuliaBlocks

/-- The source and output file of one evaluation. -/
structure SideFiles where
  source : String
  output : String
deriving DecidableEq

/-- The words in the names of source and of output files, one for each evaluation by its number.
They consist of letters, digits and underscores, and none of them is given twice. A name that is
taken is never given out either, so that creating a side file replaces nothing. -/
structure Naming where
  sourceWord : Nat → String
  outputWord : Nat → String
  plain : ∀ number, ∀ c ∈ (sourceWord number).toList ++ (outputWord number).toList,
    c.isAlphanum ∨ c = '_'
  source_injective : ∀ {m n}, sourceWord m = sourceWord n → m = n
  output_injective : ∀ {m n}, outputWord m = outputWord n → m = n

namespace Naming

/-- The side files of the evaluation with a number. -/
def files (naming : Naming) (directory : String) (number : Nat) : SideFiles where
  source := Path.join directory ("babel-julia-src-" ++ naming.sourceWord number ++ ".jl")
  output := Path.join directory ("babel-julia-out-" ++ naming.outputWord number)

theorem toList_render_natCast (n : Nat) :
    (Numeral.render n).toList = Nat.toDigits 10 n := by
  simp [Numeral.render, Int.not_lt.mpr (Int.natCast_nonneg _)]

theorem render_natCast_injective {m n : Nat} (hsame : Numeral.render m = Numeral.render n) :
    m = n := by
  have hdigits : Nat.toDigits 10 m = Nat.toDigits 10 n := by
    rw [← toList_render_natCast, hsame, toList_render_natCast]
  rw [← Nat.ofDigitChars_ten_toDigits (n := m), hdigits, Nat.ofDigitChars_ten_toDigits]

/-- The number of an evaluation as its words. -/
def numbered : Naming where
  sourceWord number := Numeral.render number
  outputWord number := Numeral.render number
  plain := by
    intro number c hmem
    have hdigit : c ∈ Nat.toDigits 10 number := by simpa [toList_render_natCast] using hmem
    have hdigit : c.isDigit = true := Nat.isDigit_of_mem_toDigits (by decide) (by decide) hdigit
    exact Or.inl (by simp [Char.isAlphanum, hdigit])
  source_injective := render_natCast_injective
  output_injective := render_natCast_injective

end Naming

/-- The name of a source file that could not be created; which word would have stood in it is not
known. -/
def SideFiles.uncreated : String := "babel-julia-src-?.jl"

end JuliaBlocks
