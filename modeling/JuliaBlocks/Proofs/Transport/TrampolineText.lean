import JuliaBlocks.Proofs.Text.Line
import JuliaBlocks.Proofs.Transport.Basic
import JuliaBlocks.Proofs.Transport.Names

/-!
The text that starts an evaluation. Read from the left it names the two side files that it was made
for, whatever their names look like. It is one line as long as no line feed is in these names, since
literals keep those as they are. Main statements: `trampoline_read_back` and
`trampoline_oneLine_iff`.
-/

namespace JuliaBlocks

namespace Transport

/-- Reads the two files that a trampoline names, from the left: the one that it includes, and the one
that it prints the result into. Nothing stands behind that. -/
def readNames (line : List Char) : Option (String × String) := do
  let line ← line.dropPrefix? "include(".toList
  let (source, line) ← Julia.readString line
  let line ← line.dropPrefix? "); open(".toList
  let (output, line) ← Julia.readString line
  match ← line.dropPrefix? ", \"w\") do io; print(io, _babel_julia_result); end".toList with
  | [] => return (String.ofList source, String.ofList output)
  | _ :: _ => none

/-- Reads a trampoline: the kind of result that it is for, which shows in the package that it brings
in, and the files that it names. -/
def readStart (line : List Char) : Option (ResultKind × String × String) :=
  match line.dropPrefix? "using Suppressor; ".toList with
  | some line => (readNames line).map fun names => (.output, names)
  | none => (readNames line).map fun names => (.value, names)

theorem readStart_text (files : SideFiles) {kind : ResultKind}
    (hkind : kind = .value ∨ kind = .output) :
    readStart (trampolineText files kind).toList = some (kind, files.source, files.output) := by
  let names := "include(".toList ++ ((Julia.quote files.source).toList ++ ("); open(".toList ++
    ((Julia.quote files.output).toList ++
      (", \"w\") do io; print(io, _babel_julia_result); end".toList ++ []))))
  have hnames : readNames names = some (files.source, files.output) := by
    simp only [readNames, names, List.dropPrefix?_append_of_beq _ (BEq.refl _),
      Julia.readString_quote, Option.bind_eq_bind, Option.bind_some, Option.pure_def,
      String.ofList_toList]
  have htext : (trampolineText files kind).toList = (packages kind).toList ++ names := by
    rw [toList_trampolineText]
    simp only [names, List.append_nil]
  -- The line starts with `include`, so there is nothing to take off it itself.
  rw [readStart, htext, dropPrefix?_packages kind rfl]
  rcases hkind with rfl | rfl
  · simp only [packages, String.toList_empty, List.nil_append, hnames, Option.map_some]
  · simp only [hnames, Option.map_some]

theorem count_newline_text (files : SideFiles) (kind : ResultKind) :
    (trampolineText files kind).toList.count '\n' =
      files.source.toList.count '\n' + files.output.toList.count '\n' := by
  have hplain : ∀ s, (Julia.quote s).toList.count '\n' = s.toList.count '\n' :=
    Julia.count_quote_of_plain (by decide)
  have huses : (packages kind).toList.count '\n' = 0 := by
    cases kind with
    | output => decide
    | value => decide
    | other given => rfl
  have hinclude : "include(".toList.count '\n' = 0 := by decide
  have hopen : "); open(".toList.count '\n' = 0 := by decide
  have hprint :
      ", \"w\") do io; print(io, _babel_julia_result); end".toList.count '\n' = 0 := by decide
  simp only [toList_trampolineText, List.count_append, hplain, huses, hinclude, hopen, hprint,
    Nat.zero_add, Nat.add_zero]

/-- A trampoline is read back. From the left, a package stands first just if output is captured, the
literal that is included is the name of the source file, the literal that is opened is the name of
the output file, and nothing follows the text behind that. So the trampoline of one kind of result
and two files is that of no other. -/
theorem trampoline_read_back (source output : String) {kind : ResultKind}
    (hkind : kind = .value ∨ kind = .output) :
    ∃ line, trampoline source output kind = .ok line ∧
      readStart line.toList = some (kind, source, output) ∧
      ∀ (included opened : String) (other : ResultKind),
        trampoline included opened other = .ok line ↔
          included = source ∧ opened = output ∧ other = kind := by
  refine ⟨_, trampoline_eq source output hkind, readStart_text ⟨source, output⟩ hkind, ?_⟩
  intro included opened other
  constructor
  · intro hmade
    obtain ⟨hother, hsame⟩ := (trampoline_eq_ok_iff _ _ _ _).mp hmade
    have hread := readStart_text ⟨included, opened⟩ hother
    rw [hsame, readStart_text ⟨source, output⟩ hkind] at hread
    simp only [Option.some.injEq, Prod.mk.injEq] at hread
    exact ⟨hread.2.1.symm, hread.2.2.symm, hread.1.symm⟩
  · rintro ⟨rfl, rfl, rfl⟩
    exact trampoline_eq included opened hkind

/-- The names may look like what stands between them. -/
theorem trampoline_read_back_hostile :
    let source := "a\"); open(\"b"
    let output := "$HOME\\\", \"w\""
    let line := "using Suppressor; include(\"a\\\"); open(\\\"b\"); " ++
      "open(\"\\$HOME\\\\\\\", \\\"w\\\"\", \"w\") do io; print(io, _babel_julia_result); end"
    (ResultKind.output = .value ∨ ResultKind.output = .output) ∧
    trampoline source output .output = .ok line ∧
    readStart line.toList = some (.output, source, output) := by
  intro source output line
  have hkind : ResultKind.output = .value ∨ ResultKind.output = .output := Or.inr rfl
  have htext : trampolineText ⟨source, output⟩ .output = line := by decide
  have hline := (trampoline_eq source output hkind).trans (congrArg Except.ok htext)
  obtain ⟨made, hmade, hread, _⟩ := trampoline_read_back source output hkind
  obtain rfl := Except.ok.inj (hmade.symm.trans hline)
  exact ⟨hkind, hline, hread⟩

/-- A trampoline has the line feeds of the two names and no other. So it is one line just if there is
none in either, and for the side files of an evaluation, just if there is none in the name of their
directory. -/
theorem trampoline_oneLine_iff (source output : String) {kind : ResultKind}
    (hkind : kind = .value ∨ kind = .output) :
    ∃ line, trampoline source output kind = .ok line ∧
      line.toList.count '\n' = source.toList.count '\n' + output.toList.count '\n' ∧
      (Text.lineRuns line.toList = [line.toList] ↔
        '\n' ∉ source.toList ∧ '\n' ∉ output.toList) ∧
      ∀ (naming : Naming) (directory : String) (number : Nat),
        naming.files directory number = ⟨source, output⟩ →
        (Text.lineRuns line.toList = [line.toList] ↔ '\n' ∉ directory.toList) := by
  have hcount := count_newline_text ⟨source, output⟩ kind
  have hone : Text.lineRuns (trampolineText ⟨source, output⟩ kind).toList =
      [(trampolineText ⟨source, output⟩ kind).toList] ↔
        '\n' ∉ source.toList ∧ '\n' ∉ output.toList := by
    rw [Text.lineRuns_eq_singleton_iff, ← List.count_eq_zero, ← List.count_eq_zero,
      ← List.count_eq_zero, hcount, Nat.add_eq_zero_iff]
  refine ⟨_, trampoline_eq source output hkind, hcount, hone, ?_⟩
  intro naming directory number hfiles
  obtain ⟨hsource, houtput⟩ := naming.newline_mem_files directory number
  rw [hfiles] at hsource houtput
  rw [hone, hsource, houtput, and_self]

/-- The directory of side files may have a line feed in its name. -/
theorem trampoline_oneLine_broken :
    let side := Naming.numbered.files "/tmp/a\nb" 1
    (ResultKind.value = .value ∨ ResultKind.value = .output) ∧
    ∃ line, trampoline side.source side.output .value = .ok line ∧ line.toList.count '\n' = 2 ∧
      Text.lineRuns line.toList ≠ [line.toList] := by
  intro side
  have hkind : ResultKind.value = .value ∨ ResultKind.value = .output := Or.inl rfl
  obtain ⟨line, hline, hcount, _, hdirectory⟩ :=
    trampoline_oneLine_iff side.source side.output hkind
  refine ⟨hkind, line, hline, hcount.trans (by decide), ?_⟩
  rw [ne_eq, hdirectory .numbered "/tmp/a\nb" 1 rfl]
  decide

/-- A trampoline that is more than one line. -/
theorem brokenName_not_oneLine :
    ∃ line, trampoline "/tmp/a\nb/src.jl" "/tmp/a\nb/out" .value = .ok line ∧
      '\n' ∈ line.toList :=
  ⟨_, trampoline_eq _ _ (Or.inl rfl), by decide⟩

end Transport

end JuliaBlocks
