import JuliaBlocks.Proofs.Julia.Identifier
import JuliaBlocks.Proofs.Julia.Literal
import JuliaBlocks.Proofs.Transport.Basic

/-!
Assignments read back. Whatever the variables of a snippet hold, a reader that knows only the form
`identifier = literal` finds just these variables in it, with the trees of their values, and then
the body. No value ends its literal early or passes for another assignment.
-/

namespace JuliaBlocks.Julia

/-- Reads the end of a line: a line feed, or the end of the text. -/
def readLineEnd : List Char → Option (List Char)
  | [] => some []
  | '\n' :: rest => some rest
  | _ => none

/-- Reads one assignment with the end of its line. -/
def readAssignment : Reader (String × Tree) := fun s => do
  let name := String.ofList (s.takeWhile isIdentifierRest)
  let rest ← (s.dropWhile isIdentifierRest).dropPrefix? [' ', '=', ' ']
  let (value, rest) ← readLiteral rest
  let rest ← readLineEnd rest
  if hasIdentifierForm name.toList && !reservedWords.contains name then
    return ((name, value), rest)
  else none

/-- Reads a number of assignments. -/
def readAssignments : Nat → Reader (List (String × Tree))
  | 0, s => some ([], s)
  | n + 1, s => do
    let (first, rest) ← readAssignment s
    let (others, rest) ← readAssignments n rest
    return (first :: others, rest)

/-- The line that binds a variable. -/
def assignmentLine (b : String × Value) : String :=
  b.1 ++ " = " ++ String.ofList (tree b.2).render

theorem assignment_eq {b : String × Value} (hname : IsWholeIdentifier b.1)
    (hvalue : b.2.Printable) : assignment b.1 b.2 = .ok (assignmentLine b) := by
  rw [assignment, if_pos hname.isIdentifier, literal, literal?_eq_render hvalue]
  rfl

theorem assignments_eq {bindings : List (String × Value)}
    (hnames : ∀ b ∈ bindings, IsWholeIdentifier b.1) (hvalues : ∀ b ∈ bindings, b.2.Printable) :
    assignments bindings = .ok (bindings.map assignmentLine) := by
  induction bindings with
  | nil => rfl
  | cons b bindings ih =>
      have hrest := ih (fun other hother => hnames other (by simp [hother]))
        (fun other hother => hvalues other (by simp [hother]))
      have hfirst := assignment_eq (hnames b (by simp)) (hvalues b (by simp))
      obtain ⟨name, value⟩ := b
      rw [assignments] at hrest ⊢
      simp only [List.mapM_cons, hfirst, hrest]
      rfl

/-- An assignment is read up to the end of its line. -/
theorem readAssignment_line {b : String × Value} {rest after : List Char}
    (hname : IsWholeIdentifier b.1) (hend : readLineEnd rest = some after)
    (hrest : Delimited rest) :
    readAssignment ((assignmentLine b).toList ++ rest) = some ((b.1, tree b.2), after) := by
  have hall := hname.all_rest
  have htext : (assignmentLine b).toList ++ rest =
      b.1.toList ++ ([' ', '=', ' '] ++ ((tree b.2).render ++ rest)) := by
    simp [assignmentLine]
  have htake : (b.1.toList ++ ([' ', '=', ' '] ++ ((tree b.2).render ++ rest))).takeWhile
      isIdentifierRest = b.1.toList := by
    rw [List.takeWhile_append_of_pos hall, List.cons_append, List.takeWhile_cons_of_neg (by decide),
      List.append_nil]
  have hdrop : (b.1.toList ++ ([' ', '=', ' '] ++ ((tree b.2).render ++ rest))).dropWhile
      isIdentifierRest = [' ', '=', ' '] ++ ((tree b.2).render ++ rest) := by
    rw [List.dropWhile_append_of_pos hall, List.cons_append, List.dropWhile_cons_of_neg (by decide)]
  have hequals : ([' ', '=', ' '] ++ ((tree b.2).render ++ rest)).dropPrefix? [' ', '=', ' '] =
      some ((tree b.2).render ++ rest) := List.dropPrefix?_append_of_beq _ (by simp)
  have hread := readLiteral_render (tree b.2) rest (tree_canonical b.2) hrest
  have hform : (hasIdentifierForm b.1.toList && !reservedWords.contains b.1) = true := by
    simp [hname.1, hname.2]
  rw [htext]
  simp only [readAssignment, htake, hdrop, hequals, hread, hend, String.ofList_toList, hform,
    Option.bind_eq_bind, Option.bind_some, if_true, Option.pure_def]

theorem readAssignments_succ {n : Nat} {s rest after : List Char} {first : String × Tree}
    {others : List (String × Tree)} (hfirst : readAssignment s = some (first, rest))
    (hothers : readAssignments n rest = some (others, after)) :
    readAssignments (n + 1) s = some (first :: others, after) := by
  simp only [readAssignments, hfirst, hothers, Option.bind_eq_bind, Option.bind_some,
    Option.pure_def]

/-- Assignments on lines of their own are read back, whatever follows. -/
theorem readAssignments_lines {bindings : List (String × Value)}
    (hnames : ∀ b ∈ bindings, IsWholeIdentifier b.1) (rest : List Char) :
    readAssignments bindings.length
        (bindings.flatMap (fun b => (assignmentLine b).toList ++ ['\n']) ++ rest) =
      some (bindings.map fun b => (b.1, tree b.2), rest) := by
  induction bindings with
  | nil => rfl
  | cons b bindings ih =>
      let others := bindings.flatMap (fun b => (assignmentLine b).toList ++ ['\n']) ++ rest
      have hothers : readAssignments bindings.length others =
          some (bindings.map fun b => (b.1, tree b.2), rest) :=
        ih fun other hother => hnames other (by simp [hother])
      have hline : readAssignment ((assignmentLine b).toList ++ '\n' :: others) =
          some ((b.1, tree b.2), others) :=
        readAssignment_line (hnames b (by simp)) rfl (delimited_cons _ (by decide))
      have htext : (b :: bindings).flatMap (fun b => (assignmentLine b).toList ++ ['\n']) ++ rest =
          (assignmentLine b).toList ++ '\n' :: others := by
        simp [others]
      rw [htext]
      exact readAssignments_succ hline hothers

/-- Assignments one a line, with nothing after them, are read back. -/
theorem readAssignments_intercalate {bindings : List (String × Value)}
    (hnames : ∀ b ∈ bindings, IsWholeIdentifier b.1) :
    readAssignments bindings.length
        (String.intercalate "\n" (bindings.map assignmentLine)).toList =
      some (bindings.map fun b => (b.1, tree b.2), []) := by
  induction bindings with
  | nil => rfl
  | cons b bindings ih =>
      have hname := hnames b (by simp)
      have hothers := ih fun other hother => hnames other (by simp [hother])
      cases bindings with
      | nil =>
          have hline : readAssignment ((assignmentLine b).toList ++ []) =
              some ((b.1, tree b.2), []) := readAssignment_line hname rfl delimited_nil
          rw [List.append_nil] at hline
          exact readAssignments_succ hline rfl
      | cons other bindings =>
          have hline := readAssignment_line hname rfl (delimited_cons
            (String.intercalate "\n" ((other :: bindings).map assignmentLine)).toList
            (show isWordChar '\n' = false by decide))
          have htext :
              (String.intercalate "\n" ((b :: other :: bindings).map assignmentLine)).toList =
                (assignmentLine b).toList ++ '\n' ::
                  (String.intercalate "\n" ((other :: bindings).map assignmentLine)).toList := by
            rw [List.map_cons, String.intercalate_cons_of_ne_nil (by simp)]
            simp
          rw [htext]
          exact readAssignments_succ hline hothers

end JuliaBlocks.Julia

namespace JuliaBlocks.Snippet

open Julia

/-- A prologue or epilogue that leaves lines: one that is there and not empty. -/
def given (s : Option String) : List String :=
  s.toList.filter (· ≠ "")

/-- The prologue of a snippet with its line feed; one that is absent leaves nothing. -/
def lead (prologue : Option String) : List Char :=
  (given prologue).flatMap fun s => s.toList ++ ['\n']

theorem part_ofText? (s : Option String) : part (.ofText? s) = (given s).map .text := by
  cases s with
  | none => rfl
  | some s =>
      rw [part, Value.ofText?, Value.isVoid, given, Option.toList_some]
      by_cases hempty : s = ""
      · simp [hempty]
      · simp [hempty]

theorem texts_map_text (l : List String) (place : Nat) :
    Value.texts (l.map .text) place = .ok l := by
  induction l generalizing place with
  | nil => rfl
  | cons s l ih =>
      rw [List.map_cons, Value.texts, ih]
      rfl

theorem toList_intercalate_append (l : List String) {m : List String} (hm : m ≠ []) :
    (String.intercalate "\n" (l ++ m)).toList =
      l.flatMap (fun s => s.toList ++ ['\n']) ++ (String.intercalate "\n" m).toList := by
  induction l with
  | nil => rfl
  | cons s l ih =>
      rw [List.cons_append, String.intercalate_cons_of_ne_nil (by simp [hm]), String.toList_append,
        String.toList_append, ih]
      simp

/-- A snippet is its parts, one after another on lines of their own. -/
theorem expandBody_eq {bindings : List (String × Value)} {lines : List String}
    (hlines : assignments bindings = .ok lines) (body : String) (prologue epilogue : Option String)
    (request : Request) (file : Option String) :
    expandBody body
        { request with prologue := .ofText? prologue, epilogue := .ofText? epilogue, bindings }
        none file =
      (plotPart request file).map fun plot => String.intercalate "\n"
        (given prologue ++ lines ++ (body :: plot ++ given epilogue)) := by
  have hplot : plotPart
      { request with prologue := .ofText? prologue, epilogue := .ofText? epilogue, bindings }
      file = plotPart request file := rfl
  simp only [expandBody, hlines, hplot, part_ofText?, ← List.map_append, texts_map_text]
  cases plotPart request file with
  | error failure => rfl
  | ok plot => simp [Except.map, bind, Except.bind, pure, Except.pure]

/-- No variable forges code. After the prologue of a snippet, exactly the given variables are read
with the trees of their values, and exactly the body with what belongs after it is left. Of the
source that binds variables in a session nothing is left. -/
theorem bindings_read_back {bindings : List (String × Value)}
    (hnames : ∀ b ∈ bindings, IsWholeIdentifier b.1) (hvalues : ∀ b ∈ bindings, b.2.Printable) :
    (∀ (body : String) (prologue epilogue : Option String) (request : Request)
        (file : Option String),
      (expandBody body
          { request with prologue := .ofText? prologue, epilogue := .ofText? epilogue, bindings }
          none file).map
          (fun text =>
            (text.toList.dropPrefix? (lead prologue)).bind (readAssignments bindings.length)) =
        (plotPart request file).map fun plot =>
          some (bindings.map fun b => (b.1, tree b.2),
            (String.intercalate "\n" (body :: plot ++ given epilogue)).toList)) ∧
    (∀ {σ : Type} (sink : Sink σ) (settings : Settings) (key : Option String) (run : Run σ),
      bindings ≠ [] → (Transport.resolve settings key).persistent = true →
      ∃ text : String,
        readAssignments bindings.length text.toList =
          some (bindings.map fun b => (b.1, tree b.2), []) ∧
        (Transport.prepSession sink settings key bindings run).2.events =
          run.events.push (.sent (Transport.resolve settings key).name (.source text))) := by
  have hlines := assignments_eq hnames hvalues
  constructor
  · intro body prologue epilogue request file
    rw [expandBody_eq hlines]
    cases plotPart request file with
    | error failure => rfl
    | ok plot =>
        have hread := readAssignments_lines hnames
          (String.intercalate "\n" (body :: plot ++ given epilogue)).toList
        have htext : (String.intercalate "\n" (given prologue ++ bindings.map assignmentLine ++
            (body :: plot ++ given epilogue))).toList = lead prologue ++
              (bindings.flatMap (fun b => (assignmentLine b).toList ++ ['\n']) ++
                (String.intercalate "\n" (body :: plot ++ given epilogue)).toList) := by
          rw [toList_intercalate_append _ (by simp), List.flatMap_append, List.flatMap_map, lead,
            List.append_assoc]
        simp only [Except.map]
        rw [htext, List.dropPrefix?_append_of_beq _ (by simp), Option.bind_some, hread]
  · intro σ sink settings key run hsome hpersistent
    refine ⟨_, readAssignments_intercalate hnames, ?_⟩
    rw [Transport.prepSession_eq (if_pos hpersistent) hlines (by simpa using hsome)]
    exact Run.send_events run sink _ _

/-- Variables whose texts hold quotes, line feeds and what looks like an assignment. -/
def hostileBindings : List (String × Value) :=
  [("x", .text "1\"\ny = 2 # $x\\"),
    ("t!", .map [(.text "k\n", .list [.tuple [.int (-1), .null], .list [.text "a; b", .bool true]]),
      (.int 2, .set [.octets [0, 255]])])]

theorem bindings_read_back_hostile :
    (∀ b ∈ hostileBindings, IsWholeIdentifier b.1) ∧
    (∀ b ∈ hostileBindings, b.2.Printable) ∧
    hostileBindings ≠ [] ∧
    (Transport.resolve .usual none).persistent = true ∧
    ∃ text : String,
      (expandBody "x" { body := "x", prologue := .text "using Plots", bindings := hostileBindings }
        none none).map (fun text =>
          (text.toList.dropPrefix? (lead (some "using Plots"))).bind (readAssignments 2)) =
        .ok (some
          ([("x", .text "1\"\ny = 2 # $x\\"),
            ("t!", .dict
              [(.text "k\n", .matrix [[.int (-1), .nothing], [.text "a; b", .bool true]]),
                (.int 2, .text "\x7bb'\\x00\\xff'\x7d")])],
            ['x'])) ∧
      readAssignments 2 text.toList =
        some (hostileBindings.map fun b => (b.1, tree b.2), []) := by
  have hnames : ∀ b ∈ hostileBindings, IsWholeIdentifier b.1 := by
    intro b hb
    simp only [hostileBindings, List.mem_cons, List.not_mem_nil, or_false] at hb
    rcases hb with rfl | rfl
    · exact ⟨by decide, by decide⟩
    · exact ⟨by decide, by decide⟩
  have hvalues : ∀ b ∈ hostileBindings, b.2.Printable := by
    intro b hb n hn
    simp only [hostileBindings, List.mem_cons, List.not_mem_nil, or_false] at hb
    rcases hb with rfl | rfl
    · simp [Value.integers, Value.parts] at hn
    · have hn : n = -1 ∨ n = 2 := by
        simpa [Value.integers, Value.parts] using hn
      rcases hn with rfl | rfl
      · decide
      · decide
  have hsome : hostileBindings ≠ [] := by simp [hostileBindings]
  have hpersistent : (Transport.resolve .usual none).persistent = true := by decide
  have htrees : hostileBindings.map (fun b => (b.1, tree b.2)) =
      [("x", .text "1\"\ny = 2 # $x\\"),
        ("t!", .dict [(.text "k\n", .matrix [[.int (-1), .nothing], [.text "a; b", .bool true]]),
          (.int 2, .text "\x7bb'\\x00\\xff'\x7d")])] := by
    have htable : Value.isTable
        [.tuple [.int (-1), .null], .list [.text "a; b", .bool true]] = true := by decide
    have hset : (Value.set [.octets [0, 255]]).display? =
        some "\x7bb'\\x00\\xff'\x7d" := by decide
    simp [hostileBindings, tree, htable, hset, Value.cells_list, Value.cells_tuple, Tree.ofRows]
  obtain ⟨hsnippet, hsent⟩ := bindings_read_back hnames hvalues
  have hread := hsnippet "x" (some "using Plots") none { body := "x" } none
  let idle : Sink Unit :=
    { send := fun _ _ _ _ => { state := () }
      pause := fun _ _ _ => { state := () } }
  obtain ⟨text, htext, _⟩ := hsent idle .usual none { state := (), files := {} } hsome hpersistent
  refine ⟨hnames, hvalues, hsome, hpersistent, text, ?_, htext⟩
  rw [← htrees]
  exact hread

end JuliaBlocks.Snippet
