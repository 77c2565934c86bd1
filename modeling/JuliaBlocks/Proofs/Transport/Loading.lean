import JuliaBlocks.Proofs.Snippet.Parts
import JuliaBlocks.Proofs.Template
import JuliaBlocks.Proofs.Transport.Steps
import JuliaBlocks.Recording

/-!
One snippet, brought into a session in three ways: sent as it is, in the source file of an
evaluation, or with its variables sent ahead of it. Main statement: `snippet_shared`.
-/

namespace JuliaBlocks.Transport

open Exchange Run

variable {σ : Type} {settings : Settings} {request : Request} {ref : SessionRef} {snippet : String}

/-- A snippet for a session that persists is sent as it is, and nothing else happens. -/
theorem loadSession_events (sink : Sink σ) (href : requested settings request = .ok ref)
    (hpersistent : ref.persistent = true) (hexpanded : Snippet.expand request = .ok snippet)
    (run : Run σ) : (loadSession sink settings request run).2.events =
      run.events.push (.sent ref.name (.source snippet)) := by
  have hkept : persistent ref = .ok ref := if_pos hpersistent
  have hsent := send_events run sink ref.name (.source snippet)
  simp only [loadSession, href, hkept, hexpanded, bind, Except.bind, pure, Except.pure]
  rcases hsend : run.send sink ref.name (.source snippet) with ⟨_ | _, after⟩
  · rwa [hsend] at hsent
  · rwa [hsend] at hsent

section Evaluation

variable (sink : Sink σ) (observer : Option Observer) {run : Run σ} {p : Plan}

/-- An evaluation that was planned creates its side files and no others. -/
theorem evaluate_sideFiles (hplan : plan settings request run = .ok p) :
    ((Step.evaluate request).run sink settings observer run).sideFiles =
      run.sideFiles ++ [p.files] := by
  have hwatched : plan settings request run.watch = .ok p := hplan
  obtain ⟨exchanges, hextends⟩ := evaluate_extends sink observer hwatched
  rw [← (Step.evaluate request).run_watched sink settings observer run, ← place_sideFiles run p]
  exact hextends.sideFiles

theorem sideFiles_of_unplanned {failure : Failure}
    (hplan : plan settings request run = .error failure) :
    ((Step.evaluate request).run sink settings observer run).sideFiles = run.sideFiles := by
  simp only [Step.run, evaluate, perform, hplan]

/-- Whether an evaluation has written a source into its file: there it is found in every exchange
and after the last, but for what the session side has made of it by then. -/
structure Writes (sink : Sink σ) (settings : Settings) (observer : Option Observer)
    (request : Request) (run : Run σ) (own : SideFiles) (source : String) : Prop where
  found : ∀ front e back,
    (Step.evaluate request).exchanges sink settings observer run = front ++ e :: back →
    e.files.read? own.source =
      replay (some (Text.Utf8.encode source)) (history own.source front)
  left : ((Step.evaluate request).run sink settings observer run).files.read? own.source =
    replay (some (Text.Utf8.encode source))
      (history own.source ((Step.evaluate request).exchanges sink settings observer run))

theorem writes_of_plan (hplan : plan settings request run = .ok p) :
    Writes sink settings observer request run p.files p.wrapped := by
  obtain ⟨hlinked, _⟩ := evaluate_linked sink settings observer hplan
  have hplaced := place_read?_source run p
  constructor
  · intro front e back hsplit
    rw [hsplit] at hlinked
    rw [hlinked.read?_found p.files.source, hplaced]
  · rw [hlinked.read? p.files.source, hplaced]

/-- The source that a planned evaluation writes runs its snippet, and no other. -/
theorem runs_iff_of_plan (href : requested settings request = .ok ref)
    (hpersistent : ref.persistent = true) (hexpanded : Snippet.expand request = .ok snippet)
    (hplan : plan settings request run = .ok p) (other : String) :
    Template.Runs request.resultKind p.wrapped other ↔ other = snippet := by
  obtain ⟨hasked, ⟨text, htext, hwrapped⟩, _⟩ := plan_spec hplan
  rw [href] at hasked
  rw [hexpanded] at htext
  cases hasked
  cases htext
  rw [hpersistent] at hwrapped
  have hruns := Template.runs_of_wrap hwrapped
  constructor
  · intro hother
    exact hruns.snippet_unique hother
  · rintro rfl
    exact hruns

/-- An evaluation of either kind is planned once its snippet and its side files can be made. -/
theorem exists_plan (href : requested settings request = .ok ref)
    (hexpanded : Snippet.expand request = .ok snippet)
    (hkind : request.resultKind = .value ∨ request.resultKind = .output) (run : Run σ)
    (hcreated : run.files.creationFault? (directory settings run.files) SideFiles.uncreated = none) :
    ∃ p, plan settings request run = .ok p := by
  obtain ⟨wrapped, hwrapped⟩ : ∃ wrapped,
      Template.wrap snippet request.resultKind ref.persistent = .ok wrapped := by
    rcases hkind with hkind | hkind
    · rw [hkind]
      cases ref.persistent <;> exact ⟨_, rfl⟩
    · rw [hkind]
      cases ref.persistent <;> exact ⟨_, rfl⟩
  exact ⟨_, plan_eq run href hexpanded hwrapped hcreated⟩

end Evaluation

/-- The same snippet is evaluated and loaded. For a request to a session that persists, what loading
sends is just what the source runs that an evaluation writes, for either kind of result. An
evaluation writes it unless its side files cannot be created. And if no prologue stands before the
variables, what loading sends is what preparing a session with them sends, and then, on lines of its
own, what loading sends without them. -/
theorem snippet_shared (href : requested settings request = .ok ref)
    (hpersistent : ref.persistent = true) (hexpanded : Snippet.expand request = .ok snippet) :
    (∀ {σ : Type} (sink : Sink σ) (run : Run σ),
      (loadSession sink settings request run).2.events =
        run.events.push (.sent ref.name (.source snippet))) ∧
    (∀ {σ : Type} (sink : Sink σ) (observer : Option Observer) (run : Run σ),
      let evaluated := (Step.evaluate request).run sink settings observer run
      (∀ own, evaluated.sideFiles = run.sideFiles ++ [own] → ∃ source,
        Writes sink settings observer request run own source ∧
        ∀ other, Template.Runs request.resultKind source other ↔ other = snippet) ∧
      (request.resultKind = .value ∨ request.resultKind = .output →
        run.files.creationFault? (directory settings run.files) SideFiles.uncreated = none →
        ∃ own, evaluated.sideFiles = run.sideFiles ++ [own])) ∧
    (request.bindings ≠ [] → request.prologue.isVoid = true → ∃ assigned rest,
      snippet = assigned ++ "\n" ++ rest ∧
      ∀ {σ : Type} (sink : Sink σ) (run : Run σ),
        (∀ key, (resolve settings key).persistent = true →
          (prepSession sink settings key request.bindings run).2.events =
            run.events.push (.sent (resolve settings key).name (.source assigned))) ∧
        (loadSession sink settings { request with bindings := [] } run).2.events =
          run.events.push (.sent ref.name (.source rest))) := by
  refine ⟨?_, ?_, ?_⟩
  · intro σ sink run
    exact loadSession_events sink href hpersistent hexpanded run
  · intro σ sink observer run evaluated
    constructor
    · intro own hown
      cases hplan : plan settings request run with
      | error failure =>
          have hsame : run.sideFiles ++ [own] = run.sideFiles :=
            hown.symm.trans (sideFiles_of_unplanned sink observer hplan)
          simp at hsame
      | ok p =>
          have hcreated := hown.symm.trans (evaluate_sideFiles sink observer hplan)
          obtain rfl : own = p.files := by simpa using hcreated
          exact ⟨p.wrapped, writes_of_plan sink observer hplan,
            runs_iff_of_plan href hpersistent hexpanded hplan⟩
    · intro hkind hcreated
      obtain ⟨p, hplan⟩ := exists_plan href hexpanded hkind run hcreated
      exact ⟨p.files, evaluate_sideFiles sink observer hplan⟩
  · intro hbound hprologue
    obtain ⟨lines, rest, hlines, hsome, hrest, hsnippet⟩ :=
      Snippet.expand_bindings hprologue hbound hexpanded
    refine ⟨String.intercalate "\n" lines, rest, hsnippet, ?_⟩
    intro σ sink run
    constructor
    · intro key hkey
      rw [prepSession_eq (if_pos hkey) hlines hsome]
      exact send_events run sink _ _
    · have hasked : requested settings { request with bindings := [] } = .ok ref := href
      exact loadSession_events sink hasked hpersistent hrest run

/-- A request whose body holds what closes the string that it is parsed from, with variables and a
plot, and with a prologue that is empty. -/
def closing : Request where
  body := "f(\"$x\\\")) end"
  resultKind := .output
  sessionKey := .text " work\t"
  prologue := .text ""
  epilogue := .text "0"
  resultParams := ["graphics"]
  graphicsFile := .text "p\".png"
  bindings := [("x", .text "a\n\""), ("t", .list [.int 1])]

theorem snippet_shared_closing :
    let ref : SessionRef := ⟨"work", "work", true⟩
    let snippet := "x = \"a\n\\\"\"\nt = [1]\nf(\"$x\\\")) end\n" ++
      "plot!(size = (600, 400))\nsavefig(\"p\\\".png\")\n0"
    let start : Run Recording := { state := {}, files := { directories := Files.systemDirectories } }
    requested .usual closing = .ok ref ∧ Snippet.expand closing = .ok snippet ∧
    (loadSession Recording.sink .usual closing start).2.events =
      #[.sent "work" (.source snippet)] ∧
    (∃ own source, Writes Recording.sink .usual none closing start own source ∧
      ∀ other, Template.Runs .output source other ↔ other = snippet) ∧
    ∃ assigned rest, snippet = assigned ++ "\n" ++ rest ∧
      (prepSession Recording.sink .usual none closing.bindings start).2.events =
        #[.sent "main" (.source assigned)] := by
  intro ref snippet start
  have href : requested .usual closing = .ok ref := rfl
  have hexpanded : Snippet.expand closing = .ok snippet := rfl
  obtain ⟨hloaded, hevaluated, hparted⟩ := snippet_shared href rfl hexpanded
  obtain ⟨hwritten, hcreates⟩ := hevaluated Recording.sink none start
  obtain ⟨own, hown⟩ := hcreates (Or.inr rfl) (by decide)
  obtain ⟨source, hwrites, hruns⟩ := hwritten own hown
  obtain ⟨assigned, rest, hsnippet, hsent⟩ := hparted (by simp [closing]) rfl
  exact ⟨href, hexpanded, hloaded Recording.sink start, ⟨own, source, hwrites, hruns⟩, assigned,
    rest, hsnippet, (hsent Recording.sink start).1 none (by decide)⟩

end JuliaBlocks.Transport
