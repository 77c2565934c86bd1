import JuliaBlocks.Proofs.Run.Simulation
import JuliaBlocks.Proofs.Transport.Basic

/-!
The operations of the transport depend on the session side by what that does, not by how it keeps
its state.
-/

namespace JuliaBlocks.Transport

open Run

variable {σ τ : Type} {f : σ → τ} {sink : Sink σ} {image : Sink τ} {settings : Settings}

theorem report_mapState (p : Plan) (arrived : Bool) (result : String) (run : Run σ) :
    report settings p arrived result (run.mapState f) =
      (report settings p arrived result run).mapState f := by
  cases arrived with
  | false => rfl
  | true =>
      by_cases hlong : result = Output.suppressed
      · simp only [report, hlong]
        rfl
      · simp [report, hlong]

theorem collect_mapState (hsim : sink.Simulates f image) (request : Request) (p : Plan)
    (run : Run σ) :
    collect image settings request p (run.mapState f) =
      Prod.map id (mapState f) (collect sink settings request p run) := by
  have hlog : (run.mapState f).log .debug (sentMessage request p) =
      (run.log .debug (sentMessage request p)).mapState f := rfl
  simp only [collect, hlog, awaitOutput_mapState hsim]
  rcases awaitOutput sink p.files.output (.float settings.pollInterval)
    settings.pollAttempts.toNat (run.log .debug (sentMessage request p)) with ⟨_ | arrived, after⟩
  · rfl
  · simp only [Prod.map, id_eq, report_mapState]
    rfl

theorem transmit_mapState (hsim : sink.Simulates f image) (request : Request) (p : Plan)
    (run : Run σ) :
    transmit image settings request p (run.mapState f) =
      Prod.map id (mapState f) (transmit sink settings request p run) := by
  rw [transmit_eq, transmit_eq]
  cases script settings request p with
  | error failure => rfl
  | ok messages => exact deliver_mapState hsim p.ref.name messages run

theorem observe_mapState (observer : Option Observer) (request : Request) (result : String)
    (run : Run σ) :
    observe observer request result (run.mapState f) =
      Prod.map id (mapState f) (observe observer request result run) := by
  cases observer with
  | none => rfl
  | some observer =>
      simp only [observe]
      cases observer request result with
      | none => rfl
      | some failure => rfl

theorem perform_mapState (hsim : sink.Simulates f image) (request : Request) (run : Run σ) :
    perform image settings request (run.mapState f) =
      Prod.map id (mapState f) (perform sink settings request run) := by
  have hplan : plan settings request (run.mapState f) = plan settings request run := rfl
  simp only [perform, hplan]
  cases plan settings request run with
  | error failure => rfl
  | ok p =>
      have hsent : transmit image settings request p
          { place (run.mapState f) p with session := p.ref.name } = Prod.map id (mapState f)
            (transmit sink settings request p { place run p with session := p.ref.name }) :=
        transmit_mapState hsim request p { place run p with session := p.ref.name }
      simp only [hsent]
      rcases transmit sink settings request p { place run p with session := p.ref.name } with
        ⟨_ | _, sent⟩
      · rfl
      · simp only [Prod.map, id_eq, collect_mapState hsim]
        rfl

theorem evaluate_mapState (hsim : sink.Simulates f image) (observer : Option Observer)
    (request : Request) (run : Run σ) :
    evaluate image settings observer request (run.mapState f) =
      Prod.map id (mapState f) (evaluate sink settings observer request run) := by
  rw [evaluate, evaluate, perform_mapState hsim]
  rcases perform sink settings request run with ⟨_ | result, after⟩
  · rfl
  · exact observe_mapState observer request result after

theorem prepSession_mapState (hsim : sink.Simulates f image) (key : Option String)
    (bindings : List (String × Value)) (run : Run σ) :
    prepSession image settings key bindings (run.mapState f) =
      Prod.map id (mapState f) (prepSession sink settings key bindings run) := by
  unfold prepSession
  split
  · rfl
  · rfl
  · next ref lines _ _ =>
    rw [send_mapState hsim]
    rcases run.send sink ref.name (.source (String.intercalate "\n" lines)) with ⟨_ | _, after⟩
    · rfl
    · rfl

theorem loadSession_mapState (hsim : sink.Simulates f image) (request : Request) (run : Run σ) :
    loadSession image settings request (run.mapState f) =
      Prod.map id (mapState f) (loadSession sink settings request run) := by
  unfold loadSession
  split
  · rfl
  · next ref snippet _ =>
    rw [send_mapState hsim]
    rcases run.send sink ref.name (.source snippet) with ⟨_ | _, after⟩
    · rfl
    · rfl

end JuliaBlocks.Transport
