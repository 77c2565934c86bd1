import JuliaBlocks.Proofs.Run.Wait

/-!
Messages sent to one session one after another, up to the first that is refused.
-/

namespace JuliaBlocks.Run

variable {σ : Type} {sink : Sink σ}

/-- Sends messages in order and stops at the first refusal. -/
def deliver (sink : Sink σ) (session : String) : List Message → Run σ → Except Failure Unit × Run σ
  | [], run => (.ok (), run)
  | message :: messages, run =>
    match run.send sink session message with
    | (.error failure, run) => (.error failure, run)
    | (.ok (), run) => deliver sink session messages run

/-- What every send keeps is kept by all of them. -/
theorem deliver_induction {P : Run σ → Prop} (session : String)
    (hsend : ∀ (run : Run σ) (message : Message), P run → P (run.send sink session message).2)
    (messages : List Message) {run : Run σ} (hrun : P run) :
    P (run.deliver sink session messages).2 := by
  induction messages generalizing run with
  | nil => exact hrun
  | cons message messages ih =>
      have hnext := hsend run message hrun
      rw [deliver]
      split
      · next hsent =>
        rw [hsent] at hnext
        exact hnext
      · next hsent =>
        rw [hsent] at hnext
        exact ih hnext

/-- Sends log nothing, wait for nothing, and leave the bound session. -/
theorem deliver_frame (run : Run σ) (session : String) (messages : List Message) :
    let after := (run.deliver sink session messages).2
    after.records = run.records ∧ after.waits = run.waits ∧ after.session = run.session := by
  refine deliver_induction (P := fun after => after.records = run.records ∧
    after.waits = run.waits ∧ after.session = run.session) session ?_ messages ⟨rfl, rfl, rfl⟩
  intro mid message hmid
  simpa using hmid

end JuliaBlocks.Run
