import JuliaBlocks.Run

/-!
The clock that waits go by. It counts nanoseconds in 64 bits with a sign, so that there are
intervals for which it cannot wait.
-/

namespace JuliaBlocks.Clock

/-- A bound that no number of nanoseconds reaches. -/
def limit : Nat := Nat.pow 2 63

/-- Whether a number of seconds, given by a significand and an exponent, has no more nanoseconds than
the clock counts. -/
def counts (significand : Nat) (exponent : Int) : Bool :=
  significand * 1000000000 <<< exponent.toNat < limit <<< (-exponent).toNat

/-- Why there is no waiting for an interval, if there is none. -/
def fault? : Value → Option Failure
  | .float .nan => some .undefinedInterval
  | .float (.infinity _) => some .endlessInterval
  | .float (.finite negative significand exponent _) =>
    if !counts significand exponent then some .endlessInterval
    else if negative && significand != 0 then some .negativeInterval
    else none
  | .int n =>
    if limit ≤ n.natAbs * 1000000000 then some .overlongInterval
    else if n < 0 then some .negativeInterval
    else none
  | .bool _ => none
  | v => some (.notInteger v.kindName)

end JuliaBlocks.Clock

namespace JuliaBlocks

/-- A session side whose waits go by the clock. Nothing happens in a wait that is none. -/
def Sink.timed {σ : Type} (sink : Sink σ) : Sink σ where
  send := sink.send
  pause state files interval :=
    match Clock.fault? interval with
    | some fault => { state, fault := some fault }
    | none => sink.pause state files interval

end JuliaBlocks
