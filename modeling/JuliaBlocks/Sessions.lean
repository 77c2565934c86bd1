import JuliaBlocks.Clock
import JuliaBlocks.Framework
import JuliaBlocks.Pool
import JuliaBlocks.Script

/-!
The session sides that a framework can choose from: the pool of processes, and the scripted sink
of each plugin that brings one.
-/

namespace JuliaBlocks

/-- A sink that keeps its state in a part of another state. -/
def Sink.within {σ τ : Type} (sink : Sink τ) (part : σ → τ) (update : τ → σ → σ) : Sink σ where
  send state files session message :=
    let reaction := sink.send (part state) files session message
    { state := update reaction.state state, changes := reaction.changes, fault := reaction.fault }
  pause state files interval :=
    let reaction := sink.pause (part state) files interval
    { state := update reaction.state state, changes := reaction.changes, fault := reaction.fault }

/-- The state of all session sides of a framework. -/
structure Sessions (π : Type) where
  pool : Pool π
  scripts : Named Script := []

namespace Sessions

variable {π : Type}

def script (plugin : String) (sessions : Sessions π) : Script :=
  (sessions.scripts.lookup plugin).getD {}

def setScript (plugin : String) (script : Script) (sessions : Sessions π) : Sessions π :=
  { sessions with scripts := Named.put plugin script sessions.scripts }

/-- The session side of a channel. All waits go by the clock. -/
def sink (host : Host π) : Channel → Sink (Sessions π)
  | .plugin name _ => (Script.sink.within (script name) (setScript name)).timed
  | .pool => ((Pool.sink host).within (·.pool) fun pool sessions => { sessions with pool }).timed

/-- Closes a channel. Scripts have nothing to close. -/
def shut (host : Host π) : Channel → Run (Sessions π) → Run (Sessions π)
  | .plugin _ _, run => run
  | .pool, run =>
    let (pool, changes) := run.state.pool.close host run.files
    { run with state := { run.state with pool }, files := run.files.applyAll changes }

/-- The session sides at the start, with a pool of the processes that the settings name. -/
def initial (scripts : Named Script) (settings : Settings) : Sessions π where
  pool := {
    command := settings.juliaCommand, arguments := settings.juliaArgs
    interval := settings.pollInterval.microseconds }
  scripts

end Sessions

end JuliaBlocks
