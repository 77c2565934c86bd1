import JuliaBlocks.Run
import JuliaBlocks.Settings
import JuliaBlocks.Snippet
import JuliaBlocks.Template
import JuliaBlocks.Trace

/-!
The transport: it brings snippets to sessions and results back. An evaluation writes the wrapped
snippet into a side file of its own, sends the session a line that includes it, and waits for
the other side file to fill.
-/

namespace JuliaBlocks.Transport

/-- What an evaluation is going to do, once nothing in it can fail before its first send. -/
structure Plan where
  ref : SessionRef
  wrapped : String
  files : SideFiles
  trampoline : String

/-- The session that a key means under the settings. -/
def resolve (settings : Settings) (key : Option String) : SessionRef :=
  SessionRef.resolve key settings.defaultSession

/-- The session that a request means, whose key is a text or null. Octets are a key too, known by
their quoted form. -/
def requested (settings : Settings) (request : Request) : Except Failure SessionRef :=
  match request.sessionKey with
  | .null => .ok (resolve settings none)
  | .text key => .ok (resolve settings (some key))
  | .octets bytes =>
    let kept := Text.trimOctets bytes
    if kept.isEmpty then .ok (resolve settings none)
    else .ok ⟨Text.quotedOctets kept, Text.quotedOctets kept, true⟩
  | v => .error (.lackingPart v.kindName "strip")

def directory (settings : Settings) (files : Files) : String :=
  match settings.tempDir with
  | none => files.temporary
  | some path => Path.resolve files.working path

variable {σ : Type}

/-- Works out an evaluation: its session, its wrapped snippet and, if their directory exists, its
side files, which have the next names of the run. -/
def plan (settings : Settings) (request : Request) (run : Run σ) : Except Failure Plan := do
  let ref ← requested settings request
  let expanded ← Snippet.expand request
  let wrapped ← Template.wrap expanded request.resultKind ref.persistent
  let directory := directory settings run.files
  let side := run.naming.files directory (run.created + 1)
  match run.files.creationFault? directory SideFiles.uncreated with
  | some fault => throw (.uncreatable fault (Path.join directory SideFiles.uncreated))
  | none =>
    let trampoline ← trampoline side.source side.output request.resultKind
    return { ref, wrapped, files := side, trampoline }

/-- Creates the side files of an evaluation, the output file empty. -/
def place (run : Run σ) (plan : Plan) : Run σ :=
  let files := (run.files.write plan.files.output []).write plan.files.source
    (Text.Utf8.encode plan.wrapped)
  Run.note { run with files, created := run.created + 1 } (.created plan.files)

/-- Sends what starts an evaluation: the trace when debugging, and then the trampoline. -/
def transmit (sink : Sink σ) (settings : Settings) (request : Request) (plan : Plan)
    (run : Run σ) : Except Failure Unit × Run σ :=
  let start (run : Run σ) := run.send sink plan.ref.name (.trampoline plan.files plan.trampoline)
  if settings.debug then
    match Trace.render request.params plan.wrapped with
    | .error failure => (.error failure, run)
    | .ok trace =>
      match run.send sink plan.ref.name (.trace trace) with
      | (.error failure, run) => (.error failure, run)
      | (.ok (), run) => start run
  else start run

/-- The record of a trampoline that was sent. -/
def sentMessage (request : Request) (plan : Plan) : String :=
  "transport.sent session=" ++ plan.ref.name ++ " kind=" ++
    (request.resultKind.toValue.display?.getD "") ++
    " persistent=" ++ (if plan.ref.persistent then "True" else "False") ++
    " source=" ++ plan.files.source

/-- Logs what is noteworthy about the output of an evaluation: that nothing came in time, or that it
was replaced by the notice. -/
def report (settings : Settings) (plan : Plan) (arrived : Bool) (result : String) (run : Run σ) :
    Run σ :=
  if !arrived then
    run.log .warning ("transport.timeout session=" ++ plan.ref.name ++ " output=" ++
      plan.files.output)
  else if result = Output.suppressed then
    run.log .info ("transport.suppressed session=" ++ plan.ref.name ++ " limit=" ++
      Numeral.render settings.maxLineLength)
  else run

/-- Waits for the output of an evaluation and reads it, unless the wait fails. -/
def collect (sink : Sink σ) (settings : Settings) (request : Request) (plan : Plan)
    (run : Run σ) : Except Failure String × Run σ :=
  let run := run.log .debug (sentMessage request plan)
  match run.awaitOutput sink plan.files.output (.float settings.pollInterval)
    settings.pollAttempts.toNat with
  | (.error failure, run) => (.error failure, run)
  | (.ok arrived, run) =>
    let result := Output.read (run.files.read? plan.files.output) settings.maxLineLength
    (.ok result, report settings plan arrived result run)

/-- Evaluates a request up to its result. Log records are marked with its session meanwhile. -/
def perform (sink : Sink σ) (settings : Settings) (request : Request) (run : Run σ) :
    Except Failure String × Run σ :=
  match plan settings request run with
  | .error failure => (.error failure, run)
  | .ok plan =>
    -- Records are marked with the session until the operation is over, failed or not.
    let bound := { place run plan with session := plan.ref.name }
    match transmit sink settings request plan bound with
    | (.error failure, after) => (.error failure, { after with session := run.session })
    | (.ok (), after) =>
      let (result, after) := collect sink settings request plan after
      (result, { after with session := run.session })

/-- What is told of each finished evaluation; it may fail. -/
abbrev Observer := Request → String → Option Failure

/-- Tells an observer of a finished evaluation. -/
def observe (observer : Option Observer) (request : Request) (result : String) (run : Run σ) :
    Except Failure String × Run σ :=
  match observer with
  | none => (.ok result, run)
  | some observer =>
    let run := run.note (.observed request result)
    match observer request result with
    | none => (.ok result, run)
    | some failure => (.error failure, run)

/-- Evaluates a request and tells the observer of its result. -/
def evaluate (sink : Sink σ) (settings : Settings) (observer : Option Observer)
    (request : Request) (run : Run σ) : Except Failure String × Run σ :=
  match perform sink settings request run with
  | (.error failure, run) => (.error failure, run)
  | (.ok result, run) => observe observer request result run

/-- A session, which has to keep its state. -/
def persistent (ref : SessionRef) : Except Failure SessionRef :=
  if ref.persistent then .ok ref else .error (.session (.stateless ref.key))

/-- Binds variables in a persistent session by one send; without variables nothing is sent. -/
def prepSession (sink : Sink σ) (settings : Settings) (key : Option String)
    (bindings : List (String × Value)) (run : Run σ) : Except Failure SessionRef × Run σ :=
  match (do return (← persistent (resolve settings key), ← Julia.assignments bindings)) with
  | .error failure => (.error failure, run)
  | .ok (ref, []) => (.ok ref, run)
  | .ok (ref, lines) =>
    match run.send sink ref.name (.source (String.intercalate "\n" lines)) with
    | (.error failure, run) => (.error failure, run)
    | (.ok (), run) => (.ok ref, run)

/-- Sends the snippet of a request to a persistent session and does not wait. -/
def loadSession (sink : Sink σ) (settings : Settings) (request : Request) (run : Run σ) :
    Except Failure SessionRef × Run σ :=
  match (do
    return (← persistent (← requested settings request), ← Snippet.expand request)) with
  | .error failure => (.error failure, run)
  | .ok (ref, snippet) =>
    match run.send sink ref.name (.source snippet) with
    | (.error failure, run) => (.error failure, run)
    | (.ok (), run) => (.ok ref, run)

end JuliaBlocks.Transport
