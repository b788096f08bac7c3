import Autopilot.Source.Study

/-!
# Sessions

A session holds a world and, after a text has been read, the source of that text.  Its
calls are data: what a session answers to a sequence of calls is a function of it.
-/

namespace Autopilot

/-- What is held between calls. -/
structure Session (σ : Type) where
  held : Option Source
  world : σ

namespace Session

variable {σ : Type}

/-- What can be asked of a session. -/
inductive Call (σ : Type) where
  /-- Reads a text and holds its source. -/
  | read (text : String) (rules : Option Rules)
  /-- Checks the held source, or a text if none is held. -/
  | check (text : String) (rules : Option Rules)
  /-- Runs the held source, or a text if none is held, for a tick. -/
  | tick (text : String) (rules : Option Rules) (registry : Registry σ)
    (tolerance : Tolerance)
  /-- Gives the remarks on the held source. -/
  | remarks
  /-- Lets go of the held source. -/
  | forget
  /-- Changes the world. -/
  | change (change : σ → σ)

/-- What a session answers. -/
inductive Answer where
  | source (source : Source)
  | check (report : CheckReport) (reused : Bool)
  | tick (report : TickReport)
  | remarks (diagnostics : List Diagnostic)
  | done

/-- The answer to a call or a fault, the session after the call, and what was logged. -/
structure Reply (σ : Type) where
  answer : Except Fault Answer
  session : Session σ
  log : List LogRecord

/-- The session with another held source, if one is held. -/
def keep (session : Session σ) (source : Source) : Session σ :=
  { session with held := session.held.map fun _ => source }

/-- The reply to a call. -/
def reply [World σ] (session : Session σ) : Call σ → Reply σ
  | .read text rules =>
    match Source.ofText text rules with
    | .error fault => ⟨.error fault, session, []⟩
    | .ok source => ⟨.ok (.source source), { session with held := some source }, []⟩
  | .check text rules =>
    match Source.study session.held text rules with
    | .error fault => ⟨.error fault, session, []⟩
    | .ok report =>
      ⟨.ok (.check report session.held.isSome), session.keep report.source,
        [report.logged]⟩
  | .tick text rules registry tolerance =>
    let study := Source.runTick session.held text rules registry tolerance session.world
    ⟨study.report.map .tick, { session with world := study.world }, study.log⟩
  | .remarks =>
    match session.held with
    | none => ⟨.ok .done, session, []⟩
    | some source =>
      match source.check with
      | .error fault => ⟨.error fault, session, []⟩
      | .ok (diagnostics, source) =>
        ⟨.ok (.remarks diagnostics), session.keep source, []⟩
  | .forget => ⟨.ok .done, { session with held := none }, []⟩
  | .change change => ⟨.ok .done, { session with world := change session.world }, []⟩

end Session

end Autopilot
