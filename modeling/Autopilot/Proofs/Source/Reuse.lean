import Autopilot.Proofs.Source.Totality
import Autopilot.Source.Session

/-!
# Using a source again

A source that is held is read once and used many times.  Its check is made when it is
first asked for and remembered; ticks change the world in between; and calls that give
rules along with the held source are refused.  Whatever was done before, every use of
the held source is answered as if the text were read anew for it.
-/

namespace Autopilot

/-! ## What a held source remembers -/

/-- A source as it was read, or the same with the remarks of its check. -/
inductive Source.Remembers (fresh : Source) : Source → Prop
  | unasked : Remembers fresh fresh
  | asked : Remembers fresh fresh.checked

namespace Source

variable {fresh held : Source}

theorem Remembers.eq_with (h : fresh.Remembers held) :
    held = { fresh with remarks := held.remarks } := by
  cases h with
  | unasked => rfl
  | asked => rfl

/-- Asked once or again, a source gives the same remarks, and remembers them. -/
theorem Remembers.check_eq (h : fresh.Remembers held) (hfresh : fresh.IsFresh) :
    held.check = .ok (fresh.rules.violations fresh.script, fresh.checked) := by
  cases h with
  | unasked => exact hfresh.check_eq
  | asked => rfl

/-- The check of a held source does not look at the text given with it. -/
theorem Remembers.study_eq (h : fresh.Remembers held) (hfresh : fresh.IsFresh)
    (other : String) : study (some held) other none = .ok fresh.checkReport := by
  simp only [study, resolve, bind, Except.bind, h.check_eq hfresh]
  rfl

end Source

namespace Session

variable {σ : Type} [World σ]

/-- The uses of a held source.  The text given with a use is not looked at; rules given
with it are refused.  Between the uses the world may change. -/
inductive Use (σ : Type) where
  | check (text : String) (rules : Option Rules)
  | tick (text : String) (rules : Option Rules) (registry : Registry σ)
    (tolerance : Tolerance)
  | remarks
  | change (alter : σ → σ)

/-- The call that a use is. -/
def Use.call : Use σ → Call σ
  | check text rules => .check text rules
  | tick text rules registry tolerance => .tick text rules registry tolerance
  | remarks => .remarks
  | change alter => .change alter

/-- Whether rules are given with a use. -/
def Use.givesRules : Use σ → Bool
  | check _ rules => rules.isSome
  | tick _ rules _ _ => rules.isSome
  | _ => false

/-- The session after some uses of its source. -/
def after (session : Session σ) (uses : List (Use σ)) : Session σ :=
  uses.foldl (fun session use => (session.reply use.call).session) session

variable {session : Session σ} {fresh held : Source}

/-! ## One use -/

theorem reply_check (h : fresh.Remembers held) (hfresh : fresh.IsFresh) (world : σ)
    (other : String) :
    reply ⟨some held, world⟩ (.check other none) =
      ⟨.ok (.check fresh.checkReport true), ⟨some fresh.checked, world⟩,
        [fresh.checkReport.logged]⟩ := by
  simp only [reply, h.study_eq hfresh]
  rfl

theorem reply_remarks (h : fresh.Remembers held) (hfresh : fresh.IsFresh) (world : σ) :
    reply ⟨some held, world⟩ .remarks =
      ⟨.ok (.remarks (fresh.rules.violations fresh.script)), ⟨some fresh.checked, world⟩,
        []⟩ := by
  simp only [reply, h.check_eq hfresh]
  rfl

/-- A tick reports the held source, and is otherwise that of the text read anew. -/
theorem reply_tick (h : fresh.Remembers held) {text : String} {rules : Option Rules}
    (hread : Source.ofText text rules = .ok fresh) (world : σ) (other : String)
    (registry : Registry σ) (tolerance : Tolerance) :
    let study := Source.runTick none text rules registry tolerance world
    reply ⟨some held, world⟩ (.tick other none registry tolerance) =
      ⟨study.report.map fun report => .tick { report with source := held },
        ⟨some held, study.world⟩, study.log⟩ := by
  intro study
  have hscript : held.script = fresh.script := by
    rw [h.eq_with]
    rfl
  have hreading : held.reading = fresh.reading := by
    rw [h.eq_with]
  simp only [study, reply, Source.runTick, Source.resolve, hread, hscript, hreading]
  cases (fresh.script.tick registry tolerance world).tick with
  | error fault => rfl
  | ok tick => rfl

/-- A use with rules is refused and changes nothing. -/
theorem reply_of_givesRules (held : Source) (world : σ) {use : Use σ}
    (hrules : use.givesRules = true) :
    reply ⟨some held, world⟩ use.call =
      ⟨.error .sourceWithOptions, ⟨some held, world⟩, []⟩ := by
  cases use with
  | check text rules =>
      obtain ⟨given, rfl⟩ := Option.isSome_iff_exists.mp hrules
      rfl
  | tick text rules registry tolerance =>
      obtain ⟨given, rfl⟩ := Option.isSome_iff_exists.mp hrules
      rfl
  | _ => cases hrules

/-! ## Many uses -/

/-- A session holds a source that was read, perhaps with the remarks of its check. -/
def HoldsRead (session : Session σ) (fresh : Source) : Prop :=
  ∃ held world, session = ⟨some held, world⟩ ∧ fresh.Remembers held

/-- A use leaves the held source, at most with the remarks of its check. -/
theorem HoldsRead.reply (h : session.HoldsRead fresh) (hfresh : fresh.IsFresh)
    (use : Use σ) : (session.reply use.call).session.HoldsRead fresh := by
  obtain ⟨held, world, rfl, hremembers⟩ := h
  by_cases hrules : use.givesRules = true
  · rw [reply_of_givesRules held world hrules]
    exact ⟨held, world, rfl, hremembers⟩
  · cases use with
    | check other rules =>
        obtain rfl : rules = none := by simpa [Use.givesRules] using hrules
        rw [Use.call, reply_check hremembers hfresh]
        exact ⟨_, world, rfl, .asked⟩
    | tick other rules registry tolerance => exact ⟨held, _, rfl, hremembers⟩
    | remarks =>
        rw [Use.call, reply_remarks hremembers hfresh]
        exact ⟨_, world, rfl, .asked⟩
    | change alter => exact ⟨held, _, rfl, hremembers⟩

theorem HoldsRead.after (h : session.HoldsRead fresh) (hfresh : fresh.IsFresh)
    (uses : List (Use σ)) : (session.after uses).HoldsRead fresh := by
  induction uses generalizing session with
  | nil => exact h
  | cons use uses ih => exact ih (h.reply hfresh use)

/-- Uses that are refused might as well not have been made. -/
theorem HoldsRead.after_filter (h : session.HoldsRead fresh) (hfresh : fresh.IsFresh)
    (uses : List (Use σ)) :
    session.after (uses.filter fun use => !use.givesRules) = session.after uses := by
  induction uses generalizing session with
  | nil => rfl
  | cons use uses ih =>
      have hrest := ih (h.reply hfresh use)
      by_cases hrules : use.givesRules = true
      · obtain ⟨held, world, rfl, -⟩ := h
        have hsame : (Session.reply ⟨some held, world⟩ use.call).session =
            ⟨some held, world⟩ := by
          rw [reply_of_givesRules held world hrules]
        rw [hsame] at hrest
        rw [List.filter_cons_of_neg (by simp [hrules]), hrest, Session.after, Session.after,
          List.foldl_cons, hsame]
      · rw [List.filter_cons_of_pos (by simp [hrules])]
        exact hrest

/-! ## As if read anew -/

/-- What is asked of a held source is answered as if its text were read anew for it, and
changes the world as it would then, whatever other text is given with the question.
Whoever gives rules is refused, and nothing is changed. -/
structure AnswersAfresh (session : Session σ) (text : String) (rules : Option Rules)
    (held : Source) : Prop where
  check : ∀ other,
    let reply := session.reply (.check other none)
    reply.answer = (Source.study none text rules).map (.check · true) ∧
      reply.session.world = session.world
  tick : ∀ other registry tolerance,
    let study := Source.runTick none text rules registry tolerance session.world
    let reply := session.reply (.tick other none registry tolerance)
    reply.answer = study.report.map (fun report => .tick { report with source := held }) ∧
      reply.session.world = study.world
  remarks :
    (session.reply .remarks).answer =
        ((Source.ofText text rules).bind Source.check).map (.remarks ·.1) ∧
      (session.reply .remarks).session.world = session.world
  refused_check : ∀ other given,
    session.reply (.check other (some given)) = ⟨.error .sourceWithOptions, session, []⟩
  refused_tick : ∀ other given registry tolerance,
    session.reply (.tick other (some given) registry tolerance) =
      ⟨.error .sourceWithOptions, session, []⟩

theorem answersAfresh_of_remembers (h : fresh.Remembers held) (hfresh : fresh.IsFresh)
    {text : String} {rules : Option Rules} (hread : Source.ofText text rules = .ok fresh)
    (world : σ) : AnswersAfresh ⟨some held, world⟩ text rules held where
  check other := by
    rw [reply_check h hfresh, hfresh.study_eq hread]
    exact ⟨rfl, rfl⟩
  tick other registry tolerance := by
    have hreply := reply_tick h hread world other registry tolerance
    exact ⟨congrArg Reply.answer hreply, congrArg (·.session.world) hreply⟩
  remarks := by
    rw [reply_remarks h hfresh, hread, Except.bind, hfresh.check_eq]
    exact ⟨rfl, rfl⟩
  refused_check other given := by
    have hrules : (Use.check other (some given) : Use σ).givesRules = true := rfl
    exact reply_of_givesRules held world hrules
  refused_tick other given registry tolerance := by
    have hrules : (Use.tick other (some given) registry tolerance).givesRules = true := rfl
    exact reply_of_givesRules held world hrules

/-- A text that is read once can be used any number of times.  After it was read, and
after any uses of its source in any order, with changes of the world between them, the
source is held as it was read, at most with the remarks of its check, and every use is
answered as if the text were read anew for it.  A use that gives rules is refused; it
leaves the world and the held source as they are, so that all other uses go on as
without it. -/
theorem reply_after_read (session : Session σ) (text : String) (rules : Option Rules)
    (uses : List (Use σ)) :
    let opened := (session.reply (.read text rules)).session
    let reached := opened.after uses
    ∃ fresh held, Source.ofText text rules = .ok fresh ∧ fresh.Remembers held ∧
      reached.held = some held ∧ reached.AnswersAfresh text rules held ∧
      reached = opened.after (uses.filter fun use => !use.givesRules) := by
  intro opened reached
  obtain ⟨fresh, hread, hfresh⟩ := Source.exists_ofText text rules
  have hopened : opened.HoldsRead fresh := by
    refine ⟨fresh, session.world, ?_, .unasked⟩
    simp only [opened, reply, hread]
  have hfilter := hopened.after_filter hfresh uses
  obtain ⟨held, world, hreached, hremembers⟩ := hopened.after hfresh uses
  have hafresh := answersAfresh_of_remembers hremembers hfresh hread world
  rw [← hreached] at hafresh
  refine ⟨fresh, held, hread, hremembers, ?_, hafresh, hfilter.symm⟩
  change (opened.after uses).held = _
  rw [hreached]

end Session

end Autopilot
