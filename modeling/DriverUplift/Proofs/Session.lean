import DriverUplift.Session

/-!
# Laws of sessions

What a session does after a trace, read off its parts, and the steady sessions:
those that do the same whatever was done before, and only add to the trace.
-/

namespace DriverUplift

/-! ## Traces -/

namespace Trace

def append (first second : Trace) : Trace where
  requests := first.requests ++ second.requests
  events := first.events ++ second.events
  edits := first.edits ++ second.edits

instance : Append Trace := ⟨append⟩

theorem append_eq (first second : Trace) :
    first ++ second =
      ⟨first.requests ++ second.requests, first.events ++ second.events,
        first.edits ++ second.edits⟩ :=
  rfl

theorem append_empty (trace : Trace) : trace ++ ({} : Trace) = trace := by
  simp [append_eq]

theorem append_assoc (one two three : Trace) : one ++ two ++ three = one ++ (two ++ three) := by
  simp [append_eq]

def asking (trace : Trace) (transport : Transport) (url : String) : Trace :=
  { trace with
    requests := trace.requests ++ [url]
    events := trace.events ++ transport.notice url }

end Trace

namespace Transport

def IsFixed (transport : Transport) : Prop :=
  ∀ asked url, transport.answer asked url = transport.answer [] url

/-- The transport has at some time a body for an address. -/
def Answers (transport : Transport) (url body : String) : Prop :=
  ∃ asked, transport.answer asked url = .ok body

theorem isFixed_fixed (answer : String → Except Failure String) : (fixed answer).IsFixed :=
  fun _ _ => rfl

theorem IsFixed.answers_iff {transport : Transport} (fixed : transport.IsFixed)
    {url body : String} :
    transport.Answers url body ↔ transport.answer [] url = .ok body := by
  constructor
  · rintro ⟨asked, answered⟩
    rw [← fixed asked url, answered]
  · intro answered
    exact ⟨[], answered⟩

end Transport

/-- One computation over a state and then another; a failure of the first one ends both. -/
theorem Failure.run_bind {σ α β : Type} (first : ExceptT Failure (StateM σ) α)
    (next : α → ExceptT Failure (StateM σ) β) (start : σ) {result : Except Failure α}
    {between : σ} (ran : first.run start = (result, between)) :
    (first >>= next).run start =
      match result with
      | .ok value => (next value).run between
      | .error failure => (.error failure, between) := by
  unfold ExceptT.run at ran ⊢
  simp only [bind, ExceptT.bind, ExceptT.bindCont, ExceptT.mk, StateT.bind, ran]
  cases result <;> rfl

namespace Session

variable {α β : Type} {session : Session α} {next : α → Session β} {trace final : Trace}

/-! ## What a session does -/

theorem after_pure (value : α) (trace : Trace) :
    (pure value : Session α).after trace = (.ok value, trace) :=
  rfl

theorem after_throw (failure : Failure) (trace : Trace) :
    (throw failure : Session α).after trace = (.error failure, trace) :=
  rfl

theorem after_bind (session : Session α) (next : α → Session β) (trace : Trace) :
    (session >>= next).after trace =
      match session.after trace with
      | (.ok value, between) => (next value).after between
      | (.error failure, between) => (.error failure, between) := by
  cases ran : session.after trace with
  | mk result between =>
      refine (Failure.run_bind session next trace ran).trans ?_
      cases result <;> rfl

theorem after_report (event : Log.Event) (trace : Trace) :
    (report event).after trace = (.ok (), { trace with events := trace.events ++ [event] }) :=
  rfl

theorem after_edit (edits : List Edit) (trace : Trace) :
    (edit edits).after trace = (.ok (), { trace with edits := trace.edits ++ edits }) :=
  rfl

/-- Edits can be recorded one by one. -/
theorem edit_cons_cons (first second : Edit) (edits : List Edit) :
    edit (first :: second :: edits) = (do edit [first]; edit (second :: edits)) := by
  funext trace
  show (edit (first :: second :: edits)).after trace = Session.after trace _
  rw [after_bind, after_edit, after_edit]
  dsimp only
  rw [after_edit, List.append_assoc, List.singleton_append]

theorem after_ofExcept (result : Except Failure α) (trace : Trace) :
    (ofExcept result).after trace = (result, trace) := by
  cases result <;> rfl

theorem after_fetch (transport : Transport) (url : String) (trace : Trace) :
    (fetch transport url).after trace =
      (transport.answer trace.requests url,
        { trace with
          requests := trace.requests ++ [url]
          events := trace.events ++ transport.notice url }) :=
  after_ofExcept _ _

/-- Two sessions one after the other succeed when the first one does and then the second one. -/
theorem after_bind_ok {value : β} (ok : (session >>= next).after trace = (.ok value, final)) :
    ∃ first between, session.after trace = (.ok first, between) ∧
      (next first).after between = (.ok value, final) := by
  rw [after_bind] at ok
  cases done : session.after trace with
  | mk result between =>
      rw [done] at ok
      cases result with
      | ok first => exact ⟨first, between, rfl, ok⟩
      | error failure => cases ok

theorem after_ofExcept_ok {result : Except Failure α} {value : α}
    (ok : (ofExcept result).after trace = (.ok value, final)) :
    result = .ok value ∧ final = trace := by
  rw [after_ofExcept] at ok
  cases ok
  exact ⟨rfl, rfl⟩

/-! ## Steady sessions -/

/-- The session does the same after any trace, and adds what it does to the trace. -/
def Steady (session : Session α) : Prop :=
  ∀ trace, session.after trace = ((session.after {}).1, trace ++ (session.after {}).2)

theorem steady_pure (value : α) : Steady (pure value : Session α) := fun trace => by
  rw [after_pure, after_pure, Trace.append_empty]

theorem steady_throw (failure : Failure) : Steady (throw failure : Session α) := fun trace => by
  rw [after_throw, after_throw, Trace.append_empty]

theorem steady_ofExcept (result : Except Failure α) : Steady (ofExcept result) := fun trace => by
  rw [after_ofExcept, after_ofExcept, Trace.append_empty]

theorem steady_report (event : Log.Event) : Steady (report event) := fun trace => by
  simp [after_report, Trace.append_eq]

theorem steady_say (level : Log.Level) (message : String) : Steady (say level message) :=
  steady_report _

theorem steady_edit (edits : List Edit) : Steady (edit edits) := fun trace => by
  simp [after_edit, Trace.append_eq]

theorem steady_fetch {transport : Transport} (fixed : transport.IsFixed) (url : String) :
    Steady (fetch transport url) := fun trace => by
  simp [after_fetch, Trace.append_eq, fixed trace.requests url]

theorem Steady.bind (steady : Steady session) (rest : ∀ value, Steady (next value)) :
    Steady (session >>= next) := fun trace => by
  rw [after_bind, after_bind, steady trace]
  cases done : session.after {} with
  | mk result between =>
      cases result with
      | ok value =>
          simp only [rest value (trace ++ between), rest value between, Trace.append_assoc]
      | error failure => rfl

end Session

end DriverUplift
