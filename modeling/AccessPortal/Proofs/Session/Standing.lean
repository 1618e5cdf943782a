import AccessPortal.Proofs.Program.Events
import AccessPortal.Proofs.Program.Since
import AccessPortal.Proofs.Session.Outcomes

/-!
# Where a session stands

The parts of a session agree with one another between any two calls, and with what the calls
answered; and a session that is signed out knows why. The last depends on everything that was asked
of it: a rejection by the service is remembered through attempts to come back, until the next
sign-in or sign-out (`standing_of_live`). Nothing is assumed about the store and the service.
-/

namespace AccessPortal

def Event.IsRejection : Event → Prop
  | .currentUser _ reply => reply = .error .unauthorized
  | _ => False

def Dismissed (events : List Event) : Prop :=
  ∃ event ∈ events, event.IsRejection

theorem dismissed_concat (past : List Event) (event : Event) :
    Dismissed (past ++ [event]) ↔ Dismissed past ∨ event.IsRejection := by
  simp [Dismissed, or_and_right, exists_or]

namespace Session

variable {σ : Type} {handler : Handler σ}

structure Coherent (session : Session) : Prop where
  answered : session.state ≠ .authenticating
  token : session.isAuthenticated ↔ session.accessToken.isSome
  time : session.isAuthenticated ↔ session.loggedInAt.isSome
  refresh : session.refreshToken.isSome → session.isAuthenticated

/-- A call with its answer, what happened meanwhile, and the session after it. -/
structure Turn where
  call : Call
  reply : call.Reply
  events : List Event
  after : Session

def journal (handler : Handler σ) : List Call → Session → σ → List Turn
  | [], _, _ => []
  | call :: calls, session, state =>
    let ended := (call.program session).run handler.recorded ([], state)
    ⟨call, ended.1.1, ended.2.1, ended.1.2⟩ :: journal handler calls ended.1.2 ended.2.2

/-- The call signals that the service does not accept the session any more. -/
def Call.Signals (events : List Event) : Call → Prop
  | .expire => True
  | .observe error => error = .unauthorized
  | .resume => Dismissed events
  | _ => False

/-- The call begins or ends a session by the will of the user. -/
def Call.Resets : Call → Prop
  | .login _ | .logout => True
  | _ => False

/-- There was a signal, and neither a sign-in nor a sign-out was called since. -/
def Rejected (turns : List Turn) : Prop :=
  ∃ earlier signal later, turns = earlier ++ signal :: later ∧
    signal.call.Signals signal.events ∧ ∀ turn ∈ later, ¬ turn.call.Resets

theorem rejected_concat (turns : List Turn) (turn : Turn) :
    Rejected (turns ++ [turn]) ↔
      turn.call.Signals turn.events ∨ Rejected turns ∧ ¬ turn.call.Resets :=
  since_concat turns turn

/-! ## The parts of a session -/

/-- A store that may do anything. -/
theorem regime_any (handler : Handler σ) : Regime handler (fun _ => True) (fun _ _ => True) where
  stable_clear := stable_true
  stable_kept _ := stable_true
  clearCache _ := ⟨fun _ _ => trivial, trivial⟩
  cache _ _ _ := ⟨fun _ _ => trivial, trivial⟩
  load _ _ := by
    refine ⟨fun _ _ => trivial, ?_⟩
    split <;> trivial

theorem coherent_of_settled {session : Session} {state : σ}
    (settled : Settled (fun _ => True) (fun _ _ => True) session state) : session.Coherent := by
  rcases settled with ⟨signedOut, -⟩ | ⟨cached, holds, -⟩
  · rw [signedOut]
    exact ⟨nofun, ⟨nofun, nofun⟩, ⟨nofun, nofun⟩, nofun⟩
  · rw [holds]
    exact ⟨nofun, ⟨fun _ => rfl, fun _ => rfl⟩, ⟨fun _ => rfl, fun _ => rfl⟩, fun _ => rfl⟩

/-! ## Why a session is signed out -/

/-- Where no answer is a rejection, there is one afterwards only if there was one before. -/
theorem dismissed_step {handler : Handler σ} {rejected : Prop} {β : Type}
    {operation : Operation β} (silent : ∀ reply, ¬ (operation.event reply).IsRejection)
    (moment : List Event × σ) (before : Dismissed moment.1 ↔ rejected) :
    Dismissed (handler.recorded operation moment).2.1 ↔ rejected := by
  have step := dismissed_concat moment.1 (operation.event (handler operation moment.2).1)
  exact step.trans ((or_iff_left (silent _)).trans before)

theorem upkeep_silent {handler : Handler σ} {rejected : Prop} {β : Type} (operation : Operation β)
    (upkeep : operation.IsUpkeep) (moment : List Event × σ)
    (before : Dismissed moment.1 ↔ rejected) :
    Dismissed (handler.recorded operation moment).2.1 ↔ rejected := by
  refine dismissed_step (fun reply => ?_) moment before
  cases operation with
  | currentUser token => exact upkeep.elim
  | _ => exact id

theorem restore_silent (session : Session) (rejected : Prop) :
    session.restore.Preserves handler.recorded fun moment => Dismissed moment.1 ↔ rejected :=
  restore_preserves upkeep_silent session

theorem reconcile_silent (session : Session) (token : String)
    (reply : Except ServiceError Profile) (rejected : Prop) :
    (session.reconcile token reply).Preserves handler.recorded
      fun moment => Dismissed moment.1 ↔ rejected := by
  refine reconcile_preserves upkeep_silent ?_ session token reply
  exact persist_preserves upkeep_silent fun key _ value moment before =>
    dismissed_step (fun _ => id) moment before

theorem isAuthFailure_iff {error : ServiceError} :
    error.isAuthFailure = true ↔ error = .unauthorized := by
  cases error <;> simp [ServiceError.isAuthFailure]

theorem rejects_iff {reply : Except ServiceError Profile} :
    rejects reply = true ↔ reply = .error .unauthorized := by
  cases reply with
  | ok profile => exact ⟨nofun, nofun⟩
  | error e => simp [rejects, isAuthFailure_iff]

/-- Coming back takes note of a rejection and forgets none. -/
theorem resume_expired (session : Session) (state : σ) :
    session.resume.Ends handler.recorded
      (fun (_, after) moment =>
        after.expired = true ↔ Dismissed moment.1 ∨ session.expired = true)
      ([], state) := by
  have nothing : Dismissed [] ↔ False := by simp [Dismissed]
  have regime := regime_any (handler.recorded (σ := σ))
  refine ((regime.restore session (.inl trivial)).and
    (restore_silent session False _ nothing)).bind ?_
  intro result moment ends
  obtain ⟨restored, after⟩ := result
  obtain ⟨past, s⟩ := moment
  obtain ⟨⟨cached, rfl, rfl, -⟩ | ⟨rfl, rfl, -⟩, silent⟩ := ends
  · have asked : (Service.currentUser cached.accessToken).Ends handler.recorded
        (fun reply moment => Dismissed moment.1 ↔ reply = .error .unauthorized) (past, s) := by
      have step := dismissed_concat past
        (.currentUser cached.accessToken (handler (.currentUser cached.accessToken) s).1)
      exact .operation trivial (step.trans (or_iff_right silent.mp))
    refine asked.bind fun reply moment told => ?_
    refine ((regime.reconcile session cached reply fun _ _ => trivial).and
      (reconcile_silent _ _ reply _ moment told)).imp ?_
    intro result last ends
    obtain ⟨confirmed, after⟩ := result
    obtain ⟨⟨cached, left, rfl, rfl, -⟩ | ⟨-, rfl, rfl, -⟩, known⟩ := ends
    · have accepted : ¬ reply = .error .unauthorized := by
        rw [← rejects_iff, rejects_of_reconciled left]
        nofun
      exact (or_iff_right fun told => accepted (known.mp told)).symm
    · rw [known, ← rejects_iff, or_comm]
      exact Bool.or_eq_true_iff
  · exact .pure (or_iff_right silent.mp).symm

theorem program_expired (handler : Handler σ) (call : Call) (session : Session) (state : σ) :
    (call.program session).Ends handler.recorded
      (fun (_, after) moment => after.expired = true ↔
        call.Signals moment.1 ∨ session.expired = true ∧ ¬ call.Resets)
      ([], state) := by
  have regime := regime_any (handler.recorded (σ := σ))
  cases call with
  | login credentials =>
      apply (regime.login session credentials _).imp
      intro result moment ends
      obtain ⟨-, h, -⟩ | ⟨cached, -, h, -⟩ := ends <;> simp [h, holding, Call.Signals, Call.Resets]
  | logout =>
      apply (regime.logout session _).bind
      intro after moment ends
      exact .pure (by simp [ends.1, Call.Signals, Call.Resets])
  | expire =>
      apply (regime.expire session _).bind
      intro after moment ends
      exact .pure (by simp [ends.1, Call.Signals])
  | observe error =>
      by_cases rejected : error.isAuthFailure = true
      · apply (regime.observe session rejected _).imp
        intro result moment ends
        simp [ends.2.1, Call.Signals, isAuthFailure_iff.mp rejected]
      · have accepted : ¬ error = .unauthorized := fun h => rejected (isAuthFailure_iff.mpr h)
        change (session.observe error).Ends handler.recorded _ _
        rw [observe_eq_pure rejected session]
        exact .pure (by simp [Call.Signals, Call.Resets, accepted])
  | tryRestore =>
      apply (regime.tryRestore session (.inl trivial)).imp
      intro result moment ends
      obtain ⟨cached, -, h, -⟩ | ⟨-, h, -⟩ := ends <;>
        simp [h, holding, cleared, Call.Signals, Call.Resets]
  | restore =>
      apply (regime.restore session (.inl trivial)).imp
      intro result moment ends
      obtain ⟨cached, -, h, -⟩ | ⟨-, h, -⟩ := ends <;>
        simp [h, holding, cleared, Call.Signals, Call.Resets]
  | resume =>
      apply (resume_expired session state).imp
      intro result moment ends
      simpa [Call.Signals, Call.Resets] using ends

/-- One turn leaves the session settled and the memory of a rejection right. -/
theorem first_of_journal {call : Call} {calls : List Call} {session : Session} {state : σ}
    {past : List Turn}
    (settled : Settled (fun _ => True) (fun _ _ => True) session (([], state) : List Event × σ))
    (known : session.expired = true ↔ Rejected past) :
    ∃ turn next, journal handler (call :: calls) session state =
        turn :: journal handler calls turn.after next ∧
      (live (call :: calls) session).run handler state = (live calls turn.after).run handler next ∧
      Settled (fun _ => True) (fun _ _ => True) turn.after (([], next) : List Event × σ) ∧
      turn.call.Honest turn.reply turn.after ∧
      (turn.after.expired = true ↔ Rejected (past ++ [turn])) := by
  have step := ((regime_any handler.recorded).program settled call).outcome
  have flag := (program_expired handler call session state).outcome
  have same := (call.program session).run_recorded handler [] state
  refine ⟨_, _, rfl, ?_, step.1, step.2, ?_⟩
  · rw [live_cons, Program.run_bind, same.1, same.2]
  · rw [rejected_concat, ← known]
    exact flag

theorem run_of_journal {calls : List Call} {session : Session} {state : σ} {past : List Turn}
    (settled : Settled (fun _ => True) (fun _ _ => True) session (([], state) : List Event × σ))
    (known : session.expired = true ↔ Rejected past) :
    ((live calls session).run handler state).1.Coherent ∧
      (((live calls session).run handler state).1.expired = true ↔
        Rejected (past ++ journal handler calls session state)) ∧
      ∀ turn ∈ journal handler calls session state, turn.call.Honest turn.reply turn.after := by
  induction calls generalizing session state past with
  | nil =>
      have nothing : past ++ journal handler [] session state = past := List.append_nil past
      rw [nothing]
      refine ⟨coherent_of_settled settled, known, fun turn mem => ?_⟩
      cases mem
  | cons call calls ih =>
      obtain ⟨first, next, turns, run, settled', honest, known'⟩ :=
        first_of_journal settled known
      obtain ⟨coherent, flag, others⟩ := ih settled' known'
      rw [List.append_assoc] at flag
      rw [turns, run]
      refine ⟨coherent, flag, fun turn mem => ?_⟩
      rcases List.mem_cons.mp mem with rfl | mem
      · exact honest
      · exact others turn mem

/--
Between any calls the parts of a session agree with one another, and each call answered what the
session was like right after it. Where the user is asked for, one gets the user that is signed in,
or else the reason why there is none: that the session was rejected, if there was a signal of that
and neither a sign-in nor a sign-out was called since.
-/
theorem standing_of_live (handler : Handler σ) (start : σ) (calls : List Call) :
    let session := ((live calls {}).run handler start).1
    let turns := journal handler calls {} start
    session.Coherent ∧
      (∀ turn ∈ turns, turn.call.Honest turn.reply turn.after) ∧
      (∀ user, session.state = .authenticated user → session.requireUser = .ok user) ∧
      (session.isAuthenticated = false → Rejected turns →
        session.requireUser = .error .sessionExpired) ∧
      (session.isAuthenticated = false → ¬ Rejected turns →
        session.requireUser = .error .notAuthenticated) := by
  intro session turns
  have begins : Settled (fun _ => True) (fun _ _ => True) {} (([], start) : List Event × σ) :=
    .inl ⟨rfl, trivial⟩
  have fresh : ({} : Session).expired = true ↔ Rejected [] := by simp [Rejected]
  obtain ⟨coherent, flag, honest⟩ := run_of_journal begins fresh
  refine ⟨coherent, honest, fun user signedIn => ?_, fun signedOut rejected => ?_,
    fun signedOut notRejected => ?_⟩
  · rw [requireUser, currentUser, signedIn]
  · have expired : session.expired = true := flag.mpr rejected
    have nobody : session.currentUser = none := by simpa [isAuthenticated] using signedOut
    rw [requireUser, nobody, expired]
    rfl
  · have expired : session.expired = false := by
      simpa using fun h => notRejected (flag.mp h)
    have nobody : session.currentUser = none := by simpa [isAuthenticated] using signedOut
    rw [requireUser, nobody, expired]
    rfl

end Session
end AccessPortal
