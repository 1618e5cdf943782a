import AccessPortal.Proofs.Session.OneSignIn
import AccessPortal.Proofs.Session.Standing

/-!
# An ended session stays ended

A session ends in memory whatever the store does, but its cache may survive in part. What is left is
no way back as long as one of the three keys that a session needs is gone (`Contents.Lacking`):
whoever reads the cache then finds none, everything but a sign-in only takes keys away, and a
session that is signed out has no token to send (`ended_stays_ended`).

Only the keys of the session matter, and other programs may change what the store holds under any
other key (`Undisturbed`).
-/

namespace AccessPortal

variable {σ : Type} {handler : Handler σ} {contents : σ → Contents}

def Contents.Lacking (contents : Contents) : Prop :=
  ∃ key ∈ CachedSession.neededKeys, contents key = none

def Event.CarriesToken : Event → Prop
  | .logout _ _ | .currentUser _ _ => True
  | _ => False

/-- The service does not accept a token any more, or has given its user a role that is unknown. -/
def Event.IsRefusal : Event → Prop
  | .currentUser _ (.error e) => e.isAuthFailure
  | .currentUser _ (.ok profile) => ∃ role, User.ofProfile profile = .error role
  | _ => False

/-! ## Keys that are gone stay gone -/

theorem Undisturbed.shrinks (undisturbed : Undisturbed handler contents) {β : Type}
    {operation : Operation β} (addsNothing : operation.AddsNothing) (state : σ) {key : String}
    (own : key ∈ StorageKey.sessionKeys) (gone : contents state key = none) :
    contents (handler operation state).2 key = none := by
  rw [undisturbed.after operation state key own]
  rcases after_of_addsNothing addsNothing (handler operation state).1 (contents state) key
    with none | same
  · exact none
  · rw [same, gone]

theorem Undisturbed.lacking (undisturbed : Undisturbed handler contents) {β : Type}
    (operation : Operation β) (addsNothing : operation.AddsNothing) (state : σ)
    (lacking : (contents state).Lacking) : (contents (handler operation state).2).Lacking := by
  obtain ⟨key, needed, gone⟩ := lacking
  have own := CachedSession.own_of_needed key needed
  exact ⟨key, needed, undisturbed.shrinks addsNothing state own gone⟩

def Removed (past : List Event) (contents : Contents) : Prop :=
  ∀ key ∈ StorageKey.sessionKeys, .remove key (.ok ()) ∈ past → contents key = none

theorem Undisturbed.removed (undisturbed : Undisturbed handler contents) {β : Type}
    (operation : Operation β) (addsNothing : operation.AddsNothing) (moment : List Event × σ)
    (removed : Removed moment.1 (contents moment.2)) :
    Removed (handler.recorded operation moment).2.1
      (contents (handler.recorded operation moment).2.2) := by
  obtain ⟨past, state⟩ := moment
  intro key own mem
  rcases List.mem_append.mp mem with before | now
  · exact undisturbed.shrinks addsNothing state own (removed key own before)
  · have event := List.mem_singleton.mp now
    have after := undisturbed.after operation state key own
    rw [← event] at after
    exact after.trans (Function.update_self ..)

/-! ## Where something is missing, no session is found -/

namespace CachedSession

theorem load_of_lacking (undisturbed : Undisturbed handler contents) {state : σ}
    (lacking : (contents state).Lacking) :
    load.run.Ends handler (fun result _ => ∀ cached, result ≠ .ok (some cached)) state := by
  refine (load_finds undisturbed state).imp ?_
  intro result _ finds cached there
  obtain ⟨atToken, -, role, profile, atRole, atProfile, -⟩ :=
    ofContents_eq_some (finds cached there)
  obtain ⟨key, needed, gone⟩ := lacking
  have one : key = StorageKey.accessToken ∨ key = StorageKey.userRole ∨
      key = StorageKey.userProfile := by
    simpa [neededKeys] using needed
  rcases one with rfl | rfl | rfl
  · cases gone.symm.trans atToken
  · cases gone.symm.trans atRole
  · cases gone.symm.trans atProfile

end CachedSession

namespace Session

theorem tryRestore_of_lacking (undisturbed : Undisturbed handler contents) (session : Session)
    {state : σ} (lacking : (contents state).Lacking) :
    session.tryRestore.Ends handler
      (fun (result, after) _ => result ≠ .ok true ∧ after = session.cleared) state := by
  refine (tryRestore_ends (CachedSession.load_of_lacking undisturbed lacking)
    (fun _ => stable_const _) (regime_any handler).clearCache session).imp
    fun ended _ ends => ?_
  obtain ⟨reply, _, notFound, rfl, -⟩ := ends
  rcases reply with e | _ | cached
  · exact ⟨nofun, rfl⟩
  · exact ⟨nofun, rfl⟩
  · exact absurd rfl (notFound cached)

theorem restore_of_lacking (undisturbed : Undisturbed handler contents) (session : Session)
    {state : σ} (lacking : (contents state).Lacking) :
    session.restore.Ends handler
      (fun (restored, after) _ => restored = false ∧ after = session.cleared) state := by
  refine (restore_ends (tryRestore_of_lacking undisturbed session lacking)
    fun _ => stable_const _).imp fun ended _ ends => ?_
  obtain ⟨result, ⟨notRestored, same⟩, restored⟩ := ends
  exact ⟨Bool.eq_false_iff.mpr fun there => notRestored (restored.mp there), same⟩

/-! ## Attempts to remove the keys -/

def Attempted (moment : List Event × σ) : Prop :=
  ∀ key ∈ StorageKey.sessionKeys, ∃ reply, .remove key reply ∈ moment.1

theorem attempted_run {α : Type} (program : Program α) {moment : List Event × σ}
    (attempted : Attempted moment) : Attempted (program.run handler.recorded moment).2 :=
  fun key own => (attempted key own).imp fun _ mem => program.mem_recorded handler mem

theorem stable_attempted : Stable handler.recorded (Attempted (σ := σ)) :=
  ⟨fun _ _ attempted key own => (attempted key own).imp fun _ mem => List.mem_append_left _ mem⟩

theorem clearKeys_attempts {keys : List String} {events : List Event} {done : Unit}
    (performs : (clearKeys keys).Performs events done) :
    ∀ key ∈ keys, ∃ reply, .remove key reply ∈ events := by
  induction keys generalizing events with
  | nil => exact fun _ mem => nomatch mem
  | cons first keys ih =>
      obtain ⟨now, rest, reply, rfl, removed, ends⟩ := Program.Performs.of_bind performs
      have event : now = [.remove first reply] := Program.performs_operation_iff.mp removed
      have others : ∀ key ∈ keys, ∃ reply, .remove key reply ∈ rest := by
        cases reply with
        | ok done => exact ih ends
        | error e =>
            obtain ⟨told, later, _, rfl, -, ends⟩ := Program.Performs.of_bind ends
            exact fun key mem => (ih ends key mem).imp fun _ => List.mem_append_right told
      intro key mem
      rcases List.mem_cons.mp mem with rfl | mem
      · exact ⟨reply, by simp [event]⟩
      · exact (others key mem).imp fun _ => List.mem_append_right now

theorem clearCache_attempts (moment : List Event × σ) :
    clearCache.Ends handler.recorded (fun _ => Attempted) moment := by
  obtain ⟨events, recorded, performs⟩ :=
    clearCache.recorded_performs handler moment.1 moment.2
  refine ⟨fun _ _ => trivial, fun key own => ?_⟩
  obtain ⟨reply, mem⟩ := clearKeys_attempts performs key own
  have past : (clearCache.run handler.recorded moment).2.1 = moment.1 ++ events := recorded
  exact ⟨reply, past ▸ List.mem_append_right _ mem⟩

/-- A session that is written to the cache replaces whatever is there. -/
theorem persist_attempts (cached : CachedSession) (moment : List Event × σ) :
    cached.persist.run.Ends handler.recorded
      (fun reply next => reply = .ok () → Attempted next) moment := by
  obtain ⟨events, recorded, performs⟩ :=
    cached.persist.run.recorded_performs handler moment.1 moment.2
  refine ⟨fun _ _ => trivial, fun written key own => ?_⟩
  have past : (cached.persist.run.run handler.recorded moment).2.1 = moment.1 ++ events := recorded
  have performs : cached.persist.run.Performs events (.ok ()) := written ▸ performs
  rw [past, CachedSession.performs_persist_iff.mp performs]
  refine ⟨.ok (), List.mem_append_right _ (List.mem_append_left _ ?_)⟩
  exact List.mem_map_of_mem own

/-- A store that may do anything, with an attempt to clear it on record. -/
theorem regime_attempted (handler : Handler σ) :
    Regime handler.recorded Attempted (fun _ => Attempted) where
  stable_clear := stable_attempted
  stable_kept _ := stable_attempted
  clearCache := clearCache_attempts
  cache cached complaint moment := by
    refine (persist_attempts cached moment).bind fun reply next attempted => ?_
    cases reply with
    | ok done => exact .pure (attempted rfl)
    | error e => exact (Program.ends_any _ _).bind fun _ next _ => clearCache_attempts next
  load moment settled := by
    have before : Attempted moment := by
      rcases settled with attempted | ⟨_, attempted⟩ <;> exact attempted
    refine ⟨fun _ _ => trivial, ?_⟩
    have after : Attempted (CachedSession.load.run.run handler.recorded moment).2 :=
      attempted_run _ before
    split
    · exact after
    · exact after
    · exact after
    · trivial

/-! ## Calls that end a session -/

section

variable {inv : σ → Prop}
  (upkeep : ∀ {β : Type} (operation : Operation β), operation.IsUpkeep →
    ∀ state, inv state → inv (handler operation state).2)
include upkeep

/-- Up to a sign-in that succeeds, nothing happens to the store but upkeep. -/
theorem login_ends {credentials : Credentials}
    (asking : ∀ state, inv state → inv (handler (.login credentials) state).2) (session : Session)
    {state : σ} (start : inv state) :
    (session.login credentials).Ends handler
      (fun (result, _) next => (∃ user, result = .ok user) ∨ inv next) state := by
  refine ((report_preserves upkeep _ _ _).ends start).bind fun _ s kept => ?_
  refine ((tearDown_preserves upkeep session).ends kept).bind fun session s kept => ?_
  have asked : (Service.login credentials).Ends handler (fun _ => inv) s :=
    .operation trivial (asking s kept)
  have refused (session : Session) (fields : List (String × String)) (message : String)
      (error : AuthError) {s : σ} (kept : inv s) :
      Program.Ends handler
        (fun (result, _) next => (∃ user, result = .ok user) ∨ inv next)
        (do
          let session ← session.tearDown
          report .warn message fields
          return (.error error, session) : Program (Except AuthError User × Session)) s := by
    refine ((tearDown_preserves upkeep session).ends kept).bind fun _ s kept => ?_
    exact ((report_preserves upkeep _ _ _).ends kept).bind fun _ s kept => .pure (.inr kept)
  refine asked.bind fun reply s kept => ?_
  cases reply with
  | error e => exact refused _ _ _ _ kept
  | ok grant =>
      simp only
      cases User.ofProfile grant.user with
      | error role => exact refused _ _ _ _ kept
      | ok user =>
          refine (Program.ends_any _ _).bind fun _ _ _ => ?_
          refine (Program.ends_any _ _).bind fun _ _ _ => ?_
          exact (Program.ends_any _ _).bind fun _ _ _ => .pure (.inl ⟨user, rfl⟩)

theorem reconcile_refused {clear : σ → Prop} {kept : CachedSession → σ → Prop}
    (regime : Regime handler clear kept) {token : String} {reply : Except ServiceError Profile}
    (refused : (Event.currentUser token reply).IsRefusal) (session : Session) {state : σ}
    (start : inv state) :
    (session.reconcile token reply).Ends handler
      (fun (_, after) next => after = after.cleared ∧ clear next ∧ inv next) state := by
  cases reply with
  | error e =>
      have rejected : e.isAuthFailure = true := refused
      simp only [reconcile, rejected, if_true]
      refine ((regime.expire session state).and ((expire_preserves upkeep session).ends start)).bind
        fun after s ends => ?_
      obtain ⟨⟨rfl, cleared⟩, kept⟩ := ends
      exact .pure ⟨rfl, cleared, kept⟩
  | ok profile =>
      obtain ⟨role, unknown⟩ := refused
      simp only [reconcile, unknown]
      refine ((report_preserves upkeep _ _ _).ends start).bind fun _ s kept => ?_
      refine ((regime.tearDown session s).and ((tearDown_preserves upkeep session).ends kept)).bind
        fun after s ends => ?_
      obtain ⟨⟨rfl, cleared⟩, kept⟩ := ends
      exact .pure ⟨rfl, cleared, kept⟩

end

theorem upkeep_not_refusal {β : Type} {operation : Operation β} (upkeep : operation.IsUpkeep)
    (reply : β) : ¬ (operation.event reply).IsRefusal := by
  cases operation with
  | currentUser token => exact upkeep.elim
  | _ => exact id

theorem upkeep_addsNothing {β : Type} {operation : Operation β} (upkeep : operation.IsUpkeep) :
    operation.AddsNothing := by
  cases operation with
  | set key value => exact upkeep
  | _ => trivial

theorem upkeep_carries_none {β : Type} {operation : Operation β} (upkeep : operation.IsUpkeep)
    (reply : β) : ¬ (operation.event reply).CarriesToken := by
  cases operation with
  | logout token => exact upkeep.elim
  | currentUser token => exact upkeep.elim
  | _ => exact id

/-- If the service refuses the token during an attempt to come back, the session ends. -/
theorem resume_refused {inv : List Event × σ → Prop}
    (upkeep : ∀ {β : Type} (operation : Operation β), operation.IsUpkeep →
      ∀ moment, inv moment → inv (handler.recorded operation moment).2)
    (asking : ∀ {β : Type} (operation : Operation β), operation.AsksService →
      ∀ moment, inv moment → inv (handler.recorded operation moment).2)
    (session : Session) {state : σ} (start : inv ([], state)) :
    session.resume.Ends handler.recorded
      (fun (_, after) moment => (∃ event ∈ moment.1, event.IsRefusal) →
        after = after.cleared ∧ Attempted moment ∧ inv moment)
      ([], state) := by
  have silent {β : Type} (operation : Operation β) (upkeep : operation.IsUpkeep)
      (moment : List Event × σ) (before : ∀ event ∈ moment.1, ¬ event.IsRefusal) :=
    own_recorded handler (upkeep_not_refusal upkeep) moment before
  have fresh : ∀ event ∈ (([], state) : List Event × σ).1, ¬ event.IsRefusal := nofun
  have restored := ((restore_preserves silent session).ends fresh).and
    ((restore_preserves upkeep session).ends start)
  refine restored.bind fun result moment ends => ?_
  obtain ⟨none, kept⟩ := ends
  simp only
  split
  · rename_i token _ _
    have asked : (Service.currentUser token).Ends handler.recorded
        (fun reply next => inv next ∧ ((∃ event ∈ next.1, event.IsRefusal) →
          (Event.currentUser token reply).IsRefusal))
        moment := by
      refine .operation trivial ⟨asking (.currentUser token) trivial moment kept, fun refused => ?_⟩
      obtain ⟨event, mem, refusal⟩ := refused
      rcases List.mem_append.mp mem with mem | mem
      · exact absurd refusal (none event mem)
      · rwa [List.mem_singleton.mp mem] at refusal
    refine asked.bind fun reply next ends => ?_
    obtain ⟨kept, only⟩ := ends
    by_cases refused : (Event.currentUser token reply).IsRefusal
    · exact (reconcile_refused upkeep (regime_attempted handler) refused _ kept).imp
        fun _ _ ends _ => ends
    · have before : ∀ event ∈ next.1, ¬ event.IsRefusal :=
        fun event mem refusal => refused (only ⟨event, mem, refusal⟩)
      have written (key value : String) :
          ∀ reply, ¬ ((Operation.set key value).event reply).IsRefusal := fun _ => id
      have persist := persist_preserves silent fun key _ value moment before =>
        own_recorded handler (written key value) moment before
      have still := (reconcile_preserves silent persist result.2 token reply).ends before
      exact still.imp fun _ last none refused =>
        absurd refused fun ⟨event, mem, refusal⟩ => none event mem refusal
  · refine .pure fun refused => ?_
    obtain ⟨event, mem, refusal⟩ := refused
    exact absurd refusal (none event mem)

/-- The call ends the session: by the will of the user, because the service refuses it, or because a
sign-in replaces it and fails. -/
def Call.EndsSession (events : List Event) : (call : Call) → call.Reply → Prop
  | .login _, result => ∃ e, result = .error e
  | .logout, _ | .expire, _ => True
  | .observe error, _ => error = .unauthorized
  | .resume, _ => ∃ event ∈ events, event.IsRefusal
  | .tryRestore, _ | .restore, _ => False

theorem program_endsSession {inv : List Event × σ → Prop}
    (upkeep : ∀ {β : Type} (operation : Operation β), operation.IsUpkeep →
      ∀ moment, inv moment → inv (handler.recorded operation moment).2)
    (asking : ∀ {β : Type} (operation : Operation β), operation.AsksService →
      ∀ moment, inv moment → inv (handler.recorded operation moment).2)
    (call : Call) (session : Session) {state : σ} (start : inv ([], state)) :
    (call.program session).Ends handler.recorded
      (fun (reply, after) moment => call.EndsSession moment.1 reply →
        after = after.cleared ∧ Attempted moment ∧ inv moment)
      ([], state) := by
  have regime := regime_attempted handler
  cases call with
  | login credentials =>
      have failed := login_ends upkeep (asking (.login credentials) trivial) session start
      refine ((regime.login session credentials _).and failed).imp ?_
      intro outcome moment ends failed
      obtain ⟨result, after⟩ := outcome
      obtain ⟨e, rfl⟩ := failed
      obtain ⟨⟨-, rfl, attempted⟩ | ⟨_, impossible, -⟩, ⟨_, impossible⟩ | kept⟩ := ends
      · cases impossible
      · exact ⟨rfl, attempted, kept⟩
      · cases impossible
      · cases impossible
  | logout =>
      have kept := (logout_preserves upkeep asking session).ends start
      refine ((regime.logout session _).and kept).bind fun after moment ends => ?_
      obtain ⟨⟨rfl, attempted⟩, kept⟩ := ends
      exact .pure fun _ => ⟨rfl, attempted, kept⟩
  | expire =>
      have kept := (expire_preserves upkeep session).ends start
      refine ((regime.expire session _).and kept).bind fun after moment ends => ?_
      obtain ⟨⟨rfl, attempted⟩, kept⟩ := ends
      exact .pure fun _ => ⟨rfl, attempted, kept⟩
  | observe error =>
      by_cases rejected : error.isAuthFailure = true
      · have kept := (observe_preserves upkeep session error).ends start
        refine ((regime.observe session rejected _).and kept).imp ?_
        intro outcome moment ends _
        obtain ⟨answer, after⟩ := outcome
        obtain ⟨⟨-, rfl, attempted⟩, kept⟩ := ends
        exact ⟨rfl, attempted, kept⟩
      · refine (Program.ends_any _ _).imp ?_
        intro outcome moment _ unauthorized
        exact absurd (isAuthFailure_iff.mpr unauthorized) rejected
  | tryRestore => exact (Program.ends_any _ _).imp fun _ _ _ => False.elim
  | restore => exact (Program.ends_any _ _).imp fun _ _ _ => False.elim
  | resume => exact resume_refused upkeep asking session start

/-! ## What follows -/

def Call.SignsIn : (call : Call) → call.Reply → Prop
  | .login _, result => ∃ user, result = .ok user
  | _, _ => False

def Call.ComesBack : (call : Call) → call.Reply → Prop
  | .tryRestore, result => result = .ok true
  | .restore, restored | .resume, restored => restored = true
  | _, _ => False

/-- Something that a session needs is missing, and no token was sent. -/
def Quiet (contents : σ → Contents) (moment : List Event × σ) : Prop :=
  (contents moment.2).Lacking ∧ ∀ event ∈ moment.1, ¬ event.CarriesToken

theorem quiet_of_upkeep (undisturbed : Undisturbed handler contents) {β : Type}
    (operation : Operation β) (upkeep : operation.IsUpkeep) (moment : List Event × σ)
    (quiet : Quiet contents moment) : Quiet contents (handler.recorded operation moment).2 :=
  ⟨undisturbed.lacking operation (upkeep_addsNothing upkeep) moment.2 quiet.1,
    own_recorded handler (upkeep_carries_none upkeep) moment quiet.2⟩

theorem quiet_of_login (undisturbed : Undisturbed handler contents) (credentials : Credentials)
    (moment : List Event × σ) (quiet : Quiet contents moment) :
    Quiet contents (handler.recorded (.login credentials) moment).2 := by
  have without : ∀ reply, ¬ ((Operation.login credentials).event reply).CarriesToken := fun _ => id
  exact ⟨undisturbed.lacking (.login credentials) trivial moment.2 quiet.1,
    own_recorded handler without moment quiet.2⟩

/-- Over a store that lacks something, a session that is signed out stays so up to a sign-in. -/
theorem program_of_lacking (undisturbed : Undisturbed handler contents) {session : Session}
    (signedOut : session = session.cleared) (call : Call) {moment : List Event × σ}
    (quiet : Quiet contents moment) :
    (call.program session).Ends handler.recorded
      (fun (reply, after) next => call.SignsIn reply ∨
        ¬ call.ComesBack reply ∧ after = after.cleared ∧ Quiet contents next)
      moment := by
  have regime := regime_any (handler.recorded (σ := σ))
  have upkeep {β : Type} (operation : Operation β) (upkeep : operation.IsUpkeep) :=
    quiet_of_upkeep undisturbed operation upkeep
  have lacking := quiet.1
  cases call with
  | login credentials =>
      have failed := login_ends upkeep (quiet_of_login undisturbed credentials) session quiet
      refine ((regime.login session credentials _).and failed).imp ?_
      intro outcome next ends
      obtain ⟨result, after⟩ := outcome
      obtain ⟨⟨⟨e, rfl⟩, rfl, -⟩ | ⟨_, rfl, -⟩, signsIn | kept⟩ := ends
      · exact .inl signsIn
      · exact .inr ⟨id, rfl, kept⟩
      · exact .inl signsIn
      · exact .inl ⟨_, rfl⟩
  | logout =>
      have noToken : session.accessToken = none := congrArg accessToken signedOut
      have kept := (logout_of_none upkeep noToken).ends quiet
      refine ((regime.logout session _).and kept).bind fun after next ends => ?_
      obtain ⟨⟨rfl, -⟩, kept⟩ := ends
      exact .pure (.inr ⟨id, rfl, kept⟩)
  | expire =>
      have kept := (expire_preserves upkeep session).ends quiet
      refine ((regime.expire session _).and kept).bind fun after next ends => ?_
      obtain ⟨⟨rfl, -⟩, kept⟩ := ends
      exact .pure (.inr ⟨id, rfl, kept⟩)
  | observe error =>
      by_cases rejected : error.isAuthFailure = true
      · have kept := (observe_preserves upkeep session error).ends quiet
        refine ((regime.observe session rejected _).and kept).imp ?_
        intro outcome next ends
        obtain ⟨answer, after⟩ := outcome
        obtain ⟨⟨-, rfl, -⟩, kept⟩ := ends
        exact .inr ⟨id, rfl, kept⟩
      · change (session.observe error).Ends _ _ _
        rw [observe_eq_pure rejected session]
        exact .pure (.inr ⟨id, signedOut, quiet⟩)
  | tryRestore =>
      have kept := (tryRestore_preserves upkeep session).ends quiet
      refine ((tryRestore_of_lacking undisturbed.recorded session lacking).and kept).imp ?_
      intro outcome next ends
      obtain ⟨result, after⟩ := outcome
      obtain ⟨⟨notRestored, rfl⟩, kept⟩ := ends
      exact .inr ⟨notRestored, rfl, kept⟩
  | restore =>
      have kept := (restore_preserves upkeep session).ends quiet
      refine ((restore_of_lacking undisturbed.recorded session lacking).and kept).imp ?_
      intro outcome next ends
      obtain ⟨restored, after⟩ := outcome
      obtain ⟨⟨rfl, rfl⟩, kept⟩ := ends
      exact .inr ⟨nofun, rfl, kept⟩
  | resume =>
      have kept := (restore_preserves upkeep session).ends quiet
      refine ((restore_of_lacking undisturbed.recorded session lacking).and kept).bind
        fun outcome next ends => ?_
      obtain ⟨restored, after⟩ := outcome
      obtain ⟨⟨rfl, rfl⟩, kept⟩ := ends
      exact .pure (.inr ⟨nofun, rfl, kept⟩)

def journals (handler : Handler σ) : List (Nat × Call) → (Nat → Session) → σ → List Turn
  | [], _, _ => []
  | (n, call) :: calls, sessions, state =>
    let ended := (call.program (sessions n)).run handler.recorded ([], state)
    ⟨call, ended.1.1, ended.2.1, ended.1.2⟩
      :: journals handler calls (fun m => if m = n then ended.1.2 else sessions m) ended.2.2

theorem quiet_of_journals (undisturbed : Undisturbed handler contents)
    {calls : List (Nat × Call)} {sessions : Nat → Session} {state : σ}
    (signedOut : ∀ n, sessions n = (sessions n).cleared) (lacking : (contents state).Lacking)
    (nobody : ∀ turn ∈ journals handler calls sessions state, ¬ turn.call.SignsIn turn.reply) :
    ∀ turn ∈ journals handler calls sessions state, ¬ turn.call.ComesBack turn.reply ∧
      turn.after = turn.after.cleared ∧ ∀ event ∈ turn.events, ¬ event.CarriesToken := by
  induction calls generalizing sessions state with
  | nil =>
      intro turn mem
      cases mem
  | cons next calls ih =>
      obtain ⟨n, call⟩ := next
      have quiet : Quiet contents (([], state) : List Event × σ) := ⟨lacking, nofun⟩
      have step := (program_of_lacking undisturbed (signedOut n) call quiet).outcome
      obtain ⟨notBack, after, lacking, none⟩ := step.resolve_left (nobody _ List.mem_cons_self)
      intro turn mem
      rcases List.mem_cons.mp mem with rfl | mem
      · exact ⟨notBack, after, none⟩
      · refine ih (fun m => ?_) lacking (fun turn mem => nobody turn (.tail _ mem)) turn mem
        by_cases same : m = n
        · rw [if_pos same]
          exact after
        · rw [if_neg same]
          exact signedOut m

/--
Whatever the state of a session and of the store, and whatever fails: a call that ends the session
leaves no user and no token in memory, and tries to remove each key of the session. If one of the
three keys that a session needs is gone then, as it is unless all of their removals failed, the
session and new ones over the same store never come back without a sign-in, and the auth service is
not sent a token.
-/
theorem ended_stays_ended (undisturbed : Undisturbed handler contents) (session : Session)
    (call : Call) (start : σ) :
    let ended := (call.program session).run handler.recorded ([], start)
    let turn : Turn := ⟨call, ended.1.1, ended.2.1, ended.1.2⟩
    call.EndsSession turn.events turn.reply →
      turn.after.currentUser = none ∧ turn.after.accessToken = none ∧
        turn.after.refreshToken = none ∧
      (∀ key ∈ StorageKey.sessionKeys, ∃ reply, .remove key reply ∈ turn.events) ∧
      ((∃ key ∈ CachedSession.neededKeys, .remove key (.ok ()) ∈ turn.events) →
        (contents ended.2.2).Lacking) ∧
      ((contents ended.2.2).Lacking → ∀ calls : List (Nat × Call),
        let turns := journals handler calls (fun n => if n = 0 then turn.after else {}) ended.2.2
        (∀ turn ∈ turns, ¬ turn.call.SignsIn turn.reply) →
          ∀ turn ∈ turns, ¬ turn.call.ComesBack turn.reply ∧
            turn.after.isAuthenticated = false ∧ ∀ event ∈ turn.events, ¬ event.CarriesToken) := by
  intro ended turn ends
  have asking {β : Type} (operation : Operation β) (asks : operation.AsksService) :=
    undisturbed.removed operation (by cases operation <;> trivial)
  have nothingYet : Removed [] (contents start) := fun _ _ => nofun
  have outcome := (program_endsSession
    (fun operation upkeep => undisturbed.removed operation (upkeep_addsNothing upkeep)) asking call
    session nothingYet).outcome
  obtain ⟨signedOut, attempted, removed⟩ := outcome ends
  have signedOut : turn.after = turn.after.cleared := signedOut
  refine ⟨?_, congrArg accessToken signedOut, congrArg refreshToken signedOut, attempted, ?_, ?_⟩
  · rw [signedOut]
    rfl
  · intro h
    obtain ⟨key, needed, mem⟩ := h
    exact ⟨key, needed, removed key (CachedSession.own_of_needed key needed) mem⟩
  · intro lacking calls turns nobody later mem
    have others (n : Nat) : (if n = 0 then turn.after else ({} : Session)) =
        Session.cleared (if n = 0 then turn.after else {}) := by
      split
      · exact signedOut
      · rfl
    obtain ⟨notBack, after, none⟩ := quiet_of_journals undisturbed others lacking nobody later mem
    refine ⟨notBack, ?_, none⟩
    rw [after]
    rfl

/-- A sign-out that cannot remove the token and the role, but the profile. -/
theorem ended_stays_ended_logout :
    let plan : Plan := { Plan.welcoming with
      fault? := fun k => if k = 2 ∨ k = 5 then some (.writeRejected "denied") else none }
    let cached : CachedSession :=
      ⟨"token", some "refresh", ⟨"u-1", "Ada", "ada@example.org", "", .auditor⟩, 6⟩
    let ended := (Call.logout.program (holding {} cached)).run (Handler.recorded plan.handle)
      ([], ⟨cached.entries, 0⟩)
    let turns := journals plan.handle [(0, .restore), (1, .resume)]
      (fun n => if n = 0 then ended.1.2 else {}) ended.2.2
    ended.2.2.contents StorageKey.accessToken = some "token" ∧ ended.2.2.contents.Lacking ∧
      (∀ turn ∈ turns, ¬ turn.call.SignsIn turn.reply) ∧ ended.1.2.currentUser = none ∧
      ∀ turn ∈ turns, ¬ turn.call.ComesBack turn.reply ∧
        turn.after.isAuthenticated = false ∧ ∀ event ∈ turn.events, ¬ event.CarriesToken := by
  intro plan cached ended turns
  obtain ⟨noUser, -, -, -, -, later⟩ := ended_stays_ended plan.faithful.undisturbed
    (holding {} cached) .logout ⟨cached.entries, 0⟩ trivial
  have lacking : ended.2.2.contents.Lacking :=
    ⟨StorageKey.userProfile, by decide, by decide +kernel⟩
  have nobody : ∀ turn ∈ turns, ¬ turn.call.SignsIn turn.reply := by
    intro turn mem
    rcases List.mem_cons.mp mem with rfl | mem
    · exact id
    · obtain rfl := List.mem_singleton.mp mem
      exact id
  exact ⟨by decide +kernel, lacking, nobody, noUser, later lacking _ nobody⟩

end Session
end AccessPortal
