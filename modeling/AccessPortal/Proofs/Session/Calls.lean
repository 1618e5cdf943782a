import AccessPortal.Proofs.Program.Upholds
import AccessPortal.Session.Lifecycle

/-!
# Calls on a session

What a caller may ask of a session, and runs of such calls one after the other: on one session
(`Session.live`), and on any number of sessions in any order (`Session.lives`).

Beside writing its cache and asking the auth service, a session only reads and removes its own keys,
looks at the clock and reports. What each of these keeps, every run keeps (`lives_preserves`).
-/

namespace AccessPortal

/-- Reads or removes a key of the session, looks at the clock or reports something. -/
def Operation.IsUpkeep {β : Type} : Operation β → Prop
  | .get key | .remove key => key ∈ StorageKey.sessionKeys
  | .now | .log _ => True
  | _ => False

def Operation.AsksService {β : Type} : Operation β → Prop
  | .login _ | .logout _ | .currentUser _ => True
  | _ => False

theorem not_asks_of_upkeep {β : Type} {operation : Operation β} (upkeep : operation.IsUpkeep) :
    ¬ operation.AsksService := by
  cases operation with
  | login | logout | currentUser => exact upkeep.elim
  | _ => exact id

namespace Session

inductive Call where
  | login (credentials : Credentials)
  | logout
  | expire
  | observe (error : ServiceError)
  | tryRestore
  | restore
  | resume
  deriving DecidableEq

def Call.Reply : Call → Type
  | .login _ => Except AuthError User
  | .logout | .expire => Unit
  | .observe _ | .restore | .resume => Bool
  | .tryRestore => Except CacheError Bool

def Call.program (session : Session) : (call : Call) → Program (call.Reply × Session)
  | .login credentials => session.login credentials
  | .logout => return ((), ← session.logout)
  | .expire => return ((), ← session.expire)
  | .observe error => session.observe error
  | .tryRestore => session.tryRestore
  | .restore => session.restore
  | .resume => session.resume

def live : List Call → Session → Program Session
  | [], session => pure session
  | call :: calls, session => do
    let (_, session) ← call.program session
    live calls session

theorem live_cons (call : Call) (calls : List Call) (session : Session) :
    live (call :: calls) session = call.program session >>= fun ended => live calls ended.2 :=
  rfl

def lives : List (Nat × Call) → (Nat → Session) → Program Unit
  | [], _ => pure ()
  | (n, call) :: calls, sessions => do
    let (_, session) ← call.program (sessions n)
    lives calls fun m => if m = n then session else sessions m

/-! ## What every run keeps -/

section

variable {σ : Type} {handler : Handler σ} {inv : σ → Prop}
  (upkeep : ∀ {β : Type} (operation : Operation β), operation.IsUpkeep →
    ∀ state, inv state → inv (handler operation state).2)
  (asking : ∀ {β : Type} (operation : Operation β), operation.AsksService →
    ∀ state, inv state → inv (handler operation state).2)
  (persist : ∀ cached : CachedSession, cached.persist.run.Preserves handler inv)
include upkeep

theorem report_preserves (level : Log.Level) (message : String) (fields : List (String × String)) :
    (report level message fields).Preserves handler inv :=
  .operation (upkeep _ trivial)

theorem clearKeys_preserves {keys : List String}
    (own : ∀ key ∈ keys, key ∈ StorageKey.sessionKeys) :
    (clearKeys keys).Preserves handler inv := by
  induction keys with
  | nil => exact .pure ()
  | cons key keys ih =>
      have rest := ih fun k mem => own k (List.mem_cons_of_mem key mem)
      refine .bind (.operation (upkeep _ (own key List.mem_cons_self))) fun reply => ?_
      cases reply with
      | ok _ => exact .bind (.pure ()) fun _ => rest
      | error e => exact .bind (report_preserves upkeep _ _ _) fun _ => rest

theorem tearDown_preserves (session : Session) : session.tearDown.Preserves handler inv :=
  .bind (clearKeys_preserves upkeep fun _ mem => mem) fun _ => .pure _

theorem readKey_preserves {key : String} (own : key ∈ StorageKey.sessionKeys) :
    (CachedSession.readKey key).run.Preserves handler inv :=
  .bind (.operation (upkeep _ own)) fun _ => .pure _

theorem load_preserves : CachedSession.load.run.Preserves handler inv := by
  have read {key : String} (own : key ∈ StorageKey.sessionKeys) :=
    readKey_preserves upkeep own
  refine .exceptBind (read (by simp [StorageKey.sessionKeys])) fun token => ?_
  refine .exceptBind (read (by simp [StorageKey.sessionKeys])) fun role => ?_
  refine .exceptBind (read (by simp [StorageKey.sessionKeys])) fun profile => ?_
  split
  · exact .pure _
  · split
    · exact .pure _
    · refine .exceptBind (.pure _) fun _ => ?_
      exact .exceptBind (read (by simp [StorageKey.sessionKeys])) fun _ => .pure _
  · exact .pure _

theorem persist_preserves
    (set : ∀ key ∈ StorageKey.sessionKeys, ∀ value state, inv state →
      inv (handler (.set key value) state).2)
    (cached : CachedSession) : cached.persist.run.Preserves handler inv := by
  have removed {keys : List String} (own : ∀ key ∈ keys, key ∈ StorageKey.sessionKeys) :
      (CachedSession.removeKeys keys).run.Preserves handler inv := by
    induction keys with
    | nil => exact .pure _
    | cons key keys ih =>
        exact .exceptBind (.operation (upkeep _ (own key List.mem_cons_self))) fun _ =>
          ih fun k mem => own k (List.mem_cons_of_mem key mem)
  have put {key : String} (own : key ∈ StorageKey.sessionKeys) (value : String) :
      (Store.set key value).Preserves handler inv :=
    .operation (set key own value)
  have accessToken := @put StorageKey.accessToken (by simp [StorageKey.sessionKeys])
  refine .exceptBind (removed fun _ mem => mem) fun _ => ?_
  refine .exceptBind (put (by simp [StorageKey.sessionKeys]) _) fun _ => ?_
  refine .exceptBind (put (by simp [StorageKey.sessionKeys]) _) fun _ => ?_
  cases cached.refreshToken with
  | none => exact accessToken _
  | some token =>
      exact .exceptBind (put (by simp [StorageKey.sessionKeys]) _) fun _ => accessToken _

theorem expire_preserves (session : Session) : session.expire.Preserves handler inv := by
  have tearDown : (do return { ← session.tearDown with expired := true }).Preserves handler inv :=
    .bind (tearDown_preserves upkeep session) fun _ => .pure _
  unfold expire
  split
  · exact .bind (report_preserves upkeep _ _ _) fun _ => tearDown
  · exact tearDown

theorem observe_preserves (session : Session) (error : ServiceError) :
    (session.observe error).Preserves handler inv := by
  unfold observe
  split
  · exact .bind (expire_preserves upkeep session) fun _ => .pure _
  · exact .pure _

theorem tryRestore_preserves (session : Session) : session.tryRestore.Preserves handler inv := by
  refine .bind (load_preserves upkeep) fun loaded => ?_
  split
  · exact .bind (report_preserves upkeep _ _ _) fun _ => .pure _
  · exact .bind (report_preserves upkeep _ _ _) fun _ => .pure _
  · exact .pure _
  · exact .bind (tearDown_preserves upkeep session) fun _ => .pure _

theorem restore_preserves (session : Session) : session.restore.Preserves handler inv := by
  refine .bind (tryRestore_preserves upkeep session) fun (restored, session) => ?_
  cases restored with
  | ok restored => exact .pure _
  | error e => exact .bind (report_preserves upkeep _ _ _) fun _ => .pure _

section

include persist

theorem cache_preserves (cached : CachedSession) (complaint : String) :
    (cache cached complaint).Preserves handler inv := by
  refine .bind (persist cached) fun reply => ?_
  cases reply with
  | ok _ => exact .pure ()
  | error e =>
      exact .bind (report_preserves upkeep _ _ _) fun _ =>
        clearKeys_preserves upkeep fun _ mem => mem

theorem confirm_preserves (session : Session) (token : String) (user : User) :
    (session.confirm token user).Preserves handler inv := by
  have announced : (session.announce user).Preserves handler inv := by
    unfold announce
    split
    · exact report_preserves upkeep _ _ _
    · exact .pure ()
  have timed : session.signInTime.Preserves handler inv := by
    unfold signInTime
    split
    · exact .pure _
    · exact .operation (upkeep _ trivial)
  refine .bind announced fun _ => .bind timed fun time => ?_
  exact .bind (cache_preserves upkeep persist _ _) fun _ => .pure _

theorem reconcile_preserves (session : Session) (token : String)
    (reply : Except ServiceError Profile) :
    (session.reconcile token reply).Preserves handler inv := by
  unfold reconcile
  split
  · split
    · exact .bind (expire_preserves upkeep session) fun _ => .pure _
    · exact .bind (report_preserves upkeep _ _ _) fun _ => .pure _
  · split
    · refine .bind (report_preserves upkeep _ _ _) fun _ => ?_
      exact .bind (tearDown_preserves upkeep session) fun _ => .pure _
    · exact confirm_preserves upkeep persist _ _ _

end

/-- What a sign-out does once the service has been told. -/
theorem leave_preserves (session : Session) : Program.Preserves handler inv do
    let userId := session.currentUser.map (·.id)
    let session ← session.tearDown
    report .info "Signed out"
      [("user_id", userId.elim "None" fun id => "Some(" ++ Text.quoted id ++ ")")]
    return { session with expired := false } :=
  .bind (tearDown_preserves upkeep session) fun _ =>
    .bind (report_preserves upkeep _ _ _) fun _ => .pure _

/-- Where there is a token, the service is told of it before anything else. -/
theorem logout_of_some {session : Session} {token : String}
    (held : session.accessToken = some token) {state : σ}
    (told : inv (handler (.logout token) state).2) :
    session.logout.Upholds handler inv (fun _ => inv) state := by
  have asked : (Service.logout token).Upholds handler inv (fun _ => inv) state :=
    .operation told told
  rw [logout, held]
  refine asked.bind fun reply s kept => ?_
  cases reply with
  | ok _ => exact leave_preserves upkeep session s kept
  | error e =>
      exact (report_preserves upkeep _ _ _ s kept).bind fun _ s kept =>
        leave_preserves upkeep session s kept

/-- Where there is none, the service is not told. -/
theorem logout_of_none {session : Session} (nothing : session.accessToken = none) :
    session.logout.Preserves handler inv := by
  rw [logout, nothing]
  exact leave_preserves upkeep session

/--
A sign-in asks the service once. What holds up to then, and what holds from then on, it keeps before
and after.
-/
theorem login_upholds {before : σ → Prop}
    (first : ∀ {β : Type} (operation : Operation β), operation.IsUpkeep →
      ∀ state, before state → before (handler operation state).2)
    (persist : ∀ cached : CachedSession, cached.persist.run.Preserves handler inv)
    (session : Session) {credentials : Credentials}
    (asked : ∀ state, before state → inv (handler (.login credentials) state).2) {state : σ}
    (start : before state) :
    (session.login credentials).Upholds handler (fun s => before s ∨ inv s) (fun _ => inv)
      state := by
  have early {α : Type} {program : Program α} (kept : program.Preserves handler before) {s : σ}
      (holds : before s) :
      program.Upholds handler (fun s => before s ∨ inv s) (fun _ => before) s :=
    (kept s holds).mono (fun _ => .inl) fun _ _ => id
  have late {α : Type} {program : Program α} (kept : program.Preserves handler inv) {s : σ}
      (holds : inv s) : program.Upholds handler (fun s => before s ∨ inv s) (fun _ => inv) s :=
    (kept s holds).mono (fun _ => .inr) fun _ _ => id
  refine (early (report_preserves first _ _ _) start).bind fun _ s holds => ?_
  refine (early (tearDown_preserves first session) holds).bind fun session s holds => ?_
  refine Program.Upholds.bind (.operation (.inr (asked s holds)) (asked s holds))
    fun reply s holds => late ?_ holds
  cases reply with
  | error e =>
      refine .bind (tearDown_preserves upkeep _) fun session => ?_
      exact .bind (report_preserves upkeep _ _ _) fun _ => .pure _
  | ok grant =>
      simp only
      cases User.ofProfile grant.user with
      | error role =>
          refine .bind (tearDown_preserves upkeep _) fun session => ?_
          exact .bind (report_preserves upkeep _ _ _) fun _ => .pure _
      | ok user =>
          refine .bind (.operation (upkeep _ trivial)) fun time => ?_
          refine .bind (cache_preserves upkeep persist _ _) fun _ => ?_
          exact .bind (report_preserves upkeep _ _ _) fun _ => .pure _

include asking

theorem logout_preserves (session : Session) : session.logout.Preserves handler inv := by
  cases held : session.accessToken with
  | none => exact logout_of_none upkeep held
  | some token =>
      exact fun state holds =>
        logout_of_some upkeep held (asking (.logout token) trivial state holds)

include persist

theorem login_preserves (session : Session) (credentials : Credentials) :
    (session.login credentials).Preserves handler inv := by
  intro state holds
  refine (login_upholds upkeep upkeep persist session (asking (.login credentials) trivial)
    holds).mono (fun s kept => ?_) fun _ _ => id
  exact kept.elim id id

theorem resume_preserves (session : Session) : session.resume.Preserves handler inv := by
  refine .bind (restore_preserves upkeep session) fun (restored, session) => ?_
  simp only
  split
  · exact .bind (.operation (asking _ trivial)) fun reply =>
      reconcile_preserves upkeep persist session _ reply
  · exact .pure _

theorem program_preserves (session : Session) (call : Call) :
    (call.program session).Preserves handler inv := by
  cases call with
  | login credentials => exact login_preserves upkeep asking persist session credentials
  | logout => exact .bind (logout_preserves upkeep asking session) fun _ => .pure _
  | expire => exact .bind (expire_preserves upkeep session) fun _ => .pure _
  | observe error => exact observe_preserves upkeep session error
  | tryRestore => exact tryRestore_preserves upkeep session
  | restore => exact restore_preserves upkeep session
  | resume => exact resume_preserves upkeep asking persist session

/-- What each single operation and the writing of the cache keep, every run keeps. -/
theorem lives_preserves (calls : List (Nat × Call)) (sessions : Nat → Session) :
    (lives calls sessions).Preserves handler inv := by
  induction calls generalizing sessions with
  | nil => exact .pure ()
  | cons next calls ih =>
      obtain ⟨n, call⟩ := next
      refine .bind (program_preserves upkeep asking persist (sessions n) call) fun ended => ?_
      exact ih fun m => if m = n then ended.2 else sessions m

end
end Session
end AccessPortal
