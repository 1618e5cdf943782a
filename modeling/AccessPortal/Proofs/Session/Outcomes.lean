import AccessPortal.Proofs.Session.Calls

/-!
# What becomes of a session

Whatever the auth service answers and whatever the store does, a call leaves a session either signed
out, after its cache was cleared, or holding all parts of one cached session, after just that was
written to the cache or found there. What this means for the store is left open: a `Regime` is any
pair of conditions that clearing, writing and reading the cache establish. So each call is gone
through once, for stores that fail at will as well as for those that do not.
-/

namespace AccessPortal

theorem User.ofProfile_of_known {profile : Profile} {role : Role}
    (known : Role.ofId? profile.role = some role) :
    User.ofProfile profile =
      .ok ⟨profile.id, profile.name, profile.email, profile.department, role⟩ := by
  simp only [User.ofProfile, Role.parse, known]

theorem User.ofProfile_of_unknown {profile : Profile} (unknown : Role.ofId? profile.role = none) :
    User.ofProfile profile = .error ⟨profile.role⟩ := by
  simp only [User.ofProfile, Role.parse, unknown]

def Operation.IsOutside {β : Type} : Operation β → Prop
  | .get _ | .set _ _ | .remove _ => False
  | _ => True

namespace Session

def holding (session : Session) (cached : CachedSession) : Session :=
  { session with
    accessToken := some cached.accessToken
    refreshToken := cached.refreshToken
    loggedInAt := some cached.loggedInAt
    state := .authenticated cached.user }

def resumed (session : Session) : Except CacheError (Option CachedSession) → Session
  | .ok (some cached) => session.holding cached
  | _ => session.cleared

variable {σ : Type} {handler : Handler σ} {clear : σ → Prop} {kept : CachedSession → σ → Prop}

/-- A condition that only operations on the store can break. -/
structure Stable (handler : Handler σ) (holds : σ → Prop) : Prop where
  keeps : ∀ {β : Type} {operation : Operation β}, operation.IsOutside →
    ∀ state, holds state → holds (handler operation state).2

/-- What is so once the cache was cleared, and once a session was written to it or found in it. -/
structure Regime (handler : Handler σ) (clear : σ → Prop) (kept : CachedSession → σ → Prop) :
    Prop where
  stable_clear : Stable handler clear
  stable_kept : ∀ cached, Stable handler (kept cached)
  clearCache : ∀ state, Session.clearCache.Ends handler (fun _ => clear) state
  cache : ∀ cached complaint state,
    (Session.cache cached complaint).Ends handler (fun _ => kept cached) state
  load : ∀ state, clear state ∨ (∃ cached, kept cached state) →
    CachedSession.load.run.Ends handler
      (fun reply next => match reply with
        | .ok (some cached) => kept cached next
        | .ok none | .error (.storage _) => clear next
        | .error _ => True)
      state

theorem observe_eq_pure {error : ServiceError} (accepted : ¬ error.isAuthFailure = true)
    (session : Session) : session.observe error = pure (false, session) :=
  if_neg accepted

theorem stable_const (fact : Prop) : Stable handler fun _ => fact :=
  ⟨fun _ _ holds => holds⟩

theorem stable_true : Stable handler fun _ => True :=
  stable_const True

/-- Goes on after a report. -/
theorem report_ends {α : Type} {holds : σ → Prop} {post : α → σ → Prop} {next : Program α}
    (stable : Stable handler holds) {state : σ} (before : holds state) (level : Log.Level)
    (message : String) (fields : List (String × String))
    (rest : ∀ s, holds s → next.Ends handler post s) :
    (do report level message fields; next).Ends handler post state := by
  have reported : (report level message fields).Ends handler (fun _ => holds) state :=
    .operation trivial (stable.keeps (by trivial) state before)
  exact reported.bind fun _ s holds => rest s holds

theorem tearDown_ends {clear : σ → Prop}
    (clears : ∀ state, clearCache.Ends handler (fun _ => clear) state) (session : Session)
    (state : σ) :
    session.tearDown.Ends handler (fun after next => after = session.cleared ∧ clear next) state :=
  (clears state).bind fun _ _ cleared => .pure ⟨rfl, cleared⟩

/-- A sign-in that comes to nothing clears what there is, says why, and ends with the error. -/
theorem refused_ends {clear : σ → Prop} (stable : Stable handler clear)
    (clears : ∀ state, clearCache.Ends handler (fun _ => clear) state) (session : Session)
    (error : AuthError) (message : String) (fields : List (String × String)) (state : σ) :
    Program.Ends handler (fun ended next => ended = (.error error, session.cleared) ∧ clear next)
      (do
        let session ← session.tearDown
        report .warn message fields
        return (.error error, session) : Program (Except AuthError User × Session)) state := by
  refine (tearDown_ends clears session state).bind fun _ s ends => ?_
  obtain ⟨rfl, cleared⟩ := ends
  exact report_ends stable cleared _ _ _ fun _ cleared => .pure ⟨rfl, cleared⟩

/--
A session is taken as it was found in the cache. On a sign of corruption the cache is cleared, and
else it stays as it was left by reading it.
-/
theorem tryRestore_ends {found : Except CacheError (Option CachedSession) → σ → Prop} {state : σ}
    (loads : CachedSession.load.run.Ends handler found state)
    (stable : ∀ reply, Stable handler (found reply))
    (clears : ∀ state, clearCache.Ends handler (fun _ => clear) state) (session : Session) :
    session.tryRestore.Ends handler
      (fun ended next => ∃ reply s, found reply s ∧
        ended = (reply.map (·.isSome), session.resumed reply) ∧
          match reply with
          | .ok _ | .error (.storage _) => found reply next
          | .error _ => clear next)
      state := by
  refine loads.bind fun reply s there => ?_
  split
  · refine report_ends (stable _) there _ _ _ fun _ kept => .pure ?_
    exact ⟨_, s, there, rfl, kept⟩
  · refine report_ends (stable _) there _ _ _ fun _ kept => .pure ?_
    exact ⟨_, s, there, rfl, kept⟩
  · exact .pure ⟨_, s, there, rfl, there⟩
  · rename_i e notStorage
    refine (tearDown_ends clears session s).bind fun after next ends => ?_
    obtain ⟨rfl, cleared⟩ := ends
    refine .pure ⟨_, s, there, rfl, ?_⟩
    cases e with
    | storage cause => exact absurd rfl (notStorage cause)
    | _ => exact cleared

/-- A cache that no session can be taken from is as good as an empty one. -/
theorem restore_ends {tried : Except CacheError Bool × Session → σ → Prop} {session : Session}
    {state : σ} (tries : session.tryRestore.Ends handler tried state)
    (stable : ∀ ended, Stable handler (tried ended)) :
    session.restore.Ends handler
      (fun ended next => ∃ result, tried (result, ended.2) next ∧
        (ended.1 = true ↔ result = .ok true))
      state := by
  refine tries.bind fun ended s there => ?_
  obtain ⟨result, after⟩ := ended
  cases result with
  | ok restored => exact .pure ⟨_, there, by simp⟩
  | error e =>
      refine report_ends (stable _) there _ _ _ fun _ kept => .pure ?_
      exact ⟨_, kept, by simp⟩

namespace Regime

theorem tearDown (regime : Regime handler clear kept) (session : Session) (state : σ) :
    session.tearDown.Ends handler (fun after next => after = session.cleared ∧ clear next) state :=
  tearDown_ends regime.clearCache session state

theorem expire (regime : Regime handler clear kept) (session : Session) (state : σ) :
    session.expire.Ends handler
      (fun after next => after = { session.cleared with expired := true } ∧ clear next) state := by
  have tearDown (s : σ) :
      (do return { ← session.tearDown with expired := true }).Ends handler
        (fun after next => after = { session.cleared with expired := true } ∧ clear next) s := by
    apply (regime.tearDown session s).bind
    intro _ next ends
    obtain ⟨rfl, cleared⟩ := ends
    exact .pure ⟨rfl, cleared⟩
  unfold Session.expire
  split
  · exact (Program.ends_any _ _).bind fun _ s _ => tearDown s
  · exact tearDown state

theorem observe (regime : Regime handler clear kept) (session : Session) {error : ServiceError}
    (rejected : error.isAuthFailure) (state : σ) :
    (session.observe error).Ends handler
      (fun (answer, after) next => answer = true ∧
        after = { session.cleared with expired := true } ∧ clear next) state := by
  unfold Session.observe
  rw [if_pos rejected]
  apply (regime.expire session state).bind
  intro _ next ends
  obtain ⟨rfl, cleared⟩ := ends
  exact .pure ⟨rfl, rfl, cleared⟩

theorem logout (regime : Regime handler clear kept) (session : Session) (state : σ) :
    session.logout.Ends handler
      (fun after next => after = { session.cleared with expired := false } ∧ clear next) state := by
  have tearDown (s : σ) : Program.Ends handler
      (fun after next => after = { session.cleared with expired := false } ∧ clear next) (do
      let userId := session.currentUser.map (·.id)
      let session ← session.tearDown
      report .info "Signed out"
        [("user_id", userId.elim "None" fun id => "Some(" ++ Text.quoted id ++ ")")]
      return { session with expired := false }) s := by
    apply (regime.tearDown session s).bind
    intro _ next ends
    obtain ⟨rfl, cleared⟩ := ends
    exact report_ends regime.stable_clear cleared _ _ _ fun _ cleared => .pure ⟨rfl, cleared⟩
  unfold Session.logout
  split
  · refine (Program.ends_any _ _).bind fun reply s _ => ?_
    cases reply with
    | ok _ => exact tearDown s
    | error e => exact (Program.ends_any _ _).bind fun _ s _ => tearDown s
  · exact tearDown state

theorem login (regime : Regime handler clear kept) (session : Session) (credentials : Credentials)
    (state : σ) :
    (session.login credentials).Ends handler
      (fun (result, after) next =>
        ((∃ e, result = .error e) ∧ after = { session.cleared with expired := false } ∧
          clear next) ∨
        ∃ cached, result = .ok cached.user ∧
          after = { session with expired := false }.holding cached ∧ kept cached next) state := by
  refine (Program.ends_any _ _).bind fun _ s _ => ?_
  apply (regime.tearDown session s).bind
  intro _ s ends
  obtain ⟨rfl, -⟩ := ends
  have refused := refused_ends regime.stable_clear regime.clearCache
  refine (Program.ends_any _ _).bind fun reply s _ => ?_
  cases reply with
  | error e =>
      refine (refused _ _ _ _ s).imp fun ended next ends => ?_
      obtain ⟨rfl, cleared⟩ := ends
      exact .inl ⟨⟨_, rfl⟩, rfl, cleared⟩
  | ok grant =>
      simp only
      cases User.ofProfile grant.user with
      | error role =>
          refine (refused _ _ _ _ s).imp fun ended next ends => ?_
          obtain ⟨rfl, cleared⟩ := ends
          exact .inl ⟨⟨_, rfl⟩, rfl, cleared⟩
      | ok user =>
          refine (Program.ends_any _ _).bind fun time s _ => ?_
          refine (regime.cache ⟨grant.accessToken, grant.refreshToken, user, time⟩ _ s).bind
            fun _ s written => ?_
          exact report_ends (regime.stable_kept _) written _ _ _ fun _ written =>
            .pure (.inr ⟨_, rfl, rfl, written⟩)

/-! ## Coming back -/

theorem tryRestore (regime : Regime handler clear kept) (session : Session) {state : σ}
    (settled : clear state ∨ ∃ cached, kept cached state) :
    session.tryRestore.Ends handler
      (fun (result, after) next =>
        (∃ cached, result = .ok true ∧ after = session.holding cached ∧ kept cached next) ∨
        result ≠ .ok true ∧ after = session.cleared ∧ clear next) state := by
  refine (tryRestore_ends (regime.load state settled) (fun reply => ?_) regime.clearCache
    session).imp fun ended next ends => ?_
  · split
    · exact regime.stable_kept _
    · exact regime.stable_clear
    · exact regime.stable_clear
    · exact stable_true
  · obtain ⟨reply, _, -, rfl, left⟩ := ends
    rcases reply with e | _ | cached
    · cases e with
      | _ => exact .inr ⟨nofun, rfl, left⟩
    · exact .inr ⟨nofun, rfl, left⟩
    · exact .inl ⟨cached, rfl, rfl, left⟩

theorem restore (regime : Regime handler clear kept) (session : Session) {state : σ}
    (settled : clear state ∨ ∃ cached, kept cached state) :
    session.restore.Ends handler
      (fun (restored, after) next =>
        (∃ cached, restored = true ∧ after = session.holding cached ∧ kept cached next) ∨
        restored = false ∧ after = session.cleared ∧ clear next) state := by
  apply (regime.tryRestore session settled).bind
  intro outcome next ends
  obtain ⟨result, after⟩ := outcome
  obtain ⟨cached, rfl, rfl, held⟩ | ⟨failed, rfl, cleared⟩ := ends
  · exact .pure (.inl ⟨cached, rfl, rfl, held⟩)
  · cases result with
    | ok restored =>
        cases restored with
        | true => exact absurd rfl failed
        | false => exact .pure (.inr ⟨rfl, rfl, cleared⟩)
    | error e =>
        exact report_ends regime.stable_clear cleared _ _ _ fun _ cleared =>
          .pure (.inr ⟨rfl, rfl, cleared⟩)

end Regime

def rejects : Except ServiceError Profile → Bool
  | .error e => e.isAuthFailure
  | .ok _ => false

def reconciled (cached : CachedSession) : Except ServiceError Profile → Option CachedSession
  | .error e => if e.isAuthFailure then none else some cached
  | .ok profile => (User.ofProfile profile).toOption.map fun user => { cached with user }

theorem reconciled_of_rejected (cached : CachedSession) {e : ServiceError}
    (rejected : e.isAuthFailure = true) : reconciled cached (.error e) = none :=
  if_pos rejected

theorem reconciled_of_accepted (cached : CachedSession) {e : ServiceError}
    (accepted : ¬ e.isAuthFailure = true) : reconciled cached (.error e) = some cached :=
  if_neg accepted

theorem reconciled_of_unknown (cached : CachedSession) {profile : Profile} {role : UnknownRole}
    (unknown : User.ofProfile profile = .error role) : reconciled cached (.ok profile) = none := by
  rw [reconciled, unknown]
  rfl

theorem reconciled_of_known (cached : CachedSession) {profile : Profile} {user : User}
    (known : User.ofProfile profile = .ok user) :
    reconciled cached (.ok profile) = some { cached with user } := by
  rw [reconciled, known]
  rfl

theorem accessToken_of_reconciled {cached known : CachedSession}
    {reply : Except ServiceError Profile} (left : reconciled cached reply = some known) :
    known.accessToken = cached.accessToken := by
  cases reply with
  | error e =>
      by_cases rejected : e.isAuthFailure = true
      · cases (reconciled_of_rejected cached rejected).symm.trans left
      · cases (reconciled_of_accepted cached rejected).symm.trans left
        rfl
  | ok profile =>
      cases found : User.ofProfile profile with
      | error role => cases (reconciled_of_unknown cached found).symm.trans left
      | ok user =>
          cases (reconciled_of_known cached found).symm.trans left
          rfl

theorem rejects_of_reconciled {cached known : CachedSession} {reply : Except ServiceError Profile}
    (left : reconciled cached reply = some known) : rejects reply = false := by
  cases reply with
  | ok profile => rfl
  | error e =>
      cases rejected : e.isAuthFailure with
      | false => exact rejected
      | true => cases (reconciled_of_rejected cached rejected).symm.trans left

namespace Regime

theorem reconcile (regime : Regime handler clear kept) (session : Session) (cached : CachedSession)
    (reply : Except ServiceError Profile) {state : σ}
    (held : ∀ e, reply = .error e → kept cached state) :
    ((session.holding cached).reconcile cached.accessToken reply).Ends handler
      (fun (confirmed, after) next =>
        (∃ known, reconciled cached reply = some known ∧ confirmed = true ∧
          after = session.holding known ∧ kept known next) ∨
        reconciled cached reply = none ∧ confirmed = false ∧
          after = { session.cleared with expired := session.expired || rejects reply } ∧
          clear next) state := by
  cases reply with
  | error e =>
      by_cases rejected : e.isAuthFailure = true
      · simp only [Session.reconcile, rejected, if_true]
        rw [reconciled_of_rejected cached rejected]
        apply (regime.expire _ state).bind
        intro _ next ends
        obtain ⟨rfl, cleared⟩ := ends
        refine .pure (.inr ⟨rfl, rfl, ?_, cleared⟩)
        simp [rejects, rejected, Session.holding, Session.cleared]
      · simp only [Session.reconcile, if_neg rejected]
        rw [reconciled_of_accepted cached rejected]
        exact report_ends (regime.stable_kept _) (held e rfl) _ _ _ fun _ held =>
          .pure (.inl ⟨cached, rfl, rfl, rfl, held⟩)
  | ok profile =>
      cases found : User.ofProfile profile with
      | error role =>
          simp only [Session.reconcile, found]
          rw [reconciled_of_unknown cached found]
          refine (Program.ends_any _ _).bind fun _ s _ => ?_
          apply (regime.tearDown _ s).bind
          intro _ next ends
          obtain ⟨rfl, cleared⟩ := ends
          refine .pure (.inr ⟨rfl, rfl, ?_, cleared⟩)
          simp [rejects, Session.holding, Session.cleared]
      | ok user =>
          simp only [Session.reconcile, found]
          rw [reconciled_of_known cached found]
          refine (Program.ends_any _ _).bind fun _ s _ => ?_
          exact (regime.cache ⟨cached.accessToken, cached.refreshToken, user, cached.loggedInAt⟩ _
            s).bind fun _ _ written => .pure (.inl ⟨_, rfl, rfl, rfl, written⟩)

theorem resume (regime : Regime handler clear kept) (session : Session) {state : σ}
    (settled : clear state ∨ ∃ cached, kept cached state) :
    session.resume.Ends handler
      (fun (resumed, after) next =>
        (∃ cached, resumed = true ∧ after = session.holding cached ∧ kept cached next) ∨
        resumed = false ∧ (∃ flag, after = { session.cleared with expired := flag }) ∧
          clear next) state := by
  apply (regime.restore session settled).bind
  intro outcome s ends
  obtain ⟨restored, after⟩ := outcome
  obtain ⟨cached, rfl, rfl, held⟩ | ⟨rfl, rfl, cleared⟩ := ends
  · have asked : (Service.currentUser cached.accessToken).Ends handler (fun _ => kept cached) s :=
      .operation trivial ((regime.stable_kept cached).keeps (by trivial) s held)
    refine asked.bind fun reply s held => ?_
    apply (regime.reconcile session cached reply fun _ _ => held).imp
    intro outcome next ends
    obtain ⟨confirmed, after⟩ := outcome
    obtain ⟨cached, -, rfl, rfl, held⟩ | ⟨-, rfl, rfl, cleared⟩ := ends
    · exact .inl ⟨cached, rfl, rfl, held⟩
    · exact .inr ⟨rfl, ⟨_, rfl⟩, cleared⟩
  · exact .pure (.inr ⟨rfl, ⟨_, rfl⟩, cleared⟩)

end Regime

/-! ## Any call -/

/-- Signed out over a clear cache, or holding what the cache holds. -/
def Settled (clear : σ → Prop) (kept : CachedSession → σ → Prop) (session : Session) (state : σ) :
    Prop :=
  session = session.cleared ∧ clear state ∨
    ∃ cached, session = session.holding cached ∧ kept cached state

def Call.Honest : (call : Call) → call.Reply → Session → Prop
  | .login _, result, after => ∀ user, result = .ok user ↔ after.state = .authenticated user
  | .tryRestore, result, after => result = .ok true ↔ after.isAuthenticated
  | .restore, restored, after | .resume, restored, after => restored = true ↔ after.isAuthenticated
  | .logout, _, _ | .expire, _, _ | .observe _, _, _ => True

/-- Every call leaves a settled session settled and answers accordingly. -/
theorem Regime.program (regime : Regime handler clear kept) {session : Session} {state : σ}
    (settled : Settled clear kept session state) (call : Call) :
    (call.program session).Ends handler
      (fun (reply, after) next => Settled clear kept after next ∧ call.Honest reply after)
      state := by
  have known : clear state ∨ ∃ cached, kept cached state := by
    rcases settled with ⟨-, cleared⟩ | ⟨cached, -, held⟩
    · exact .inl cleared
    · exact .inr ⟨cached, held⟩
  cases call with
  | login credentials =>
      apply (regime.login session credentials state).imp
      intro outcome next ends
      obtain ⟨result, after⟩ := outcome
      obtain ⟨⟨e, rfl⟩, rfl, cleared⟩ | ⟨cached, rfl, rfl, held⟩ := ends
      · exact ⟨.inl ⟨rfl, cleared⟩, fun user => ⟨nofun, nofun⟩⟩
      · refine ⟨.inr ⟨cached, rfl, held⟩, fun user => ⟨?_, ?_⟩⟩
        · intro h
          cases h
          rfl
        · intro h
          cases h
          rfl
  | logout =>
      apply (regime.logout session state).bind
      intro _ next ends
      obtain ⟨rfl, cleared⟩ := ends
      exact .pure ⟨.inl ⟨rfl, cleared⟩, trivial⟩
  | expire =>
      apply (regime.expire session state).bind
      intro _ next ends
      obtain ⟨rfl, cleared⟩ := ends
      exact .pure ⟨.inl ⟨rfl, cleared⟩, trivial⟩
  | observe error =>
      by_cases rejected : error.isAuthFailure = true
      · apply (regime.observe session rejected state).imp
        intro outcome next ends
        obtain ⟨answer, after⟩ := outcome
        obtain ⟨-, rfl, cleared⟩ := ends
        exact ⟨.inl ⟨rfl, cleared⟩, trivial⟩
      · change (session.observe error).Ends handler _ state
        rw [observe_eq_pure rejected session]
        exact .pure ⟨settled, trivial⟩
  | tryRestore =>
      apply (regime.tryRestore session known).imp
      intro outcome next ends
      obtain ⟨result, after⟩ := outcome
      obtain ⟨cached, rfl, rfl, held⟩ | ⟨failed, rfl, cleared⟩ := ends
      · exact ⟨.inr ⟨cached, rfl, held⟩, fun _ => rfl, fun _ => rfl⟩
      · exact ⟨.inl ⟨rfl, cleared⟩, fun h => absurd h failed, nofun⟩
  | restore =>
      apply (regime.restore session known).imp
      intro outcome next ends
      obtain ⟨restored, after⟩ := outcome
      obtain ⟨cached, rfl, rfl, held⟩ | ⟨rfl, rfl, cleared⟩ := ends
      · exact ⟨.inr ⟨cached, rfl, held⟩, fun _ => rfl, fun _ => rfl⟩
      · exact ⟨.inl ⟨rfl, cleared⟩, nofun, nofun⟩
  | resume =>
      apply (regime.resume session known).imp
      intro outcome next ends
      obtain ⟨resumed, after⟩ := outcome
      obtain ⟨cached, rfl, rfl, held⟩ | ⟨rfl, ⟨flag, rfl⟩, cleared⟩ := ends
      · exact ⟨.inr ⟨cached, rfl, held⟩, fun _ => rfl, fun _ => rfl⟩
      · exact ⟨.inl ⟨rfl, cleared⟩, nofun, nofun⟩

/-- A new session over a clear cache stays settled through any calls. -/
theorem Regime.live (regime : Regime handler clear kept) (calls : List Call) {session : Session}
    {state : σ} (settled : Settled clear kept session state) :
    (live calls session).Ends handler (fun after next => Settled clear kept after next) state := by
  induction calls generalizing session state with
  | nil => exact .pure settled
  | cons call calls ih =>
      exact (regime.program settled call).bind fun (_, after) next ends => ih ends.1

end Session
end AccessPortal
