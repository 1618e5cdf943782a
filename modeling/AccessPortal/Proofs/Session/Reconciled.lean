import AccessPortal.Proofs.Http.Answers
import AccessPortal.Proofs.Session.Ended
import AccessPortal.Proofs.Session.Mirror
import AccessPortal.Proofs.Storage.Calm

/-!
# Coming back with the consent of the service

An attempt to come back takes the session from the cache and asks the auth service about its token.
What becomes of the session depends on the session that was found and on what came back, and not on
what the store does meanwhile (`Reconciles`). Where the service knows the user, the cache describes
that user afterwards, unless an operation on the store failed (`resume_reconciles`).
-/

namespace AccessPortal

open Http

namespace Session

variable {σ τ : Type}

/-! ## By what came back -/

/-- What an attempt to come back ends in, by the session that was found in the cache and by what
came back from the service when it was asked about its token. -/
inductive Reconciles (session : Session) (cached : CachedSession) (answer : Option Response) :
    Bool × Session → Prop where
  | confirmed {profile : Profile} {role : Role} (delivers : Delivers Profile.ofJson? answer profile)
      (known : Role.ofId? profile.role = some role) :
      Reconciles session cached answer
        (true, session.holding { cached with
          user := ⟨profile.id, profile.name, profile.email, profile.department, role⟩ })
  | unknownRole {profile : Profile} (delivers : Delivers Profile.ofJson? answer profile)
      (unknown : Role.ofId? profile.role = none) :
      Reconciles session cached answer (false, session.cleared)
  | rejected (status : answer.map (·.status) = some 401) :
      Reconciles session cached answer (false, { session.cleared with expired := true })
  | unconfirmed (nothing : ∀ profile, ¬ Delivers Profile.ofJson? answer profile)
      (accepted : answer.map (·.status) ≠ some 401) :
      Reconciles session cached answer (true, session.holding cached)

def resumeResult (session : Session) (cached : CachedSession)
    (reply : Except ServiceError Profile) : Bool × Session :=
  (reconciled cached reply).elim
    (false, { session.cleared with expired := session.expired || rejects reply })
    fun known => (true, session.holding known)

/-- What neither describes a user nor rejects the token is an error of another kind. -/
theorem understand_of_unconfirmed {answer : Option Response}
    (nothing : ∀ profile, ¬ Delivers Profile.ofJson? answer profile)
    (accepted : answer.map (·.status) ≠ some 401) :
    ∃ e, Client.understand Profile.ofJson? answer = .error e ∧ ¬ e.isAuthFailure = true := by
  cases reply : Client.understand Profile.ofJson? answer with
  | ok profile => exact absurd (Client.understand_eq_ok_iff.mp reply) (nothing profile)
  | error e =>
      refine ⟨e, rfl, fun failure => ?_⟩
      rw [isAuthFailure_iff.mp failure] at reply
      exact accepted (Client.understand_eq_unauthorized_iff.mp reply)

theorem Reconciles.eq_resumeResult {session : Session} {cached : CachedSession}
    {answer : Option Response} {result : Bool × Session}
    (reconciles : Reconciles session cached answer result) :
    result = resumeResult session cached (Client.understand Profile.ofJson? answer) := by
  cases reconciles with
  | confirmed delivers known =>
      rw [Client.understand_eq_ok_iff.mpr delivers, resumeResult,
        reconciled_of_known cached (User.ofProfile_of_known known)]
      rfl
  | unknownRole delivers unknown =>
      rw [Client.understand_eq_ok_iff.mpr delivers, resumeResult,
        reconciled_of_unknown cached (User.ofProfile_of_unknown unknown)]
      simp [rejects, cleared]
  | rejected status =>
      rw [Client.understand_eq_unauthorized_iff.mpr status, resumeResult,
        reconciled_of_rejected cached rfl]
      simp [rejects, ServiceError.isAuthFailure]
  | unconfirmed nothing accepted =>
      obtain ⟨e, reply, tolerated⟩ := understand_of_unconfirmed nothing accepted
      rw [reply, resumeResult, reconciled_of_accepted cached tolerated]
      rfl

theorem reconcile_result (handler : Handler σ) (session : Session) (cached : CachedSession)
    (reply : Except ServiceError Profile) (state : σ) :
    ((session.holding cached).reconcile cached.accessToken reply).Ends handler
      (fun ended _ => ended = resumeResult session cached reply) state := by
  refine ((regime_any handler).reconcile session cached reply fun _ _ => trivial).imp
    fun ended _ outcome => ?_
  obtain ⟨known, left, confirmed, after, -⟩ | ⟨none, confirmed, after, -⟩ := outcome
  · rw [resumeResult, left]
    exact Prod.ext confirmed after
  · rw [resumeResult, none]
    exact Prod.ext confirmed after

theorem exists_reconciles (session : Session) (cached : CachedSession)
    (answer : Option Response) : ∃ result, Reconciles session cached answer result := by
  by_cases delivered : ∃ profile, Delivers Profile.ofJson? answer profile
  · obtain ⟨profile, delivers⟩ := delivered
    cases role : Role.ofId? profile.role with
    | some role => exact ⟨_, .confirmed delivers role⟩
    | none => exact ⟨_, .unknownRole delivers role⟩
  · by_cases status : answer.map (·.status) = some 401
    · exact ⟨_, .rejected status⟩
    · exact ⟨_, .unconfirmed (fun profile delivers => delivered ⟨profile, delivers⟩) status⟩

theorem reconciles_iff {session : Session} {cached : CachedSession} {answer : Option Response}
    {result : Bool × Session} :
    Reconciles session cached answer result ↔
      result = resumeResult session cached (Client.understand Profile.ofJson? answer) := by
  refine ⟨Reconciles.eq_resumeResult, fun same => ?_⟩
  obtain ⟨other, reconciles⟩ := exists_reconciles session cached answer
  rwa [same, ← reconciles.eq_resumeResult]

/-! ## What is found in the cache -/

section

variable {handler : Handler σ} {contents : σ → Contents}

theorem tryRestore_finds (undisturbed : Undisturbed handler contents) (session : Session)
    (state : σ) :
    session.tryRestore.Ends handler
      (fun ended _ => ended.1 = .ok true → ∃ cached,
        CachedSession.ofContents (contents state) = .ok (some cached) ∧
          ended.2 = session.holding cached)
      state := by
  refine (tryRestore_ends (CachedSession.load_finds undisturbed state) (fun _ => stable_const _)
    (regime_any handler).clearCache session).imp fun ended _ ends there => ?_
  obtain ⟨reply, _, finds, rfl, -⟩ := ends
  rcases reply with e | _ | cached
  · cases there
  · cases there
  · exact ⟨cached, finds cached rfl, rfl⟩

theorem restore_finds (undisturbed : Undisturbed handler contents) (session : Session)
    (state : σ) :
    session.restore.Ends handler
      (fun ended _ => ended.1 = true → ∃ cached,
        CachedSession.ofContents (contents state) = .ok (some cached) ∧
          ended.2 = session.holding cached)
      state := by
  refine (restore_ends (tryRestore_finds undisturbed session state) fun _ => stable_const _).imp
    fun ended _ ends there => ?_
  obtain ⟨result, finds, restored⟩ := ends
  exact finds (restored.mp there)

theorem usable_of_ofContents {cached : CachedSession} {contents : Contents}
    (found : CachedSession.ofContents contents = .ok (some cached)) : cached.accessToken ≠ "" := by
  intro empty
  obtain ⟨atToken, -, role, profile, atRole, atProfile, -⟩ :=
    CachedSession.ofContents_eq_some found
  rw [empty] at atToken
  simp [CachedSession.ofContents, atToken, atRole, atProfile] at found

/-! ## The run -/

theorem resume_of_nothing {session : Session} {state : σ}
    (nothing : (session.restore.run handler state).1.1 = false) :
    session.resume.run handler state = session.restore.run handler state := by
  have ended : (session.restore.run handler state).1 =
      (false, (session.restore.run handler state).1.2) := Prod.ext nothing rfl
  rw [resume, Program.run_bind, ended]
  exact Prod.ext ended.symm rfl

/-- A session that came back asks the service about its token. -/
theorem resume_of_token {session : Session} {token : String} {state : σ}
    (back : (session.restore.run handler state).1.1 = true)
    (held : (session.restore.run handler state).1.2.accessToken = some token) :
    let restored := session.restore.run handler state
    let asked := handler (.currentUser token) restored.2
    session.resume.run handler state =
      (restored.1.2.reconcile token asked.1).run handler asked.2 := by
  have ended : (session.restore.run handler state).1 =
      (true, (session.restore.run handler state).1.2) := Prod.ext back rfl
  rw [resume, Program.run_bind, ended]
  simp only [held]
  rfl

theorem resume_of_restored {session : Session} {cached : CachedSession} {state : σ}
    (restored : (session.restore.run handler state).1 = (true, session.holding cached)) :
    let asked := handler (.currentUser cached.accessToken) (session.restore.run handler state).2
    session.resume.run handler state =
      ((session.holding cached).reconcile cached.accessToken asked.1).run handler asked.2 := by
  have held : (session.restore.run handler state).1.2.accessToken = some cached.accessToken := by
    rw [restored]
    rfl
  have run := resume_of_token (congrArg Prod.fst restored) held
  simp only [restored] at run
  exact run

/-- A session that the service confirmed is found by a new one, unless the store failed. -/
theorem tryRestore_of_confirmed (faithful : Faithful handler contents) (session : Session)
    {cached : CachedSession} (usable : cached.accessToken ≠ "") (profile : Profile)
    (moment : List Event × σ) :
    let ended := ((session.holding cached).reconcile cached.accessToken (.ok profile)).run
      handler.recorded moment
    let fresh := ({} : Session).tryRestore.run handler.recorded ended.2
    ended.1.1 = true → Calm fresh.2.1 →
      fresh.1 = (.ok true, { ended.1.2 with expired := false }) := by
  intro ended fresh confirmed calm
  have reliable := reliable_mended handler
  have written := (@Regime.reconcile _ _ _ _ (regime_of_reliable reliable) session cached
    (.ok profile) (moment.2, contents moment.2) nofun).outcome
  rw [run_mended faithful _ (calm_before _ _ calm)] at written
  obtain ⟨known, left, -, after, stored⟩ | ⟨-, denied, -⟩ := written
  · have back := (tryRestore_of_storedIn reliable {} stored
      (accessToken_of_reconciled left ▸ usable)).outcome
    rw [run_mended faithful _ calm] at back
    have memory : ended.1.2 = session.holding known := after
    rw [memory]
    exact Prod.ext back.1 back.2
  · cases confirmed.symm.trans denied

/-- Where the service cannot tell, nothing is written. -/
theorem reconcile_unconfirmed (faithful : Faithful handler contents) (session : Session)
    (token : String) {e : ServiceError} (accepted : ¬ e.isAuthFailure = true) (state : σ) :
    (session.reconcile token (.error e)).Ends handler
      (fun _ next => contents next = contents state) state := by
  simp only [reconcile, if_neg accepted]
  exact report_ends (stable_contents faithful (· = contents state)) rfl _ _ _ fun _ same =>
    .pure same

/-- What becomes of a cached session once it is known what came back for its token. -/
theorem reconcile_settles (faithful : Faithful handler contents) (session : Session)
    {cached : CachedSession} (usable : cached.accessToken ≠ "") (answer : Option Response)
    (moment : List Event × σ) :
    let ended := ((session.holding cached).reconcile cached.accessToken
      (Client.understand Profile.ofJson? answer)).run handler.recorded moment
    (∀ result, ended.1 = result ↔ Reconciles session cached answer result) ∧
    ((∃ profile, Delivers Profile.ofJson? answer profile) → ended.1.1 = true →
      let fresh := ({} : Session).tryRestore.run handler.recorded ended.2
      Calm fresh.2.1 → fresh.1 = (.ok true, { ended.1.2 with expired := false })) ∧
    (answer.map (·.status) = some 401 → ended.1.2.requireUser = .error .sessionExpired) ∧
    ((∀ profile, ¬ Delivers Profile.ofJson? answer profile) → answer.map (·.status) ≠ some 401 →
      contents ended.2.2 = contents moment.2) := by
  intro ended
  have result : ended.1 = resumeResult session cached (Client.understand Profile.ofJson? answer) :=
    (reconcile_result handler.recorded session cached _ moment).outcome
  have reconciles : Reconciles session cached answer ended.1 := reconciles_iff.mpr result
  refine ⟨fun other => ?_, fun delivered => ?_, fun status => ?_, fun nothing accepted => ?_⟩
  · rw [reconciles_iff, ← result]
    exact eq_comm
  · obtain ⟨profile, delivers⟩ := delivered
    have confirmed := tryRestore_of_confirmed faithful session usable profile moment
    rw [← Client.understand_eq_ok_iff.mpr delivers] at confirmed
    exact confirmed
  · have rejected : Reconciles session cached answer
        (false, { session.cleared with expired := true }) := .rejected status
    rw [result, ← rejected.eq_resumeResult]
    rfl
  · obtain ⟨e, reply, tolerated⟩ := understand_of_unconfirmed nothing accepted
    have kept := (reconcile_unconfirmed faithful.recorded (session.holding cached)
      cached.accessToken tolerated moment).outcome
    rw [← reply] at kept
    exact kept

end

/-- Writing the cache leaves the network alone. -/
theorem persist_network (here : Uplink σ τ) {network : τ} (cached : CachedSession) :
    cached.persist.run.Preserves here.handler fun state => here.network state = network :=
  persist_preserves here.network_of_upkeep
    (fun key _ value state same => (here.apart (.set key value) id state).trans same) cached

/-- Whatever becomes of a session, the network is left alone once the service has answered. -/
theorem reconcile_network (here : Uplink σ τ) (session : Session) (token : String)
    (reply : Except ServiceError Profile) {network : τ} :
    (session.reconcile token reply).Preserves here.handler
      fun state => here.network state = network :=
  reconcile_preserves here.network_of_upkeep (persist_network here) session token reply

/--
An attempt to come back finds a session in the cache, or it ends there and the service is not asked.
If it finds one, what came back for its token decides what it ends in. A user that the service knows
is the one that a new session finds in the cache, unless an operation on the store failed; and where
the service cannot tell, the store is left as it was.
-/
theorem resume_reconciles (here : Uplink σ τ) {contents : σ → Contents}
    (faithful : Faithful here.handler contents) (session : Session) (start : σ) :
    let restored := session.restore.run (Handler.recorded here.handler) ([], start)
    let ended := session.resume.run (Handler.recorded here.handler) ([], start)
    (restored.1.1 = false → ended = restored ∧ here.network ended.2.2 = here.network start ∧
      ∀ event ∈ ended.2.1, ¬ event.CarriesToken) ∧
    (restored.1.1 = true → ∃ cached,
      CachedSession.ofContents (contents start) = .ok (some cached) ∧
      restored.1.2 = session.holding cached ∧
      here.network ended.2.2 = (here.currentUserAnswer cached.accessToken start).2 ∧
      let answer := (here.currentUserAnswer cached.accessToken start).1
      (∀ result, ended.1 = result ↔ Reconciles session cached answer result) ∧
      ((∃ profile, Delivers Profile.ofJson? answer profile) → ended.1.1 = true →
        let fresh := ({} : Session).tryRestore.run (Handler.recorded here.handler) ended.2
        Calm fresh.2.1 → fresh.1 = (.ok true, { ended.1.2 with expired := false })) ∧
      (answer.map (·.status) = some 401 → ended.1.2.requireUser = .error .sessionExpired) ∧
      ((∀ profile, ¬ Delivers Profile.ofJson? answer profile) → answer.map (·.status) ≠ some 401 →
        contents ended.2.2 = contents restored.2.2)) := by
  intro restored ended
  have untouched : here.network restored.2.2 = here.network start :=
    ((restore_preserves here.recorded.network_of_upkeep session).ends rfl).outcome
  have silent {β : Type} (operation : Operation β) (upkeep : operation.IsUpkeep)
      (moment : List Event × σ) (before : ∀ event ∈ moment.1, ¬ event.CarriesToken) :
      ∀ event ∈ (Handler.recorded here.handler operation moment).2.1, ¬ event.CarriesToken :=
    own_recorded here.handler (upkeep_carries_none upkeep) moment before
  have unsent : ∀ event ∈ restored.2.1, ¬ event.CarriesToken := by
    have fresh : ∀ event ∈ (([], start) : List Event × σ).1, ¬ event.CarriesToken := nofun
    exact ((restore_preserves silent session).ends fresh).outcome
  refine ⟨fun nothing => ?_, fun back => ?_⟩
  · have same : ended = restored := resume_of_nothing nothing
    rw [same]
    exact ⟨rfl, untouched, unsent⟩
  · obtain ⟨cached, found, held⟩ :=
      (restore_finds faithful.undisturbed.recorded session ([], start)).outcome back
    let asked := here.recorded.handler (.currentUser cached.accessToken) restored.2
    have run : ended = ((session.holding cached).reconcile cached.accessToken asked.1).run
        (Handler.recorded here.handler) asked.2 := resume_of_restored (Prod.ext back held)
    have sameAnswer : here.recorded.currentUserAnswer cached.accessToken restored.2 =
        here.currentUserAnswer cached.accessToken start :=
      congrArg (Client.answer here.transport _) untouched
    obtain ⟨reply, network⟩ := here.recorded.reply_currentUser cached.accessToken restored.2
    rw [sameAnswer] at reply network
    have settles := reconcile_settles faithful session (usable_of_ofContents found)
      (here.currentUserAnswer cached.accessToken start).1 asked.2
    have quiet := ((reconcile_network here.recorded (session.holding cached) cached.accessToken
      asked.1).ends network).outcome
    have outside : (Operation.currentUser cached.accessToken).IsOutside := trivial
    have unwritten : contents asked.2.2 = contents restored.2.2 :=
      faithful.outside outside restored.2.2
    rw [unwritten, ← reply] at settles
    refine ⟨cached, found, held, ?_, ?_⟩
    · rw [run]
      exact quiet
    · rw [run]
      exact settles

/-- The user has become a manager since. -/
theorem resume_reconciles_promoted :
    let cached : CachedSession :=
      ⟨"token", some "refresh", ⟨"u-1", "Ada", "ada@example.org", "", .auditor⟩, 6⟩
    let profile : Profile := ⟨"u-1", "manager", "Ada", "ada@example.org", ""⟩
    let here := Uplink.beside ⟨"http://auth.example"⟩ inOrder (Plan.handle {})
    let start : Plan.World × List Response :=
      (⟨cached.entries, 0⟩, [⟨200, profile.toJson.write⟩])
    let restored := ({} : Session).restore.run (Handler.recorded here.handler) ([], start)
    let ended := ({} : Session).resume.run (Handler.recorded here.handler) ([], start)
    let fresh := ({} : Session).tryRestore.run (Handler.recorded here.handler) ended.2
    Faithful here.handler (fun state => state.1.contents) ∧ restored.1.1 = true ∧
      Delivers Profile.ofJson? (here.currentUserAnswer "token" start).1 profile ∧
      Calm fresh.2.1 ∧
      ended.1 = (true, holding {} { cached with
        user := ⟨"u-1", "Ada", "ada@example.org", "", .manager⟩ }) ∧
      fresh.1 = (.ok true, { ended.1.2 with expired := false }) := by
  intro cached profile here start
  have faithful := Uplink.faithful_beside ⟨"http://auth.example"⟩ inOrder (Plan.faithful {})
  have back : (({} : Session).restore.run (Handler.recorded here.handler) ([], start)).1.1 =
      true := by
    decide +kernel
  have calm : Calm (({} : Session).tryRestore.run (Handler.recorded here.handler)
      (({} : Session).resume.run (Handler.recorded here.handler) ([], start)).2).2.1 := by
    decide +kernel
  have came : (here.currentUserAnswer "token" start).1 = some ⟨200, profile.toJson.write⟩ := by
    decide +kernel
  have delivers : Delivers Profile.ofJson? (here.currentUserAnswer "token" start).1 profile :=
    ⟨_, came, rfl, Profile.lossless.parse_write profile⟩
  have stored : cached.StoredIn start.1.contents := fun _ _ => rfl
  have there : CachedSession.ofContents start.1.contents = .ok (some cached) :=
    CachedSession.ofContents_of_storedIn stored
  obtain ⟨cached', found, -, -, result, again, -⟩ :=
    (resume_reconciles here faithful {} start).2 back
  cases there.symm.trans found
  have confirmed := (result _).mpr (.confirmed delivers rfl)
  exact ⟨faithful, back, delivers, calm, confirmed,
    again ⟨profile, delivers⟩ (congrArg Prod.fst confirmed) calm⟩

end Session
end AccessPortal
