import AccessPortal.Proofs.Http.Answers
import AccessPortal.Proofs.Session.Ended

/-!
# What a sign-in comes to

A sign-in comes to what came back for its request, and to nothing else: neither the session before
it nor what the store does has any influence on the result and on the session after it, but for the
time (`login_concludes`). A sign-in that fails leaves nothing in memory, and in the store no more
than what could not be removed.

The walk through the program is made once (`login_run`). What the service answers by its statuses
and bodies is a matter of `Concludes`.
-/

namespace AccessPortal

open Http

namespace Session

variable {σ τ : Type}

/-! ## By what came back -/

/-- What a sign-in comes to, by what came back for its request. -/
inductive Concludes (answer : Option Response) : Except AuthError User → Prop where
  | welcome {grant : Grant} {role : Role} (delivers : Delivers Grant.ofJson? answer grant)
      (known : Role.ofId? grant.user.role = some role) :
      Concludes answer (.ok ⟨grant.user.id, grant.user.name, grant.user.email,
        grant.user.department, role⟩)
  | unknownRole {grant : Grant} (delivers : Delivers Grant.ofJson? answer grant)
      (unknown : Role.ofId? grant.user.role = none) :
      Concludes answer (.error (.unknownRole grant.user.role))
  | unreadable {response : Response} (came : answer = some response)
      (success : Status.isSuccess response.status)
      (nothing : ∀ grant, ¬ Delivers Grant.ofJson? answer grant) :
      Concludes answer (.error (.invalidResponse Detail.json))
  | rejected {response : Response} (came : answer = some response)
      (status : response.status = 401 ∨ response.status = 400) :
      Concludes answer (.error .invalidCredentials)
  | denied {response : Response} (came : answer = some response)
      (status : response.status = 403) :
      Concludes answer (.error (.denied response.body))
  | notFound {response : Response} (came : answer = some response)
      (status : response.status = 404) :
      Concludes answer (.error (.unavailable response.body))
  | failed {response : Response} (came : answer = some response)
      (refused : ¬ Status.isSuccess response.status)
      (other : response.status ∉ [400, 401, 403, 404]) :
      Concludes answer
        (.error (.unavailable (Status.text response.status ++ ": " ++ response.body)))
  | silent (nothing : answer = none) :
      Concludes answer (.error (.unavailable Detail.transport))

def signInResult : Except ServiceError Grant → Except AuthError User
  | .error e => .error (.ofService e)
  | .ok grant => (User.ofProfile grant.user).mapError fun role => .unknownRole role.id

theorem signInResult_of_known {grant : Grant} {role : Role}
    (known : Role.ofId? grant.user.role = some role) :
    signInResult (.ok grant) = .ok ⟨grant.user.id, grant.user.name, grant.user.email,
      grant.user.department, role⟩ := by
  rw [signInResult, User.ofProfile_of_known known]
  rfl

theorem signInResult_of_unknown {grant : Grant} (unknown : Role.ofId? grant.user.role = none) :
    signInResult (.ok grant) = .error (.unknownRole grant.user.role) := by
  rw [signInResult, User.ofProfile_of_unknown unknown]
  rfl

theorem Concludes.eq_signInResult {answer : Option Response} {result : Except AuthError User}
    (concludes : Concludes answer result) :
    result = signInResult (Client.understand Grant.ofJson? answer) := by
  cases concludes with
  | welcome delivers known =>
      rw [Client.understand_eq_ok_iff.mpr delivers, signInResult_of_known known]
  | unknownRole delivers unknown =>
      rw [Client.understand_eq_ok_iff.mpr delivers, signInResult_of_unknown unknown]
  | unreadable came success nothing =>
      subst came
      rw [Client.understand_of_unreadable success nothing]
      rfl
  | @rejected response came status =>
      obtain ⟨status, body⟩ := response
      subst came
      rcases status with rfl | rfl <;> rfl
  | @denied response came status =>
      obtain ⟨status, body⟩ := response
      subst came status
      rfl
  | @notFound response came status =>
      obtain ⟨status, body⟩ := response
      subst came status
      rfl
  | failed came refused other =>
      subst came
      rw [Client.understand_of_refused _ (Client.successBody_of_other refused other)]
      rfl
  | silent nothing =>
      subst nothing
      rfl

theorem exists_concludes (answer : Option Response) : ∃ result, Concludes answer result := by
  by_cases delivered : ∃ grant, Delivers Grant.ofJson? answer grant
  · obtain ⟨grant, delivers⟩ := delivered
    cases role : Role.ofId? grant.user.role with
    | some role => exact ⟨_, .welcome delivers role⟩
    | none => exact ⟨_, .unknownRole delivers role⟩
  · cases answer with
    | none => exact ⟨_, .silent rfl⟩
    | some response =>
        by_cases success : Status.isSuccess response.status = true
        · exact ⟨_, .unreadable rfl success fun grant delivers => delivered ⟨grant, delivers⟩⟩
        · by_cases listed : response.status ∈ [400, 401, 403, 404]
          · have own : response.status = 400 ∨ response.status = 401 ∨ response.status = 403 ∨
                response.status = 404 := by
              simpa using listed
            rcases own with status | status | status | status
            · exact ⟨_, .rejected rfl (.inr status)⟩
            · exact ⟨_, .rejected rfl (.inl status)⟩
            · exact ⟨_, .denied rfl status⟩
            · exact ⟨_, .notFound rfl status⟩
          · exact ⟨_, .failed rfl success listed⟩

theorem concludes_iff {answer : Option Response} {result : Except AuthError User} :
    Concludes answer result ↔
      result = signInResult (Client.understand Grant.ofJson? answer) := by
  refine ⟨Concludes.eq_signInResult, fun same => ?_⟩
  obtain ⟨other, concludes⟩ := exists_concludes answer
  rwa [same, ← concludes.eq_signInResult]

/-! ## The run -/

/-- What was under a key of the session is gone, or an attempt to remove it failed. -/
def Swept (contents : σ → Contents) (key : String) (moment : List Event × σ) : Prop :=
  contents moment.2 key = none ∨ ∃ e, .remove key (.error e) ∈ moment.1

section

variable {handler : Handler σ} {contents : σ → Contents}

theorem swept_step (undisturbed : Undisturbed handler contents) {key : String}
    (own : key ∈ StorageKey.sessionKeys) {β : Type} {operation : Operation β}
    (addsNothing : operation.AddsNothing) (moment : List Event × σ)
    (swept : Swept contents key moment) :
    Swept contents key (handler.recorded operation moment).2 := by
  rcases swept with gone | ⟨e, failed⟩
  · exact .inl (undisturbed.shrinks addsNothing moment.2 own gone)
  · exact .inr ⟨e, List.mem_append_left _ failed⟩

theorem clearKeys_swept (undisturbed : Undisturbed handler contents) {keys : List String}
    (own : ∀ key ∈ keys, key ∈ StorageKey.sessionKeys) (moment : List Event × σ) :
    (clearKeys keys).Ends handler.recorded
      (fun _ next => ∀ key ∈ keys, Swept contents key next) moment := by
  induction keys generalizing moment with
  | nil => exact .pure (fun _ mem => nomatch mem)
  | cons first keys ih =>
      have ownFirst := own first List.mem_cons_self
      have ownRest (key : String) (mem : key ∈ keys) := own key (List.mem_cons_of_mem first mem)
      have removed : (Store.remove first).Ends handler.recorded
          (fun _ next => Swept contents first next) moment := by
        refine .operation trivial ?_
        cases reply : (handler (.remove first) moment.2).1 with
        | ok done =>
            have after := undisturbed.after (.remove first) moment.2 first ownFirst
            rw [reply] at after
            exact .inl (after.trans (Function.update_self ..))
        | error e =>
            refine .inr ⟨e, List.mem_append_right _ ?_⟩
            rw [reply]
            exact List.mem_singleton_self _
      have keeps {β : Type} (operation : Operation β) (upkeep : operation.IsUpkeep) :=
        swept_step undisturbed ownFirst (upkeep_addsNothing upkeep)
      have rest (next : List Event × σ) (swept : Swept contents first next) :
          (clearKeys keys).Ends handler.recorded
            (fun _ last => ∀ key ∈ first :: keys, Swept contents key last) next := by
        refine ((ih ownRest next).and ((clearKeys_preserves keeps ownRest).ends swept)).imp
          fun _ last ends key mem => ?_
        rcases List.mem_cons.mp mem with rfl | mem
        · exact ends.2
        · exact ends.1 key mem
      refine removed.bind fun reply next swept => ?_
      cases reply with
      | ok _ => exact rest next swept
      | error e =>
          exact ((report_preserves keeps _ _ _).ends swept).bind fun _ next swept => rest next swept

end

/--
A sign-in asks once and comes to what the service answers. If that is an error, it ends in a new
session, right after the cache was cleared.
-/
theorem login_run (uplink : Uplink σ τ) {left : σ → Prop} (stable : Stable uplink.handler left)
    (clears : ∀ state, clearCache.Ends uplink.handler (fun _ => left) state) (session : Session)
    (credentials : Credentials) (start : σ) :
    (session.login credentials).Ends uplink.handler
      (fun ended next =>
        let reply := Client.understand Grant.ofJson? (uplink.loginAnswer credentials start).1
        ended.1 = signInResult reply ∧
          ((∃ e, ended.1 = .error e) ∧ ended.2 = {} ∧ left next ∨
            ∃ grant user time, reply = .ok grant ∧ ended.1 = .ok user ∧
              ended.2 = holding {} ⟨grant.accessToken, grant.refreshToken, user, time⟩))
      start := by
  have refused := refused_ends stable clears
  refine ((report_preserves uplink.network_of_upkeep _ _ _).ends rfl).bind fun _ s same => ?_
  refine (((regime_any uplink.handler).tearDown session s).and
    ((tearDown_preserves uplink.network_of_upkeep session).ends same)).bind fun _ s ends => ?_
  obtain ⟨⟨rfl, -⟩, same⟩ := ends
  have asked : (Service.login credentials).Ends uplink.handler
      (fun reply _ =>
        reply = Client.understand Grant.ofJson? (uplink.loginAnswer credentials start).1) s := by
    refine .operation trivial ((uplink.reply_login credentials s).trans ?_)
    rw [Uplink.loginAnswer, same, Uplink.loginAnswer]
  refine asked.bind fun reply s told => ?_
  rw [← told]
  cases reply with
  | error e =>
      refine (refused _ _ _ _ s).imp fun ended next ends => ?_
      obtain ⟨rfl, left⟩ := ends
      exact ⟨rfl, .inl ⟨⟨_, rfl⟩, rfl, left⟩⟩
  | ok grant =>
      simp only [signInResult]
      cases User.ofProfile grant.user with
      | error role =>
          refine (refused _ _ _ _ s).imp fun ended next ends => ?_
          obtain ⟨rfl, left⟩ := ends
          exact ⟨rfl, .inl ⟨⟨_, rfl⟩, rfl, left⟩⟩
      | ok user =>
          refine (Program.ends_any _ _).bind fun time s _ => ?_
          refine (Program.ends_any _ _).bind fun _ s _ => ?_
          exact (Program.ends_any _ _).bind fun _ s _ =>
            .pure ⟨rfl, .inr ⟨grant, user, time, rfl, rfl, rfl⟩⟩

theorem stable_swept {handler : Handler σ} {contents : σ → Contents}
    (undisturbed : Undisturbed handler contents) :
    Stable handler.recorded fun moment =>
      ∀ key ∈ StorageKey.sessionKeys, Swept contents key moment := by
  refine ⟨fun {_} {operation} outside moment swept key own => ?_⟩
  have addsNothing : operation.AddsNothing := by
    cases operation with
    | set key value => exact outside
    | _ => trivial
  exact swept_step undisturbed own addsNothing moment (swept key own)

/-- What came back decides on the result and, but for the time, on the session after it. -/
theorem login_agrees {σ' τ' : Type} (here : Uplink σ τ) (there : Uplink σ' τ')
    {credentials credentials' : Credentials} {start : σ} {start' : σ'}
    (same : (there.loginAnswer credentials' start').1 = (here.loginAnswer credentials start).1)
    (session session' : Session) :
    let ended := ((session.login credentials).run here.handler start).1
    let ended' := ((session'.login credentials').run there.handler start').1
    ended'.1 = ended.1 ∧
      { ended'.2 with loggedInAt := none } = { ended.2 with loggedInAt := none } := by
  intro ended ended'
  obtain ⟨result, after⟩ := (login_run here stable_true
    (regime_any here.handler).clearCache session credentials start).outcome
  obtain ⟨result', after'⟩ := (login_run there stable_true
    (regime_any there.handler).clearCache session' credentials' start').outcome
  rw [same] at result' after'
  have results : ended'.1 = ended.1 := result'.trans result.symm
  refine ⟨results, ?_⟩
  rcases after with ⟨⟨e, error⟩, nothing, -⟩ | ⟨grant, user, time, granted, ok, held⟩ <;>
    rcases after' with ⟨⟨e', error'⟩, nothing', -⟩ | ⟨grant', user', time', granted', ok', held'⟩
  · exact congrArg (fun s : Session => { s with loggedInAt := none }) (nothing'.trans nothing.symm)
  · cases ok'.symm.trans (results.trans error)
  · cases error'.symm.trans (results.trans ok)
  · cases granted.symm.trans granted'
    cases ok'.symm.trans (results.trans ok)
    have memory : ended.2 = holding {} ⟨grant.accessToken, grant.refreshToken, user, time⟩ := held
    have memory' : ended'.2 = holding {} ⟨grant.accessToken, grant.refreshToken, user, time'⟩ :=
      held'
    rw [memory, memory']
    rfl

/--
A sign-in comes to what came back for its request: it succeeds exactly if that is a grant for a user
of a known role. Any two sign-ins for which the same came back have the same result and leave the
same session, but for the time, whatever sessions they began with and over whatever stores. One that
fails leaves nothing in memory, and under a key of the session only what could not be removed.
-/
theorem login_concludes (here : Uplink σ τ) (session : Session) (credentials : Credentials)
    (start : σ) :
    let answer := (here.loginAnswer credentials start).1
    let ended := (session.login credentials).run (Handler.recorded here.handler) ([], start)
    (∀ result, ended.1.1 = result ↔ Concludes answer result) ∧
    (∀ e, ended.1.1 = .error e → ended.1.2 = {} ∧
      ∀ contents, Undisturbed here.handler contents → ∀ key ∈ StorageKey.sessionKeys,
        contents ended.2.2 key ≠ none → ∃ e, .remove key (.error e) ∈ ended.2.1) ∧
    (∀ user, ended.1.1 = .ok user → ∃ grant time, Delivers Grant.ofJson? answer grant ∧
      ended.1.2 = holding {} ⟨grant.accessToken, grant.refreshToken, user, time⟩) ∧
    ∀ {σ' τ' : Type} (there : Uplink σ' τ') (session' : Session) (credentials' : Credentials)
      (start' : σ'), (there.loginAnswer credentials' start').1 = answer →
        let ended' := (session'.login credentials').run there.handler start'
        ended'.1.1 = ended.1.1 ∧
          { ended'.1.2 with loggedInAt := none } = { ended.1.2 with loggedInAt := none } := by
  intro answer ended
  have noted := (session.login credentials).run_recorded here.handler [] start
  obtain ⟨result, after⟩ := (login_run here.recorded stable_true
    (regime_any here.recorded.handler).clearCache session credentials ([], start)).outcome
  have result : ended.1.1 = signInResult (Client.understand Grant.ofJson? answer) := result
  refine ⟨fun other => ?_, fun e failed => ⟨?_, fun contents undisturbed => ?_⟩,
    fun user succeeded => ?_, fun there session' credentials' start' same => ?_⟩
  · rw [concludes_iff, ← result]
    exact eq_comm
  · rcases after with ⟨-, nothing, -⟩ | ⟨_, _, _, -, ok, -⟩
    · exact nothing
    · cases failed.symm.trans ok
  · have run := (login_run here.recorded (stable_swept undisturbed)
      (fun moment => clearKeys_swept undisturbed (fun _ own => own) moment) session credentials
      ([], start)).outcome
    obtain ⟨-, ⟨-, -, swept⟩ | ⟨_, _, _, -, ok, -⟩⟩ := run
    · exact fun key own left => (swept key own).resolve_left left
    · cases failed.symm.trans ok
  · rcases after with ⟨⟨_, error⟩, -, -⟩ | ⟨grant, user', time, granted, ok, held⟩
    · cases succeeded.symm.trans error
    · cases succeeded.symm.trans ok
      exact ⟨grant, time, Client.understand_eq_ok_iff.mp granted, held⟩
  · have agrees := login_agrees here there same session session'
    rw [← noted.1] at agrees
    exact agrees

/-- One user is refused, and a token of the one before cannot be removed; another one is let in. -/
theorem login_concludes_refused_and_admitted :
    let plan : Plan :=
      { fault? := fun k => if k = 2 ∨ k = 7 then some (.writeRejected "denied") else none }
    let cached : CachedSession :=
      ⟨"token", some "refresh", ⟨"u-1", "Ada", "ada@example.org", "", .auditor⟩, 6⟩
    let profile : Profile := ⟨"u-1", "manager", "Ada", "ada@example.org", ""⟩
    let grant : Grant := ⟨"t-1", none, profile⟩
    let here := Uplink.beside ⟨"http://auth.example"⟩ inOrder plan.handle
    let start : Plan.World × List Response := (⟨cached.entries, 0⟩, [⟨403, "locked"⟩])
    let there := Uplink.beside ⟨"http://auth.example"⟩ inOrder (Plan.handle {})
    let granting : Plan.World × List Response := ({}, [⟨201, grant.toJson.write⟩])
    let ended := ((holding {} cached).login ⟨"eve", "pw"⟩).run (Handler.recorded here.handler)
      ([], start)
    let ended' := (({} : Session).login ⟨"eve", "pw"⟩).run there.handler ({}, [⟨403, "locked"⟩])
    let admitted := ((holding {} cached).login ⟨"ada", "pw"⟩).run (Handler.recorded there.handler)
      ([], granting)
    ended.1.1 = .error (.denied "locked") ∧ ended.1.2 = {} ∧ ended'.1.1 = ended.1.1 ∧
      ended.2.2.1.contents StorageKey.refreshToken = some "refresh" ∧
      (∃ e, .remove StorageKey.refreshToken (.error e) ∈ ended.2.1) ∧
      admitted.1.1 = .ok ⟨"u-1", "Ada", "ada@example.org", "", .manager⟩ ∧
      ∃ time, admitted.1.2 = holding {}
        ⟨"t-1", none, ⟨"u-1", "Ada", "ada@example.org", "", .manager⟩, time⟩ := by
  intro plan cached profile grant here start there granting
  have came : (here.loginAnswer ⟨"eve", "pw"⟩ start).1 = some ⟨403, "locked"⟩ := by
    decide +kernel
  have came' : (there.loginAnswer ⟨"eve", "pw"⟩ ({}, [⟨403, "locked"⟩])).1 =
      some ⟨403, "locked"⟩ := by
    decide +kernel
  have left : ((((holding {} cached).login ⟨"eve", "pw"⟩).run (Handler.recorded here.handler)
      ([], start)).2.2.1.contents StorageKey.refreshToken) = some "refresh" := by
    decide +kernel
  have undisturbed := (Uplink.faithful_beside ⟨"http://auth.example"⟩ inOrder
    plan.faithful).undisturbed
  obtain ⟨result, failed, -, others⟩ :=
    login_concludes here (holding {} cached) ⟨"eve", "pw"⟩ start
  have denied := (result _).mpr (@Concludes.denied _ ⟨403, "locked"⟩ came rfl)
  obtain ⟨nothing, leftOver⟩ := failed _ denied
  obtain ⟨same, -⟩ := others there {} ⟨"eve", "pw"⟩ ({}, [⟨403, "locked"⟩]) (came'.trans came.symm)
  have granted : (there.loginAnswer ⟨"ada", "pw"⟩ granting).1 =
      some ⟨201, grant.toJson.write⟩ := by
    decide +kernel
  have delivers : Delivers Grant.ofJson? (there.loginAnswer ⟨"ada", "pw"⟩ granting).1 grant :=
    ⟨_, granted, rfl, Grant.lossless.parse_write grant⟩
  obtain ⟨result', -, holds, -⟩ :=
    login_concludes there (holding {} cached) ⟨"ada", "pw"⟩ granting
  have welcome := (result' _).mpr (@Concludes.welcome _ grant .manager delivers rfl)
  obtain ⟨_, time, again, memory⟩ := holds _ welcome
  obtain rfl := delivers.unique again
  refine ⟨denied, nothing, same, left, ?_, welcome, time, memory⟩
  exact leftOver _ undisturbed StorageKey.refreshToken (by decide) (by rw [left]; nofun)

end Session
end AccessPortal
