import AccessPortal.Proofs.Http.Wire
import AccessPortal.Proofs.Session.Reconciled

/-!
# What a session sends

What is sent over the network of a session is what its uses send, one after the other
(`requests_of_uses`): the credentials for a sign-in, the token that the session holds for a
sign-out, and the token that was just read from the cache when it comes back. Nothing else that can
be asked of a session sends anything, whatever the store does and whatever the service answers.
Which texts are addresses, and so what can be sent at all, is a parameter.
-/

namespace AccessPortal

open Http

namespace Session

variable {σ τ : Type}

/-! ## Uses of a session -/

/-- What a session is used for: the calls on it, and what it tells without leaving the portal. -/
inductive Use where
  | call (asked : Call)
  | requireUser
  | checkPermission (permission : Permission)
  | checkAny (permissions : List Permission)
  | checkAll (permissions : List Permission)
  | visibleNavigation (tree : List NavigationItem)

def Use.Reply : Use → Type
  | .call asked => asked.Reply
  | .requireUser => Except AuthError User
  | .checkPermission _ | .checkAny _ | .checkAll _ => Bool
  | .visibleNavigation _ => List NavigationItem

def Use.program (session : Session) : (use : Use) → Program (use.Reply × Session)
  | .call asked => asked.program session
  | .requireUser => return (session.requireUser, session)
  | .checkPermission permission => return (session.checkPermission permission, session)
  | .checkAny permissions => return (session.checkAny permissions, session)
  | .checkAll permissions => return (session.checkAll permissions, session)
  | .visibleNavigation tree => return (session.visibleNavigation tree, session)

def useAll : List (Nat × Use) → (Nat → Session) → Program Unit
  | [], _ => pure ()
  | (n, next) :: uses, sessions => do
    let (_, session) ← next.program (sessions n)
    useAll uses fun m => if m = n then session else sessions m

structure Occasion (σ : Type) where
  use : Use
  session : Session
  state : σ

def occasions (handler : Handler σ) :
    List (Nat × Use) → (Nat → Session) → σ → List (Occasion σ)
  | [], _, _ => []
  | (n, next) :: uses, sessions, state =>
    let ended := (next.program (sessions n)).run handler state
    ⟨next, sessions n, state⟩ ::
      occasions handler uses (fun m => if m = n then ended.1.2 else sessions m) ended.2

/-! ## What is to be sent -/

def ReadsToken (events : List Event) (token : String) : Prop :=
  ∀ reply, .get StorageKey.accessToken reply ∈ events ↔ reply = .ok (some token)

/-- What is sent for a use of a session, where `base` is the address of the service. -/
def Sends (base : String) (handler : Handler σ) (occasion : Occasion σ) (sent : List Request) :
    Prop :=
  match occasion.use with
  | .call (.login credentials) =>
    ∃ body, (Json.read body).bind Credentials.ofJson? = some credentials ∧
      sent = [{ method := .post, url := base ++ "/api/auth/login", authorization := none
                contentType := some "application/json", body }]
  | .call .logout =>
    match occasion.session.accessToken with
    | some token => sent = bearing token { method := .post, url := base ++ "/api/auth/logout" }
    | none => sent = []
  | .call .resume =>
    let restored := occasion.session.restore.run handler.recorded ([], occasion.state)
    (restored.1.1 = false → sent = []) ∧
    (restored.1.1 = true → ∃ token, ReadsToken restored.2.1 token ∧
      sent = bearing token { method := .get, url := base ++ "/api/auth/me" })
  | _ => sent = []

/-! ## The token of a session that came back -/

theorem readsToken_of_load {events : List Event} {cached : CachedSession}
    (performs : CachedSession.load.run.Performs events (.ok (some cached))) (record : Log.Record) :
    ReadsToken (events ++ [.log record]) cached.accessToken := by
  obtain ⟨role, profile, rfl⟩ := CachedSession.performs_load performs
  intro reply
  simp [StorageKey.accessToken, StorageKey.userRole, StorageKey.userProfile,
    StorageKey.refreshToken]

theorem tryRestore_reads {session after : Session} {events : List Event}
    (performs : session.tryRestore.Performs events (.ok true, after)) :
    ∃ token, after.accessToken = some token ∧ ReadsToken events token := by
  obtain ⟨first, rest, loaded, rfl, read, ends⟩ := Program.Performs.of_bind performs
  split at ends
  · rename_i cached
    obtain ⟨_, reported, same⟩ := ends.of_map
    cases Program.performs_operation_iff.mp reported
    cases same
    exact ⟨_, rfl, readsToken_of_load read _⟩
  · obtain ⟨_, -, same⟩ := ends.of_map
    cases same
  · nomatch ends
  · obtain ⟨_, -, same⟩ := ends.of_map
    cases same

theorem restore_reads {session after : Session} {events : List Event}
    (performs : session.restore.Performs events (true, after)) :
    ∃ token, after.accessToken = some token ∧ ReadsToken events token := by
  obtain ⟨first, rest, ⟨result, restored⟩, rfl, tried, ends⟩ := Program.Performs.of_bind performs
  cases result with
  | ok there =>
      cases ends
      rw [List.append_nil]
      exact tryRestore_reads tried
  | error e =>
      obtain ⟨_, -, same⟩ := ends.of_map
      cases same

/-! ## What the calls do to the network -/

section

variable (here : Uplink σ τ) (session : Session) (state : σ)

theorem login_network (credentials : Credentials) :
    here.network ((session.login credentials).run here.handler state).2 =
      (here.client.login here.transport credentials (here.network state)).2 := by
  have asked (s : σ) (same : here.network s = here.network state) :
      here.network (here.handler (.login credentials) s).2 =
        (here.client.login here.transport credentials (here.network state)).2 := by
    rw [← same]
    exact congrArg Prod.snd (here.login credentials s)
  exact (login_upholds here.network_of_upkeep here.network_of_upkeep (persist_network here)
    session asked rfl).outcome

theorem logout_network :
    here.network (session.logout.run here.handler state).2 =
      session.accessToken.elim (here.network state) fun token =>
        (here.client.logout here.transport token (here.network state)).2 := by
  cases held : session.accessToken with
  | none => exact ((logout_of_none here.network_of_upkeep held).ends rfl).outcome
  | some token =>
      have told : here.network (here.handler (.logout token) state).2 =
          (here.client.logout here.transport token (here.network state)).2 :=
        congrArg Prod.snd (here.logout token state)
      exact (logout_of_some here.network_of_upkeep held told).outcome

theorem restore_network :
    here.network (session.restore.run here.handler state).2 = here.network state :=
  ((restore_preserves here.network_of_upkeep session).ends rfl).outcome

theorem resume_network {token : String}
    (back : (session.restore.run here.handler state).1.1 = true)
    (held : (session.restore.run here.handler state).1.2.accessToken = some token) :
    here.network (session.resume.run here.handler state).2 =
      (here.client.currentUser here.transport token (here.network state)).2 := by
  have asked := congrArg Prod.snd
    (here.currentUser token (session.restore.run here.handler state).2)
  rw [restore_network] at asked
  rw [resume_of_token back held]
  exact ((reconcile_network here _ _ _).ends asked).outcome

end

/-! ## The run -/

section

variable {readable : String → Bool} {transport : Transport τ}
  {here : Uplink σ (List Request × τ)} (wired : here.transport = onWire readable transport)
  {base : String} (address : here.client.Addresses readable base)
include wired address

theorem login_sends (session : Session) (credentials : Credentials) (state : σ) :
    ∃ sent, (here.network ((session.login credentials).run here.handler state).2).1 =
        (here.network state).1 ++ sent ∧
      Sends base here.handler ⟨.call (.login credentials), session, state⟩ sent := by
  refine ⟨_, ?_, _, Credentials.lossless.parse_write credentials, rfl⟩
  rw [login_network, wired]
  exact Client.login_sends address transport credentials _

theorem logout_sends (session : Session) (state : σ) :
    ∃ sent, (here.network (session.logout.run here.handler state).2).1 =
        (here.network state).1 ++ sent ∧
      Sends base here.handler ⟨.call .logout, session, state⟩ sent := by
  rw [logout_network, wired]
  cases held : session.accessToken with
  | none => exact ⟨[], (List.append_nil _).symm, by simp only [Sends, held]⟩
  | some token =>
      exact ⟨_, Client.logout_sends address transport token _, by simp only [Sends, held]⟩

theorem resume_sends (session : Session) (state : σ) :
    ∃ sent, (here.network (session.resume.run here.handler state).2).1 =
        (here.network state).1 ++ sent ∧
      Sends base here.handler ⟨.call .resume, session, state⟩ sent := by
  let restored := session.restore.run (Handler.recorded here.handler) ([], state)
  have same : restored.1 = (session.restore.run here.handler state).1 :=
    (session.restore.run_recorded here.handler [] state).1
  cases back : restored.1.1 with
  | false =>
      have nothing := resume_of_nothing ((congrArg Prod.fst same).symm.trans back)
      refine ⟨[], ?_, fun _ => rfl, fun there => absurd (back.symm.trans there) nofun⟩
      rw [nothing, restore_network, List.append_nil]
  | true =>
      obtain ⟨events, recorded, performs⟩ :=
        session.restore.recorded_performs here.handler [] state
      have past : restored.2.1 = events := recorded
      have ended : restored.1 = (true, restored.1.2) := Prod.ext back rfl
      have comesBack : session.restore.Performs restored.2.1 (true, restored.1.2) := by
        rw [past, ← ended]
        exact performs
      obtain ⟨token, held, reads⟩ := restore_reads comesBack
      refine ⟨_, ?_, fun gone => absurd (back.symm.trans gone) nofun,
        fun _ => ⟨token, reads, rfl⟩⟩
      rw [same] at back held
      rw [resume_network here session state back held, wired]
      exact Client.currentUser_sends address transport token _

/-- One use of a session adds to what was sent what is to be sent for it. -/
theorem use_sends (use : Use) (session : Session) (state : σ) :
    ∃ sent, (here.network ((use.program session).run here.handler state).2).1 =
        (here.network state).1 ++ sent ∧
      Sends base here.handler ⟨use, session, state⟩ sent := by
  have silent {α : Type} {program : Program α}
      (quiet : program.Preserves here.handler fun s => here.network s = here.network state) :
      (here.network (program.run here.handler state).2).1 = (here.network state).1 ++ [] := by
    rw [(quiet.ends rfl).outcome, List.append_nil]
  cases use with
  | call asked =>
      cases asked with
      | login credentials => exact login_sends wired address session credentials state
      | logout =>
          obtain ⟨sent, now, sends⟩ := logout_sends wired address session state
          have ended := Program.run_bind here.handler session.logout
            (fun session => pure ((), session)) state
          exact ⟨sent, (congrArg (fun ended => (here.network ended.2).1) ended).trans now, sends⟩
      | expire =>
          exact ⟨[], silent (.bind (expire_preserves here.network_of_upkeep session)
            fun _ => .pure _), rfl⟩
      | observe error =>
          exact ⟨[], silent (observe_preserves here.network_of_upkeep session error), rfl⟩
      | tryRestore =>
          exact ⟨[], silent (tryRestore_preserves here.network_of_upkeep session), rfl⟩
      | restore => exact ⟨[], silent (restore_preserves here.network_of_upkeep session), rfl⟩
      | resume => exact resume_sends wired address session state
  | _ => exact ⟨[], (List.append_nil _).symm, rfl⟩

/--
What is sent in a run is what its uses send, in their order: the credentials once for each sign-in,
without a token; the token of the session once for each sign-out that has one; the token just read
from the cache once for each attempt to come back that found a session there; and nothing for any
other use. This holds whatever the store and the service answer.
-/
theorem requests_of_uses (uses : List (Nat × Use)) (sessions : Nat → Session) (start : σ) :
    ∃ sent : List (List Request),
      (here.network ((useAll uses sessions).run here.handler start).2).1 =
        (here.network start).1 ++ sent.flatten ∧
      List.Forall₂ (Sends base here.handler) (occasions here.handler uses sessions start) sent := by
  induction uses generalizing sessions start with
  | nil => exact ⟨[], (List.append_nil _).symm, .nil⟩
  | cons next uses ih =>
      obtain ⟨n, next⟩ := next
      obtain ⟨first, now, sends⟩ := use_sends wired address next (sessions n) start
      let ended := (next.program (sessions n)).run here.handler start
      obtain ⟨rest, later, each⟩ :=
        ih (fun m => if m = n then ended.1.2 else sessions m) ended.2
      refine ⟨first :: rest, ?_, .cons sends each⟩
      rw [useAll, Program.run_bind, later, now, List.flatten_cons, List.append_assoc]

end

/-- Someone signs in, comes back elsewhere and signs out again. -/
theorem requests_of_uses_round :
    let profile : Profile := ⟨"u-1", "manager", "Ada", "ada@example.org", ""⟩
    let responses : List Response :=
      [⟨200, (Grant.mk "t-1" none profile).toJson.write⟩, ⟨200, profile.toJson.write⟩, ⟨200, ""⟩]
    let base := "http://auth.example:8080"
    let here := Uplink.beside ⟨base ++ "//"⟩ (onWire Settings.hasProtocol inOrder) (Plan.handle {})
    let start : Plan.World × List Request × List Response := ({}, [], responses)
    let uses : List (Nat × Use) :=
      [(0, .call (.login ⟨"ada", "\"pw"⟩)), (0, .requireUser), (1, .call .resume),
        (0, .call .logout)]
    let ended := ((useAll uses fun _ => {}).run here.handler start).2
    here.transport = onWire Settings.hasProtocol inOrder ∧
      here.client.Addresses Settings.hasProtocol base ∧
      (∃ sent : List (List Request), (here.network ended).1 = [] ++ sent.flatten ∧
        List.Forall₂ (Sends base here.handler)
          (occasions here.handler uses (fun _ => {}) start) sent) ∧
      (here.network ended).1.map (fun request =>
          (request.method, request.url, request.authorization)) =
        [(.post, base ++ "/api/auth/login", none),
          (.get, base ++ "/api/auth/me", some "Bearer t-1"),
          (.post, base ++ "/api/auth/logout", some "Bearer t-1")] := by
  intro profile responses base here start uses
  dsimp only
  have address : here.client.Addresses Settings.hasProtocol base :=
    ⟨⟨2, rfl⟩, by decide +kernel, by decide +kernel⟩
  exact ⟨rfl, address, requests_of_uses rfl address uses (fun _ => {}) start, by decide +kernel⟩

end Session
end AccessPortal
