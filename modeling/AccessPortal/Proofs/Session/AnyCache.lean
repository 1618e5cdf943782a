import AccessPortal.Proofs.Session.BesideForms
import AccessPortal.Proofs.Session.SignIn

/-!
# Taking a session from any cache

The store may hold any texts under the keys of the session, and reading or removing any of them may
fail. What is made of that depends on the contents and on the first failure to read alone
(`CachedSession.taken_settles`): a session is found only if all of it is there and agrees
(`CachedSession.ofContents_cases`). A cache that cannot be read is left alone, and one that is read
and is no session is cleared as far as the store allows (`Session.tryRestore_settles`).
-/

namespace AccessPortal

/-- To write down what happens does not change what can be read. -/
theorem Handler.readFault?_recorded {σ : Type} (handler : Handler σ) (keys : List String)
    (moment : List Event × σ) :
    readFault? (recorded handler) keys moment = handler.readFault? keys moment.2 := by
  induction keys generalizing moment with
  | nil => rfl
  | cons key keys ih =>
      simp only [readFault?, ih]
      rfl

/-- Puts a value in the store or takes one away, or tries to. -/
def Event.Writes : Event → Prop
  | .set _ _ _ | .remove _ _ => True
  | _ => False

theorem Contents.after_of_not_writes (contents : Contents) {event : Event}
    (reads : ¬ event.Writes) : contents.after event = contents := by
  cases event with
  | set | remove => exact absurd trivial reads
  | _ => rfl

theorem Contents.after_beside (contents : Contents) {event : Event} {keys : List String}
    {outside : Prop} (within : event.Within keys outside) {key : String} (foreign : key ∉ keys) :
    contents.after event key = contents key := by
  cases event with
  | set own value reply =>
      cases reply with
      | ok _ => exact Function.update_of_ne (ne_of_mem_of_not_mem within foreign).symm _ _
      | error e => rfl
  | remove own reply =>
      cases reply with
      | ok _ => exact Function.update_of_ne (ne_of_mem_of_not_mem within foreign).symm _ _
      | error e => rfl
  | _ => rfl

/-- What keeps to some keys leaves the others as they are. -/
theorem Faithful.beside {σ α : Type} {handler : Handler σ} {contents : σ → Contents}
    (faithful : Faithful handler contents) {keys : List String} {outside : Prop}
    {program : Program α} (confined : program.Confined (Event.Within keys outside)) {key : String}
    (foreign : key ∉ keys) (start : σ) :
    contents (program.run handler start).2 key = contents start key := by
  have step {β : Type} (operation : Operation β) (s : σ)
      (same : contents s key = contents start key)
      (within : (operation.event (handler operation s).1).Within keys outside) :
      contents (handler operation s).2 key = contents start key := by
    rw [faithful.after operation s, Contents.after_beside _ within foreign, same]
  exact confined.keeps step rfl

theorem CacheError.code_storage_ne (cause : StorageError) :
    (CacheError.storage cause).code ≠ .storageCorrupted := by
  cases cause <;> nofun

def StoredProfile.userAs (stored : StoredProfile) (role : Role) : User :=
  ⟨stored.user.id, stored.user.name, stored.user.email, stored.user.department, role⟩

namespace CachedSession

/-! ## Contents that are a session -/

structure Agree (id text : String) (stored : StoredProfile) (role : Role) : Prop where
  known : Role.ofId? id = some role
  parsed : StoredProfile.parse text = some stored
  same : Role.ofId? stored.user.role = some role

/-- The contents are a session: a token, a role and a profile that agree, and a refresh token or
none. -/
inductive Shows (contents : Contents) : CachedSession → Prop where
  | session {token id text : String} {stored : StoredProfile} {role : Role}
      (atToken : contents StorageKey.accessToken = some token) (usable : token ≠ "")
      (atRole : contents StorageKey.userRole = some id)
      (atProfile : contents StorageKey.userProfile = some text)
      (agree : Agree id text stored role) :
      Shows contents ⟨token, contents StorageKey.refreshToken, stored.userAs role,
        stored.loggedInAt⟩

def Absent (contents : Contents) : Prop :=
  ∀ key ∈ neededKeys, contents key = none

theorem Shows.not_absent {contents : Contents} {cached : CachedSession}
    (shows : Shows contents cached) : ¬ Absent contents := by
  intro absent
  cases shows with
  | session atToken => cases atToken.symm.trans (absent StorageKey.accessToken (by decide))

theorem Shows.unique {contents : Contents} {cached other : CachedSession}
    (shows : Shows contents cached) (shows' : Shows contents other) : cached = other := by
  obtain ⟨atToken, _, atRole, atProfile, agree⟩ := shows
  obtain ⟨atToken', _, atRole', atProfile', agree'⟩ := shows'
  cases atToken.symm.trans atToken'
  cases atRole.symm.trans atRole'
  cases atProfile.symm.trans atProfile'
  cases agree.known.symm.trans agree'.known
  cases agree.parsed.symm.trans agree'.parsed
  rfl

section

variable {id text : String} {stored : StoredProfile} {role other : Role}

theorem identify_of_unknown (unknown : Role.ofId? id = none) :
    identify id text = .error (.unknownRole ⟨id⟩) := by
  simp [identify, Role.parse, unknown, Except.mapError, bind, Except.bind]

theorem identify_of_unreadable (known : Role.ofId? id = some role)
    (unreadable : StoredProfile.parse text = none) : identify id text = .error .corrupt := by
  simp [identify, Role.parse, known, unreadable, Except.mapError, bind, Except.bind]

theorem identify_of_stranger (known : Role.ofId? id = some role)
    (parsed : StoredProfile.parse text = some stored)
    (unknown : Role.ofId? stored.user.role = none) :
    identify id text = .error (.unknownRole ⟨stored.user.role⟩) := by
  simp [identify, Role.parse, known, parsed, User.ofProfile_of_unknown unknown, Except.mapError,
    bind, Except.bind]

theorem identify_of_known (known : Role.ofId? id = some role)
    (parsed : StoredProfile.parse text = some stored)
    (named : Role.ofId? stored.user.role = some other) :
    identify id text = if other = role then .ok (stored.userAs other, stored.loggedInAt)
      else .error (.roleMismatch role other) := by
  simp [identify, Role.parse, known, parsed, User.ofProfile_of_known named, StoredProfile.userAs,
    Except.mapError, bind, Except.bind, pure, Except.pure]

/-- What a known role and a profile that can be read agree on is the role that the profile names. -/
theorem Agree.named {profile : StoredProfile} (known : Role.ofId? id = some role)
    (parsed : StoredProfile.parse text = some stored) (agree : Agree id text profile other) :
    Role.ofId? stored.user.role = some role := by
  cases parsed.symm.trans agree.parsed
  cases known.symm.trans agree.known
  exact agree.same

end

/-- A role and a profile that do not agree are a sign of corruption. -/
theorem identify_cases (id text : String) :
    (∃ stored role, Agree id text stored role ∧
      identify id text = .ok (stored.userAs role, stored.loggedInAt)) ∨
    (∀ stored role, ¬ Agree id text stored role) ∧
      ∃ e, identify id text = .error e ∧ e.code = .storageCorrupted := by
  cases known : Role.ofId? id with
  | none =>
      refine .inr ⟨fun _ _ agree => ?_, _, identify_of_unknown known, rfl⟩
      cases known.symm.trans agree.known
  | some role =>
      cases parsed : StoredProfile.parse text with
      | none =>
          refine .inr ⟨fun _ _ agree => ?_, _, identify_of_unreadable known parsed, rfl⟩
          cases parsed.symm.trans agree.parsed
      | some stored =>
          cases named : Role.ofId? stored.user.role with
          | none =>
              refine .inr ⟨fun _ _ agree => ?_, _, identify_of_stranger known parsed named, rfl⟩
              cases named.symm.trans (agree.named known parsed)
          | some other =>
              have settled := identify_of_known known parsed named
              by_cases same : other = role
              · rw [if_pos same] at settled
                exact .inl ⟨stored, other, ⟨same ▸ known, parsed, named⟩, settled⟩
              · rw [if_neg same] at settled
                refine .inr ⟨fun _ _ agree => same ?_, _, settled, rfl⟩
                exact Option.some.inj (named.symm.trans (agree.named known parsed))

/-- The contents of a store are nothing, or a session, or a sign of corruption. -/
theorem ofContents_cases (contents : Contents) :
    Absent contents ∧ ofContents contents = .ok none ∨
    (∃ cached, Shows contents cached ∧ ofContents contents = .ok (some cached)) ∨
    ¬ Absent contents ∧ (∀ cached, ¬ Shows contents cached) ∧
      ∃ e, ofContents contents = .error e ∧ e.code = .storageCorrupted := by
  have absent : Absent contents ↔ contents StorageKey.accessToken = none ∧
      contents StorageKey.userRole = none ∧ contents StorageKey.userProfile = none := by
    simp [Absent, neededKeys]
  rw [absent]
  unfold ofContents
  split
  · rename_i atToken atRole atProfile
    exact .inl ⟨⟨atToken, atRole, atProfile⟩, rfl⟩
  · rename_i token id text atToken atRole atProfile
    have there : ¬ (contents StorageKey.accessToken = none ∧ contents StorageKey.userRole = none ∧
        contents StorageKey.userProfile = none) := by
      simp [atToken]
    by_cases empty : token.isEmpty = true
    · rw [if_pos empty]
      refine .inr (.inr ⟨there, fun _ shows => ?_, _, rfl, rfl⟩)
      obtain ⟨atToken', usable, -, -, -⟩ := shows
      cases atToken.symm.trans atToken'
      exact usable (String.isEmpty_iff.mp empty)
    · rw [if_neg empty]
      have usable : token ≠ "" := fun same => empty (String.isEmpty_iff.mpr same)
      obtain ⟨stored, role, agree, found⟩ | ⟨disagree, e, failed, code⟩ := identify_cases id text
      · rw [found]
        exact .inr (.inl ⟨_, .session atToken usable atRole atProfile agree, rfl⟩)
      · rw [failed]
        refine .inr (.inr ⟨there, fun _ shows => ?_, e, rfl, code⟩)
        obtain ⟨-, -, atRole', atProfile', agree⟩ := shows
        cases atRole.symm.trans atRole'
        cases atProfile.symm.trans atProfile'
        exact disagree _ _ agree
  · rename_i notNone notSome
    refine .inr (.inr ⟨fun absent => ?_, fun _ shows => ?_, _, rfl, rfl⟩)
    · exact notNone absent.1 absent.2.1 absent.2.2
    · obtain ⟨atToken, -, atRole, atProfile, -⟩ := shows
      exact notSome _ _ _ atToken atRole atProfile

/-- What is taken from the store, by its contents and the first failures in reading them. -/
theorem taken_settles (contents : Contents) (needed? all? : Option StorageError) :
    let found := taken contents needed? all?
    (∀ e, found = .error (.storage e) ↔
      needed? = some e ∨ needed? = none ∧ (∃ cached, Shows contents cached) ∧ all? = some e) ∧
    (found = .ok none ↔ needed? = none ∧ Absent contents) ∧
    (∀ cached, found = .ok (some cached) ↔
      needed? = none ∧ Shows contents cached ∧ all? = none) ∧
    ((∃ e, found = .error e ∧ e.code = .storageCorrupted) ↔
      needed? = none ∧ ¬ Absent contents ∧ ¬ ∃ cached, Shows contents cached) := by
  intro found
  cases needed? with
  | some e => simp [found, taken, CacheError.code_storage_ne]
  | none =>
      obtain ⟨absent, empty⟩ | ⟨cached, shows, one⟩ | ⟨there, nothing, e, failed, code⟩ :=
        ofContents_cases contents
      · have nothing (cached : CachedSession) : ¬ Shows contents cached :=
          fun shows => shows.not_absent absent
        simp [found, taken, empty, absent, nothing]
      · have only (other : CachedSession) : Shows contents other ↔ cached = other :=
          ⟨shows.unique, fun same => same ▸ shows⟩
        cases all? with
        | none => simp [found, taken, one, shows.not_absent, only]
        | some e => simp [found, taken, one, shows.not_absent, only, CacheError.code_storage_ne]
      · have notStorage (cause : StorageError) : e ≠ .storage cause := by
          rintro rfl
          exact CacheError.code_storage_ne cause code
        simp [found, taken, failed, there, nothing, code, notStorage]

end CachedSession

namespace Session

open CachedSession

variable {σ : Type} {handler : Handler σ} {contents : σ → Contents}

/-! ## Taking the session -/

/-- The store holds what it held before, and nothing was done to change that. -/
def Kept (contents : σ → Contents) (before : Contents) (moment : List Event × σ) : Prop :=
  contents moment.2 = before ∧ ∀ event ∈ moment.1, ¬ event.Writes

theorem kept_step (faithful : Faithful handler contents) {before : Contents} {β : Type}
    {operation : Operation β} (reads : ∀ reply, ¬ (operation.event reply).Writes)
    (moment : List Event × σ) (kept : Kept contents before moment) :
    Kept contents before (handler.recorded operation moment).2 := by
  obtain ⟨same, quiet⟩ := kept
  refine ⟨?_, own_recorded handler reads moment quiet⟩
  refine (faithful.after operation moment.2).trans ?_
  rw [Contents.after_of_not_writes _ (reads _), same]

theorem stable_kept (faithful : Faithful handler contents) (before : Contents) :
    Stable handler.recorded (Kept contents before) := by
  refine ⟨fun {_} {operation} outside => kept_step faithful fun reply => ?_⟩
  cases operation with
  | get | set | remove => exact outside.elim
  | _ => exact id

/-- A session is taken from the cache as it is found there. The cache is cleared on a sign of
corruption, and is only read otherwise. -/
theorem tryRestore_taken (faithful : Faithful handler contents) {kept swept : σ → Prop}
    (reads : ∀ key state, kept state → kept (handler (.get key) state).2)
    (stable : Stable handler kept)
    (clears : ∀ state, clearCache.Ends handler (fun _ => swept) state) (session : Session)
    {start : σ} (before : kept start) :
    let found := taken (contents start) (handler.readFault? neededKeys start)
      (handler.readFault? readKeys start)
    let corrupted := ∃ e, found = .error e ∧ e.code = .storageCorrupted
    session.tryRestore.Ends handler
      (fun ended next => ended = (found.map (·.isSome), session.resumed found) ∧
        (corrupted → swept next) ∧ (¬ corrupted → kept next))
      start := by
  intro found corrupted
  have stays (reply : Except CacheError (Option CachedSession)) :
      Stable handler fun s => reply = found ∧ kept s :=
    ⟨fun outside s kept => ⟨kept.1, stable.keeps outside s kept.2⟩⟩
  refine (tryRestore_ends (load_taken faithful.undisturbed reads before) stays clears
    session).imp fun ended next ends => ?_
  obtain ⟨reply, _, ⟨same, -⟩, rfl, left⟩ := ends
  have same : found = reply := same.symm
  refine ⟨by rw [same], ?_⟩
  rcases reply with e | answer
  · have signs : corrupted ↔ e.code = .storageCorrupted := by
      simp [corrupted, same]
    rw [signs]
    cases e with
    | storage cause =>
        exact ⟨fun code => absurd code (CacheError.code_storage_ne cause), fun _ => left.2⟩
    | _ => exact ⟨fun _ => left, fun fine => absurd rfl fine⟩
  · have noSigns : ¬ corrupted := by
      simp [corrupted, same]
    exact ⟨fun signs => absurd signs noSigns, fun _ => left.2⟩

/--
What becomes of any cache, over any store that changes by successful writes only and whatever lets
it down. The failure to read a key that is needed comes first, and that of the refresh token last of
all; in between, nothing at all is no session, a session is taken, and anything else is a sign of
corruption. Only on such a sign is anything done to the store: each key of the session is gone then
unless it could not be removed. Without a session in the cache there is none in memory.
-/
theorem tryRestore_settles (faithful : Faithful handler contents) (session : Session) (start : σ) :
    let needed? := handler.readFault? neededKeys start
    let all? := handler.readFault? readKeys start
    let ended := session.tryRestore.run handler.recorded ([], start)
    let result := ended.1.1
    (∀ e, result = .error (.storage e) ↔ needed? = some e ∨
      needed? = none ∧ (∃ cached, Shows (contents start) cached) ∧ all? = some e) ∧
    (result = .ok false ↔ needed? = none ∧ Absent (contents start)) ∧
    (result = .ok true ↔
      needed? = none ∧ (∃ cached, Shows (contents start) cached) ∧ all? = none) ∧
    ((∃ e, result = .error e ∧ e.code = .storageCorrupted) ↔ needed? = none ∧
      ¬ Absent (contents start) ∧ ¬ ∃ cached, Shows (contents start) cached) ∧
    ((∃ restored, result = .ok restored) ∨ (∃ e, result = .error (.storage e)) →
      contents ended.2.2 = contents start ∧ ∀ event ∈ ended.2.1, ¬ event.Writes) ∧
    ((∃ e, result = .error e ∧ e.code = .storageCorrupted) →
      ∀ key ∈ StorageKey.sessionKeys, contents ended.2.2 key ≠ none →
        ∃ e, .remove key (.error e) ∈ ended.2.1) ∧
    (∀ event ∈ ended.2.1, Side.sessions.Owns event) ∧
    (∀ key ∉ StorageKey.sessionKeys, contents ended.2.2 key = contents start key) ∧
    (∀ cached, result = .ok true → Shows (contents start) cached →
      ended.1.2 = session.holding cached) ∧
    (result ≠ .ok true → ended.1.2 = session.cleared) := by
  intro needed? all? ended result
  have nothingYet : Kept contents (contents start) (([], start) : List Event × σ) := ⟨rfl, nofun⟩
  have run := (tryRestore_taken faithful.recorded
    (fun key => kept_step faithful fun _ => id) (stable_kept faithful (contents start))
    (fun moment => clearKeys_swept faithful.undisturbed (fun _ own => own) moment) session
    nothingYet).outcome
  simp only [Handler.readFault?_recorded] at run
  obtain ⟨unread, nothing, one, signs⟩ := taken_settles (contents start) needed? all?
  -- From here on, all that matters of what was found are these four ways in which it can end.
  generalize taken (contents start) needed? all? = found at run unread nothing one signs
  obtain ⟨answers, swept, kept⟩ := run
  have told : result = found.map (·.isSome) := congrArg Prod.fst answers
  have memory : ended.1.2 = session.resumed found := congrArg Prod.snd answers
  have failed (e : CacheError) : result = .error e ↔ found = .error e := by
    rw [told]
    cases found <;> simp [Except.map]
  have empty : result = .ok false ↔ found = .ok none := by
    rw [told]
    cases found <;> simp [Except.map]
  have restored : result = .ok true ↔ ∃ cached, found = .ok (some cached) := by
    rw [told]
    cases found <;> simp [Except.map, Option.isSome_iff_exists]
  have before : ∀ event ∈ (([], start) : List Event × σ).1, Side.sessions.Owns event := nofun
  have own := ((Call.confined .tryRestore session handler).ends before).outcome
  refine ⟨fun e => (failed _).trans (unread e), empty.trans nothing, ?_, ?_, fun fine => ?_,
    fun corrupted key mem left => ?_, own, fun key foreign => ?_, fun cached there shows => ?_,
    fun notThere => ?_⟩
  · simp only [restored, one, exists_and_left, exists_and_right]
  · simp only [failed, signs]
  · have noSigns : ¬ ∃ e, found = .error e ∧ e.code = .storageCorrupted := by
      rintro ⟨e, error, code⟩
      have error := (failed e).mpr error
      obtain ⟨answer, ok⟩ | ⟨cause, storage⟩ := fine
      · cases error.symm.trans ok
      · cases error.symm.trans storage
        exact CacheError.code_storage_ne cause code
    exact kept noSigns
  · simp only [failed] at corrupted
    exact (swept corrupted key mem).resolve_left left
  · have noted := (session.tryRestore.run_recorded handler [] start).2
    have same : ended.2.2 = (session.tryRestore.run handler start).2 := noted
    rw [same]
    exact faithful.beside (Call.confined .tryRestore session) foreign start
  · obtain ⟨other, same⟩ := restored.mp there
    obtain ⟨-, shows', -⟩ := (one other).mp same
    rw [same, shows'.unique shows] at memory
    exact memory
  · cases found with
    | error e => exact memory
    | ok answer =>
        cases answer with
        | none => exact memory
        | some cached => exact absurd told notThere

/-- A role that is not the one of the profile, and a refresh token that cannot be removed; and then
a cache in which everything is in order, with a session before it that is dropped. -/
theorem tryRestore_settles_mismatch_and_match :
    let plan : Plan :=
      { fault? := fun k => if k = 4 then some (.writeRejected "denied") else none }
    let cached : CachedSession :=
      ⟨"token", some "refresh", ⟨"u-1", "Ada", "ada@example.org", "", .auditor⟩, 6⟩
    let start : Plan.World := ⟨(StorageKey.userRole, "manager") :: cached.entries
      ++ [(StorageKey.formConfigurations, "[]")], 0⟩
    let stored : Plan.World := ⟨cached.entries, 0⟩
    let former : Session := holding {} { cached with accessToken := "old", refreshToken := none }
    let ended := (tryRestore (holding {} cached)).run (Handler.recorded (@Plan.handle plan))
      ([], start)
    let matched := former.tryRestore.run (Handler.recorded (@Plan.handle {})) ([], stored)
    (∃ e, ended.1.1 = .error e ∧ e.code = .storageCorrupted) ∧ ended.1.2.currentUser = none ∧
      ended.1.2.accessToken = none ∧
      (∃ e, .remove StorageKey.refreshToken (.error e) ∈ ended.2.1) ∧
      ended.2.2.contents StorageKey.formConfigurations = some "[]" ∧
      matched.1.1 = .ok true ∧ matched.1.2 = former.holding cached ∧
      matched.2.2.contents = stored.contents := by
  intro plan cached start stored former
  have needed : Handler.readFault? plan.handle neededKeys start = none := by
    decide +kernel
  have atToken : start.contents StorageKey.accessToken = some "token" := rfl
  have atRole : start.contents StorageKey.userRole = some "manager" := rfl
  have atProfile : start.contents StorageKey.userProfile =
      some (StoredProfile.toText ⟨cached.user.toProfile, 6⟩) := rfl
  have absent : ¬ Absent start.contents := by
    intro absent
    cases atToken.symm.trans (absent StorageKey.accessToken (by decide))
  have shown : ¬ ∃ cached, Shows start.contents cached := by
    rintro ⟨_, -, -, atRole', atProfile', agree⟩
    cases atRole.symm.trans atRole'
    cases atProfile.symm.trans atProfile'
    cases (StoredProfile.lossless.parse_write _).symm.trans agree.parsed
    have manager : Role.ofId? "manager" = some .manager := rfl
    have auditor : Role.ofId? "auditor" = some .auditor := rfl
    cases manager.symm.trans agree.known
    cases auditor.symm.trans agree.same
  have beside : start.contents StorageKey.formConfigurations = some "[]" := rfl
  have readable : Handler.readFault? (Plan.handle {}) readKeys stored = none := by
    decide +kernel
  have neededReadable : Handler.readFault? (Plan.handle {}) neededKeys stored = none := by
    decide +kernel
  have shows : Shows stored.contents cached :=
    @Shows.session stored.contents "token" "auditor" _ ⟨cached.user.toProfile, 6⟩ .auditor rfl
      (by decide) rfl rfl ⟨rfl, StoredProfile.lossless.parse_write _, rfl⟩
  obtain ⟨-, -, -, corrupted, -, swept, -, others, -, cleared⟩ :=
    tryRestore_settles plan.faithful (holding {} cached) start
  have signs := corrupted.mpr ⟨needed, absent, shown⟩
  have memory := cleared fun there => by
    obtain ⟨e, failed, -⟩ := signs
    cases failed.symm.trans there
  obtain ⟨-, -, taken, -, untouched, -, -, -, taking, -⟩ :=
    tryRestore_settles (Plan.faithful {}) former stored
  have there := taken.mpr ⟨neededReadable, ⟨cached, shows⟩, readable⟩
  refine ⟨signs, congrArg currentUser memory, congrArg accessToken memory, ?_, ?_,
    there, taking cached there shows, (untouched (.inl ⟨true, there⟩)).1⟩
  · exact swept signs StorageKey.refreshToken (by decide) (by decide +kernel)
  · exact (others StorageKey.formConfigurations (by decide)).trans beside

end Session
end AccessPortal
