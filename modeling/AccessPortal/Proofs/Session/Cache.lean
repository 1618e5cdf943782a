import AccessPortal.Proofs.Json.Records
import AccessPortal.Proofs.Storage.Contents
import AccessPortal.Session.Cache

/-!
# What is in the session cache

A cached session is a few entries of the store (`CachedSession.entries`). Writing the cache is
removing all keys of the session and then putting the entries in their order, the access token last
(`persist_eq`), and so one knows the events of a call that got through (`performs_persist_iff`).
Reading the cache depends on the contents of the store alone (`ofContents`), or on the first failure
where reading fails (`load_taken`); what it finds where a session was written is that session
(`ofContents_of_storedIn`).
-/

namespace AccessPortal

/-- The first failure when keys are read one after the other. -/
def Handler.readFault? {σ : Type} (handler : Handler σ) : List String → σ → Option StorageError
  | [], _ => none
  | key :: keys, state =>
    match (handler (.get key) state).1 with
    | .error e => some e
    | .ok _ => handler.readFault? keys (handler (.get key) state).2

theorem Handler.readFault?_eq_some {σ : Type} {handler : Handler σ} {keys : List String} {state : σ}
    {e : StorageError} (failed : handler.readFault? keys state = some e) :
    ∃ key ∈ keys, ∃ s, (handler (.get key) s).1 = .error e := by
  induction keys generalizing state with
  | nil => cases failed
  | cons key keys ih =>
      unfold readFault? at failed
      cases reply : (handler (.get key) state).1 with
      | error e' =>
          rw [reply] at failed
          cases failed
          exact ⟨key, List.mem_cons_self, state, reply⟩
      | ok value =>
          rw [reply] at failed
          obtain ⟨later, mem, s, unread⟩ := ih failed
          exact ⟨later, List.mem_cons_of_mem key mem, s, unread⟩

namespace CachedSession

/-- What is stored of a session beside its access token, in the order in which it is written. -/
def details (cached : CachedSession) : Table String :=
  [(StorageKey.userProfile, StoredProfile.toText ⟨cached.user.toProfile, cached.loggedInAt⟩),
   (StorageKey.userRole, cached.user.role.id)]
  ++ (cached.refreshToken.map (StorageKey.refreshToken, ·)).toList

def entries (cached : CachedSession) : Table String :=
  cached.details ++ [(StorageKey.accessToken, cached.accessToken)]

/-- The store holds of the session keys what is stored of a session, and nothing else. -/
def StoredIn (cached : CachedSession) (contents : Contents) : Prop :=
  ∀ key ∈ StorageKey.sessionKeys, contents key = cached.entries.find? key

/-- Puts entries one after the other, up to the first that cannot be put. -/
def putAll : Table String → ExceptT StorageError Program Unit
  | [] => pure ()
  | (key, value) :: rest => do
    ExceptT.mk (Store.set key value)
    putAll rest

theorem persist_eq (cached : CachedSession) :
    cached.persist = (do
      removeKeys StorageKey.sessionKeys
      putAll cached.details
      ExceptT.mk (Store.set StorageKey.accessToken cached.accessToken)) := by
  unfold persist details
  cases cached.refreshToken <;> simp [putAll]

theorem find?_accessToken (cached : CachedSession) :
    cached.entries.find? StorageKey.accessToken = some cached.accessToken := by
  unfold entries details
  cases cached.refreshToken <;> rfl

theorem find?_refreshToken (cached : CachedSession) :
    cached.entries.find? StorageKey.refreshToken = cached.refreshToken := by
  unfold entries details
  cases cached.refreshToken <;> rfl

theorem find?_userRole (cached : CachedSession) :
    cached.entries.find? StorageKey.userRole = some cached.user.role.id :=
  rfl

theorem find?_userProfile (cached : CachedSession) :
    cached.entries.find? StorageKey.userProfile =
      some (StoredProfile.toText ⟨cached.user.toProfile, cached.loggedInAt⟩) :=
  rfl

theorem keys_details (cached : CachedSession) :
    cached.details.map (·.1) = [StorageKey.userProfile, StorageKey.userRole] ∨
      cached.details.map (·.1) =
        [StorageKey.userProfile, StorageKey.userRole, StorageKey.refreshToken] := by
  unfold details
  cases cached.refreshToken with
  | none => exact .inl rfl
  | some token => exact .inr rfl

theorem nodup_details (cached : CachedSession) : (cached.details.map (·.1)).Nodup := by
  rcases cached.keys_details with keys | keys <;> rw [keys] <;> decide

theorem token_not_mem_details (cached : CachedSession) :
    StorageKey.accessToken ∉ cached.details.map (·.1) := by
  rcases cached.keys_details with keys | keys <;> rw [keys] <;> decide

theorem isValid_of_mem_details (cached : CachedSession) :
    ∀ key ∈ cached.details.map (·.1), StorageKey.isValid key := by
  rcases cached.keys_details with keys | keys <;> rw [keys] <;> decide

/-- Where no key of the session was left, putting all entries stores the session. -/
theorem storedIn_update {cached : CachedSession} {cleared : Contents}
    (absent : ∀ key ∈ StorageKey.sessionKeys, cleared key = none) :
    cached.StoredIn (Function.update (cleared.having cached.details) StorageKey.accessToken
      (some cached.accessToken)) := by
  intro key mem
  by_cases same : key = StorageKey.accessToken
  · rw [same, Function.update_self, find?_accessToken]
  · have other : Table.find? key [(StorageKey.accessToken, cached.accessToken)] = none :=
      Table.find?_eq_none (by simpa using same)
    rw [Function.update_of_ne same, Contents.having, absent key mem, entries, Table.find?_append,
      other]

/-! ## The events of writing the cache -/

def removals (keys : List String) : List Event :=
  keys.map fun key => .remove key (.ok ())

def puts (table : Table String) : List Event :=
  table.map fun entry => .set entry.1 entry.2 (.ok ())

theorem removals_cons (key : String) (keys : List String) :
    removals (key :: keys) = .remove key (.ok ()) :: removals keys :=
  rfl

theorem puts_cons (key value : String) (table : Table String) :
    puts ((key, value) :: table) = .set key value (.ok ()) :: puts table :=
  rfl

theorem puts_append (first second : Table String) :
    puts (first ++ second) = puts first ++ puts second :=
  List.map_append

theorem performs_removeKeys_iff {keys : List String} {events : List Event} {done : Unit} :
    (removeKeys keys).run.Performs events (.ok done) ↔
      events = removals keys := by
  induction keys generalizing events with
  | nil =>
      constructor
      · intro performs
        cases performs
        rfl
      · intro same
        subst same
        exact .done _
  | cons key keys ih =>
      refine Program.performs_exceptBind_operation_iff.trans ?_
      simp only [ih]
      constructor
      · intro h
        obtain ⟨_, _, rfl, rfl⟩ := h
        rfl
      · intro same
        exact ⟨(), _, same, rfl⟩

theorem performs_putAll_iff {table : Table String} {events : List Event} {done : Unit} :
    (putAll table).run.Performs events (.ok done) ↔
      events = puts table := by
  induction table generalizing events with
  | nil =>
      constructor
      · intro performs
        cases performs
        rfl
      · intro same
        subst same
        exact .done _
  | cons entry table ih =>
      refine Program.performs_exceptBind_operation_iff.trans ?_
      simp only [ih]
      constructor
      · intro h
        obtain ⟨_, _, rfl, rfl⟩ := h
        rfl
      · intro same
        exact ⟨(), _, same, rfl⟩

def record (cached : CachedSession) : List Event :=
  removals StorageKey.sessionKeys ++ puts cached.entries

theorem performs_persist_iff {cached : CachedSession} {events : List Event} :
    cached.persist.run.Performs events (.ok ()) ↔ events = cached.record := by
  have last {events : List Event} {reply : Except StorageError Unit} :
      (ExceptT.mk (Store.set StorageKey.accessToken cached.accessToken)).run.Performs events reply ↔
        events = [.set StorageKey.accessToken cached.accessToken reply] :=
    Program.performs_operation_iff
  rw [persist_eq, Program.performs_exceptBind_iff]
  simp only [Program.performs_exceptBind_iff, performs_removeKeys_iff, performs_putAll_iff, last,
    record, entries, puts_append]
  constructor
  · intro h
    obtain ⟨_, _, _, rfl, rfl, _, _, _, rfl, rfl, rfl⟩ := h
    rfl
  · intro same
    subst same
    exact ⟨_, _, (), rfl, rfl, _, _, (), rfl, rfl, rfl⟩

/-! ## Reading the cache -/

def ofContents (contents : Contents) : Except CacheError (Option CachedSession) :=
  match contents StorageKey.accessToken, contents StorageKey.userRole,
    contents StorageKey.userProfile with
  | none, none, none => .ok none
  | some accessToken, some role, some profile =>
    if accessToken.isEmpty then .error .incomplete
    else (identify role profile).map fun (user, loggedInAt) =>
      some ⟨accessToken, contents StorageKey.refreshToken, user, loggedInAt⟩
  | _, _, _ => .error .incomplete

/-- The role and the profile that are stored of a user identify them again. -/
theorem identify_toProfile (user : User) (loggedInAt : Int64) :
    identify user.role.id (StoredProfile.toText ⟨user.toProfile, loggedInAt⟩) =
      .ok (user, loggedInAt) := by
  have role : Role.parse user.role.id = .ok user.role := by
    rw [Role.parse, Role.ofId?_id]
  have profile : StoredProfile.parse (StoredProfile.toText ⟨user.toProfile, loggedInAt⟩) =
      some ⟨user.toProfile, loggedInAt⟩ :=
    StoredProfile.lossless.parse_write _
  have same : User.ofProfile user.toProfile = .ok user := by
    simp only [User.ofProfile, User.toProfile, role]
  simp [identify, role, profile, same, Except.mapError, bind, Except.bind, pure, Except.pure]

/-- What is found where a session was written is that session, if it has a token at all. -/
theorem ofContents_of_storedIn {cached : CachedSession} {contents : Contents}
    (stored : cached.StoredIn contents) :
    ofContents contents =
      if cached.accessToken.isEmpty then .error .incomplete else .ok (some cached) := by
  have token := stored StorageKey.accessToken (by simp [StorageKey.sessionKeys])
  have refresh := stored StorageKey.refreshToken (by simp [StorageKey.sessionKeys])
  have role := stored StorageKey.userRole (by simp [StorageKey.sessionKeys])
  have profile := stored StorageKey.userProfile (by simp [StorageKey.sessionKeys])
  rw [find?_accessToken] at token
  rw [find?_refreshToken] at refresh
  rw [find?_userRole] at role
  rw [find?_userProfile] at profile
  simp only [ofContents, token, role, profile, refresh, identify_toProfile]
  rfl

theorem ofContents_of_absent {contents : Contents}
    (absent : ∀ key ∈ StorageKey.sessionKeys, contents key = none) :
    ofContents contents = .ok none := by
  have token := absent StorageKey.accessToken (by simp [StorageKey.sessionKeys])
  have role := absent StorageKey.userRole (by simp [StorageKey.sessionKeys])
  have profile := absent StorageKey.userProfile (by simp [StorageKey.sessionKeys])
  simp only [ofContents, token, role, profile]

/-- A session that is found consists of what stands under the keys. -/
theorem ofContents_eq_some {cached : CachedSession} {contents : Contents}
    (found : ofContents contents = .ok (some cached)) :
    contents StorageKey.accessToken = some cached.accessToken ∧
      contents StorageKey.refreshToken = cached.refreshToken ∧
      ∃ role profile, contents StorageKey.userRole = some role ∧
        contents StorageKey.userProfile = some profile ∧
        identify role profile = .ok (cached.user, cached.loggedInAt) := by
  unfold ofContents at found
  split at found
  · cases found
  · rename_i token role profile atToken atRole atProfile
    split at found
    · cases found
    · cases identified : identify role profile with
      | error e =>
          rw [identified] at found
          cases found
      | ok known =>
          rw [identified] at found
          cases found
          exact ⟨atToken, rfl, role, profile, atRole, atProfile, identified⟩
  · cases found

theorem performs_readKey_iff {key : String} {events : List Event} {value : Option String} :
    (readKey key).run.Performs events (.ok value) ↔ events = [.get key (.ok value)] := by
  constructor
  · intro performs
    obtain ⟨reply, asked, told⟩ := Program.Performs.of_map performs
    cases reply with
    | error e => cases told
    | ok found =>
        cases told
        exact Program.performs_operation_iff.mp asked
  · intro same
    subst same
    exact .perform (.get key) (.ok value) (.done _)

/-- What happens while a session is found in the cache. -/
theorem performs_load {events : List Event} {cached : CachedSession}
    (performs : load.run.Performs events (.ok (some cached))) :
    ∃ role profile, events =
      [.get StorageKey.accessToken (.ok (some cached.accessToken)),
        .get StorageKey.userRole (.ok (some role)),
        .get StorageKey.userProfile (.ok (some profile)),
        .get StorageKey.refreshToken (.ok cached.refreshToken)] := by
  rw [load, Program.performs_exceptBind_iff] at performs
  obtain ⟨_, _, token, rfl, atToken, performs⟩ := performs
  rw [Program.performs_exceptBind_iff] at performs
  obtain ⟨_, _, role, rfl, atRole, performs⟩ := performs
  rw [Program.performs_exceptBind_iff] at performs
  obtain ⟨_, _, profile, rfl, atProfile, performs⟩ := performs
  rw [performs_readKey_iff] at atToken atRole atProfile
  subst atToken atRole atProfile
  split at performs
  · nomatch performs
  · split at performs
    · nomatch performs
    · rename_i role profile _
      rw [Program.performs_exceptBind_iff] at performs
      obtain ⟨_, _, known, rfl, identified, performs⟩ := performs
      rw [Program.performs_exceptBind_iff] at performs
      obtain ⟨_, _, refresh, rfl, atRefresh, performs⟩ := performs
      rw [performs_readKey_iff] at atRefresh
      subst atRefresh
      generalize identify role profile = outcome at identified
      cases identified
      cases performs
      exact ⟨role, profile, rfl⟩
  · nomatch performs

/-! ## The cache in a store that may fail -/

def neededKeys : List String :=
  [StorageKey.accessToken, StorageKey.userRole, StorageKey.userProfile]

def readKeys : List String :=
  neededKeys ++ [StorageKey.refreshToken]

theorem own_of_needed : ∀ key ∈ neededKeys, key ∈ StorageKey.sessionKeys := by
  decide

/-- What is taken from a store by its contents, and by the first failure in reading the needed keys
and in reading all keys. -/
def taken (contents : Contents) (needed? all? : Option StorageError) :
    Except CacheError (Option CachedSession) :=
  match needed?, ofContents contents, all? with
  | some e, _, _ => .error (.storage e)
  | none, .ok (some _), some e => .error (.storage e)
  | none, found, _ => found

section

variable {σ : Type} {handler : Handler σ} {contents : σ → Contents}

/-- Goes on with what reading a key answers, and stops if that is a failure. -/
theorem readKey_ends {α : Type} {key : String} {state : σ}
    {post : Except CacheError α → σ → Prop} {next : Option String → ExceptT CacheError Program α}
    (failed : ∀ e, (handler (.get key) state).1 = .error e →
      post (.error (.storage e)) (handler (.get key) state).2)
    (rest : ∀ value, (handler (.get key) state).1 = .ok value →
      (next value).run.Ends handler post (handler (.get key) state).2) :
    (readKey key >>= next).run.Ends handler post state := by
  refine .perform trivial ?_
  cases reply : (handler (.get key) state).1 with
  | ok value => exact rest value reply
  | error e => exact .pure (failed e reply)

/-- Goes on with what stands under a key, unless reading it fails. -/
theorem readKey_taken (undisturbed : Undisturbed handler contents) {α : Type} {inv : σ → Prop}
    (reads : ∀ key state, inv state → inv (handler (.get key) state).2) {key : String}
    (own : key ∈ StorageKey.sessionKeys) {start state : σ} (before : inv state)
    (same : ∀ k ∈ StorageKey.sessionKeys, contents state k = contents start k)
    {post : Except CacheError α → σ → Prop} {next : Option String → ExceptT CacheError Program α}
    (failed : ∀ e s, (handler (.get key) state).1 = .error e → inv s → post (.error (.storage e)) s)
    (rest : (handler (.get key) state).1 = .ok (contents start key) →
      inv (handler (.get key) state).2 →
      (∀ k ∈ StorageKey.sessionKeys,
        contents (handler (.get key) state).2 k = contents start k) →
      (next (contents start key)).run.Ends handler post (handler (.get key) state).2) :
    (readKey key >>= next).run.Ends handler post state := by
  refine readKey_ends (fun e unread => failed e _ unread (reads key state before))
    fun value read => ?_
  have there : value = contents start key := by
    have admits := undisturbed.admits key own state
    rw [read] at admits
    exact admits.trans (same key own)
  rw [there] at read ⊢
  refine rest read (reads key state before) fun k mem => ?_
  exact (undisturbed.after (.get key) state k mem).trans (same k mem)

/-- What is taken from the store depends on its contents and on the first failure, and to take it is
to read and no more. -/
theorem load_taken (undisturbed : Undisturbed handler contents) {inv : σ → Prop}
    (reads : ∀ key state, inv state → inv (handler (.get key) state).2) {start : σ}
    (before : inv start) :
    load.run.Ends handler
      (fun result next => result = taken (contents start) (handler.readFault? neededKeys start)
        (handler.readFault? readKeys start) ∧ inv next) start := by
  have read {α : Type} := @readKey_taken σ handler contents undisturbed α inv reads
  refine read (by decide) before (fun _ _ => rfl) (fun e _ unread kept => ⟨?_, kept⟩)
    fun atToken before same => ?_
  · simp [taken, neededKeys, Handler.readFault?, unread]
  refine read (by decide) before same (fun e _ unread kept => ⟨?_, kept⟩)
    fun atRole before same => ?_
  · simp [taken, neededKeys, Handler.readFault?, atToken, unread]
  refine read (by decide) before same (fun e _ unread kept => ⟨?_, kept⟩)
    fun atProfile before same => ?_
  · simp [taken, neededKeys, Handler.readFault?, atToken, atRole, unread]
  have needed : handler.readFault? neededKeys start = none := by
    simp [neededKeys, Handler.readFault?, atToken, atRole, atProfile]
  rw [needed]
  unfold taken ofContents
  generalize contents start StorageKey.accessToken = token
  generalize contents start StorageKey.userRole = role
  generalize contents start StorageKey.userProfile = profile
  rcases token with _ | token <;> rcases role with _ | role <;> rcases profile with _ | profile
  -- The refresh token is read only where the other three make up a session.
  case some.some.some =>
    dsimp only
    by_cases empty : token.isEmpty = true
    · simp only [if_pos empty]
      exact .pure ⟨rfl, before⟩
    · simp only [if_neg empty]
      cases identify role profile with
      | error e => exact .pure ⟨rfl, before⟩
      | ok known =>
          refine read (by decide) before same (fun e _ unread kept => ⟨?_, kept⟩)
            fun atRefresh before _ => .pure ⟨?_, before⟩
          · have failed : handler.readFault? readKeys start = some e := by
              simp [readKeys, neededKeys, Handler.readFault?, atToken, atRole, atProfile, unread]
            rw [failed]
            rfl
          · have done : handler.readFault? readKeys start = none := by
              simp [readKeys, neededKeys, Handler.readFault?, atToken, atRole, atProfile, atRefresh]
            rw [done]
            rfl
  all_goals exact .pure ⟨rfl, before⟩

/-- Loading finds what the contents stand for and changes nothing, unless reading a key fails. -/
theorem load_reads (undisturbed : Undisturbed handler contents) (state : σ) :
    load.run.Ends handler
      (fun result next =>
        (result = ofContents (contents state) ∧
          ∀ key ∈ StorageKey.sessionKeys, contents next key = contents state key) ∨
        ∃ key ∈ StorageKey.sessionKeys, ∃ s e, (handler (.get key) s).1 = .error e ∧
          result = .error (.storage e))
      state := by
  have keeps (key : String) (s : σ)
      (same : ∀ k ∈ StorageKey.sessionKeys, contents s k = contents state k) :
      ∀ k ∈ StorageKey.sessionKeys, contents (handler (.get key) s).2 k = contents state k :=
    fun k mem => (undisturbed.after (.get key) s k mem).trans (same k mem)
  refine (load_taken undisturbed keeps fun _ _ => rfl).imp
    fun result next ends => ?_
  obtain ⟨rfl, same⟩ := ends
  have own : ∀ key ∈ readKeys, key ∈ StorageKey.sessionKeys := by decide
  unfold taken
  split
  · rename_i failed
    obtain ⟨key, mem, s, unread⟩ := Handler.readFault?_eq_some failed
    exact .inr ⟨key, own_of_needed key mem, s, _, unread, rfl⟩
  · rename_i failed
    obtain ⟨key, mem, s, unread⟩ := Handler.readFault?_eq_some failed
    exact .inr ⟨key, own key mem, s, _, unread, rfl⟩
  · exact .inl ⟨rfl, same⟩

/-- Loading ends with no other session than the one that the contents stand for. -/
theorem load_finds (undisturbed : Undisturbed handler contents) (state : σ) :
    load.run.Ends handler
      (fun result _ => ∀ cached, result = .ok (some cached) →
        ofContents (contents state) = .ok (some cached))
      state := by
  refine (load_reads undisturbed state).imp ?_
  intro result _ reads cached there
  obtain ⟨found, -⟩ | ⟨_, -, _, _, -, unread⟩ := reads
  · exact found.symm.trans there
  · cases unread.symm.trans there

/-! ## The cache in a store that does not fail -/

theorem load_ends (reliable : Reliable handler contents) (state : σ) :
    load.run.Ends handler
      (fun result next => result = ofContents (contents state) ∧
        ∀ key ∈ StorageKey.sessionKeys, contents next key = contents state key)
      state := by
  refine (load_reads reliable.undisturbed state).imp ?_
  intro result next reads
  refine reads.resolve_right fun unread => ?_
  obtain ⟨key, own, s, e, failed, -⟩ := unread
  have valid : ∀ key ∈ StorageKey.sessionKeys, StorageKey.isValid key := by decide
  cases failed.symm.trans (reliable.get (valid key own) s).1

theorem removeKeys_ends (reliable : Reliable handler contents) {keys : List String}
    (valid : ∀ key ∈ keys, StorageKey.isValid key) (state : σ) :
    (removeKeys keys).run.Ends handler
      (fun reply next => reply = .ok () ∧ contents next = (contents state).without keys)
      state := by
  induction keys generalizing state with
  | nil => exact .pure ⟨rfl, (Contents.without_nil _).symm⟩
  | cons first keys ih =>
      have rest (next : σ) := ih (fun key mem => valid key (List.mem_cons_of_mem first mem)) next
      refine .exceptBind_known (reliable.remove_ends (valid first List.mem_cons_self) state)
        fun next after => ?_
      apply (rest next).imp
      intro reply last ends
      refine ⟨ends.1, ?_⟩
      rw [ends.2, after, Contents.without_cons]

theorem putAll_ends (reliable : Reliable handler contents) {table : Table String}
    (valid : ∀ key ∈ table.map (·.1), StorageKey.isValid key)
    (distinct : (table.map (·.1)).Nodup) (state : σ) :
    (putAll table).run.Ends handler
      (fun reply next => reply = .ok () ∧ contents next = (contents state).having table)
      state := by
  induction table generalizing state with
  | nil => exact .pure ⟨rfl, rfl⟩
  | cons entry table ih =>
      obtain ⟨name, value⟩ := entry
      obtain ⟨fresh, distinct⟩ := List.nodup_cons.mp distinct
      have rest (next : σ) := ih (fun key mem => valid key (List.mem_cons_of_mem name mem))
        distinct next
      refine .exceptBind_known (reliable.set_ends (valid name List.mem_cons_self) value state)
        fun next after => ?_
      apply (rest next).imp
      intro reply last ends
      refine ⟨ends.1, ?_⟩
      rw [ends.2, after, Contents.having_cons _ _ fresh]

/-- Writing the cache leaves the session under its keys, and nothing of another one. -/
theorem persist_ends (reliable : Reliable handler contents) (cached : CachedSession) (state : σ) :
    cached.persist.run.Ends handler
      (fun reply next => reply = .ok () ∧ cached.StoredIn (contents next)) state := by
  rw [persist_eq]
  refine .exceptBind_known (removeKeys_ends reliable (by decide) state) fun first removed => ?_
  refine .exceptBind_known (putAll_ends reliable cached.isValid_of_mem_details
    cached.nodup_details first) fun second put => ?_
  apply (reliable.set_ends (by decide) _ second).imp
  intro reply last ends
  obtain ⟨done, after⟩ := ends
  refine ⟨done, ?_⟩
  rw [after, put, removed]
  exact storedIn_update fun key mem => Contents.without_of_mem _ mem

end
end CachedSession
end AccessPortal
