import AccessPortal.Proofs.Session.Cache
import AccessPortal.Proofs.Session.Calls

/-!
# The cache never mixes two sign-ins

Whatever fails, and wherever a run is cut off, a session that is found in the cache is the one that
was last written to it as a whole (`cached_is_lastPersisted`). The invariant behind this is that an
access token in the store is the last thing that happened to be stored under any key of the session:
since then keys were only removed, so what is left beside the token was written together with it
(`Sound`). It is kept because the token is the first key to be removed and the last to be written.
-/

namespace AccessPortal

def Event.StoresToken : Event → Prop
  | .set key _ (.ok ()) => key = StorageKey.accessToken
  | _ => False

/-- The last call that wrote the cache and got through wrote this session. -/
def LastPersisted (past : List Event) (written : CachedSession) : Prop :=
  ∃ before call after, past = before ++ call ++ after ∧
    written.persist.run.Performs call (.ok ()) ∧
    ∀ (other : CachedSession) (before' call' after' : List Event),
      past = before' ++ call' ++ after' → other.persist.run.Performs call' (.ok ()) →
        after.length ≤ after'.length

namespace CachedSession

/-- Of the session keys the store holds nothing but what is stored of a session. -/
def Covers (written : CachedSession) (contents : Contents) : Prop :=
  ∀ key ∈ StorageKey.sessionKeys, contents key = none ∨ contents key = written.entries.find? key

theorem record_eq (cached : CachedSession) :
    ∃ front, cached.record =
      front ++ [.set StorageKey.accessToken cached.accessToken (.ok ())] := by
  refine ⟨removals StorageKey.sessionKeys ++ puts cached.details, ?_⟩
  rw [record, entries, puts_append, ← List.append_assoc]
  rfl

end CachedSession

/-- A call that wrote the cache is the last one if no access token was stored after it. -/
theorem lastPersisted_of_record {written : CachedSession} {before after : List Event}
    (since : ∀ event ∈ after, ¬ event.StoresToken) :
    LastPersisted (before ++ written.record ++ after) written := by
  refine ⟨before, written.record, after, rfl, CachedSession.performs_persist_iff.mpr rfl, ?_⟩
  intro other before' call' after' split performs
  by_contra shorter
  obtain ⟨front, ends⟩ := other.record_eq
  rw [CachedSession.performs_persist_iff.mp performs, ends] at split
  -- The token that the other call stored would come after the first call.
  have tail : Event.set StorageKey.accessToken other.accessToken (.ok ()) :: after' <:+ after := by
    have whole : Event.set StorageKey.accessToken other.accessToken (.ok ()) :: after' <:+
        before ++ written.record ++ after := by
      rw [split]
      exact ⟨before' ++ front, by simp⟩
    apply List.suffix_of_suffix_length_le whole (List.suffix_append _ _)
    rw [List.length_cons]
    omega
  exact since _ (tail.mem List.mem_cons_self) rfl

/-- What stands beside an access token was written together with it. -/
def Sound (past : List Event) (contents : Contents) : Prop :=
  contents StorageKey.accessToken = none ∨
    ∃ written before after, past = before ++ CachedSession.record written ++ after ∧
      (∀ event ∈ after, ¬ event.StoresToken) ∧ written.Covers contents

/-! ## What keeps the invariant -/

def Operation.AddsNothing {β : Type} : Operation β → Prop
  | .set _ _ => False
  | _ => True

theorem after_of_addsNothing {β : Type} {operation : Operation β}
    (addsNothing : operation.AddsNothing) (reply : β) (contents : Contents) (key : String) :
    contents.after (operation.event reply) key = none ∨
      contents.after (operation.event reply) key = contents key := by
  cases operation with
  | set _ _ => exact addsNothing.elim
  | get _ => cases reply <;> exact .inr rfl
  | remove removed =>
      cases reply with
      | error e => exact .inr rfl
      | ok _ =>
          by_cases same : key = removed
          · subst same
            exact .inl (Function.update_self ..)
          · exact .inr (Function.update_of_ne same ..)
  | _ => exact .inr rfl

theorem not_storesToken_of_addsNothing {β : Type} {operation : Operation β}
    (addsNothing : operation.AddsNothing) (reply : β) :
    ¬ (operation.event reply).StoresToken := by
  cases operation with
  | set _ _ => exact addsNothing.elim
  | _ => exact id

theorem Sound.step {past : List Event} {contents contents' : Contents} {event : Event}
    (sound : Sound past contents) (quiet : ¬ event.StoresToken)
    (shrinks : ∀ key, contents' key = none ∨ contents' key = contents key) :
    Sound (past ++ [event]) contents' := by
  rcases sound with absent | ⟨written, before, after, rfl, since, covers⟩
  · left
    rcases shrinks StorageKey.accessToken with gone | same
    · exact gone
    · rw [same, absent]
  · right
    refine ⟨written, before, after ++ [event], by simp, ?_, ?_⟩
    · intro e mem
      rcases List.mem_append.mp mem with mem | mem
      · exact since e mem
      · rw [List.mem_singleton.mp mem]
        exact quiet
    · intro key mem
      rcases shrinks key with gone | same
      · exact .inl gone
      · rw [same]
        exact covers key mem

/-- A session that is found is what is left of the last one that was written. -/
theorem Sound.lastPersisted {past : List Event} {contents : Contents} {cached : CachedSession}
    (sound : Sound past contents) (found : CachedSession.ofContents contents = .ok (some cached)) :
    ∃ written, LastPersisted past written ∧ cached.accessToken = written.accessToken ∧
      cached.user = written.user ∧ cached.loggedInAt = written.loggedInAt ∧
      (cached.refreshToken = written.refreshToken ∨ cached.refreshToken = none) := by
  obtain ⟨atToken, atRefresh, role, profile, atRole, atProfile, identified⟩ :=
    CachedSession.ofContents_eq_some found
  rcases sound with absent | ⟨written, before, after, rfl, since, covers⟩
  · rw [absent] at atToken
    cases atToken
  · have covered {key : String} {value : String} (mem : key ∈ StorageKey.sessionKeys)
        (there : contents key = some value) : written.entries.find? key = some value := by
      rcases covers key mem with gone | same
      · rw [gone] at there
        cases there
      · rw [← same, there]
    have token := covered (by simp [StorageKey.sessionKeys]) atToken
    have itsRole := covered (by simp [StorageKey.sessionKeys]) atRole
    have itsProfile := covered (by simp [StorageKey.sessionKeys]) atProfile
    rw [CachedSession.find?_accessToken] at token
    rw [CachedSession.find?_userRole] at itsRole
    rw [CachedSession.find?_userProfile] at itsProfile
    rw [← Option.some.inj itsRole, ← Option.some.inj itsProfile,
      CachedSession.identify_toProfile] at identified
    obtain ⟨user, time⟩ := Prod.mk.inj (Except.ok.inj identified)
    refine ⟨written, lastPersisted_of_record since, (Option.some.inj token).symm, user.symm,
      time.symm, ?_⟩
    rcases covers StorageKey.refreshToken (by simp [StorageKey.sessionKeys]) with gone | same
    · exact .inr (atRefresh.symm.trans gone)
    · rw [CachedSession.find?_refreshToken] at same
      exact .inl (atRefresh.symm.trans same)

section

variable {σ : Type} {handler : Handler σ} {contents : σ → Contents}

theorem sound_of_addsNothing (faithful : Faithful handler contents) {β : Type}
    (operation : Operation β) (addsNothing : operation.AddsNothing) (moment : List Event × σ)
    (sound : Sound moment.1 (contents moment.2)) :
    Sound (handler.recorded operation moment).2.1
      (contents (handler.recorded operation moment).2.2) := by
  obtain ⟨past, state⟩ := moment
  have after := faithful.after operation state
  refine sound.step (not_storesToken_of_addsNothing addsNothing _) fun key => ?_
  rcases after_of_addsNothing addsNothing (handler operation state).1 (contents state) key
    with gone | same
  · exact .inl ((congrFun after key).trans gone)
  · exact .inr ((congrFun after key).trans same)

namespace CachedSession

/-- Removing keys goes on where it got through, and keeps the invariant where it did not. -/
theorem removeKeys_sound (faithful : Faithful handler contents) {keys : List String}
    {past : List Event} {state : σ} (sound : Sound past (contents state)) :
    (removeKeys keys).run.Upholds handler.recorded
      (fun moment => Sound moment.1 (contents moment.2))
      (fun result moment => Sound moment.1 (contents moment.2) ∧ match result with
        | .ok () => moment.1 = past ++ removals keys ∧
            contents moment.2 = (contents state).without keys
        | .error _ => True)
      (past, state) := by
  induction keys generalizing past state with
  | nil => exact .pure ⟨sound, (List.append_nil past).symm, (Contents.without_nil _).symm⟩
  | cons first keys ih =>
      have removed : (Store.remove first).Upholds handler.recorded
          (fun moment => Sound moment.1 (contents moment.2))
          (fun reply moment => Sound moment.1 (contents moment.2) ∧
            moment.1 = past ++ [.remove first reply] ∧
            contents moment.2 = (contents state).after (.remove first reply))
          (past, state) := by
        have kept := sound_of_addsNothing faithful (.remove first) trivial
          (past, state) sound
        exact .operation kept ⟨kept, rfl, faithful.after (.remove first) state⟩
      refine removed.bind fun reply moment holds => ?_
      obtain ⟨past', state'⟩ := moment
      obtain ⟨sound', rfl, after⟩ := holds
      cases reply with
      | error e => exact .pure ⟨sound', trivial⟩
      | ok _ =>
          refine (ih sound').mono (fun _ holds => holds) ?_
          intro result moment ends
          obtain ⟨sound'', ends⟩ := ends
          refine ⟨sound'', ?_⟩
          cases result with
          | error e => trivial
          | ok _ =>
              refine ⟨by simp [ends.1, removals_cons], ?_⟩
              rw [ends.2, after, Contents.after, Contents.without_cons]

/-- While there is no access token, anything else may be put. -/
theorem putAll_sound (faithful : Faithful handler contents) {table : Table String}
    (distinct : (table.map (·.1)).Nodup) (noToken : StorageKey.accessToken ∉ table.map (·.1))
    {past : List Event} {state : σ} (absent : contents state StorageKey.accessToken = none) :
    (putAll table).run.Upholds handler.recorded (fun moment => Sound moment.1 (contents moment.2))
      (fun result moment => contents moment.2 StorageKey.accessToken = none ∧ match result with
        | .ok () =>
            moment.1 = past ++ puts table ∧
              contents moment.2 = (contents state).having table
        | .error _ => True)
      (past, state) := by
  induction table generalizing past state with
  | nil => exact .pure ⟨absent, (List.append_nil past).symm, rfl⟩
  | cons entry table ih =>
      obtain ⟨name, value⟩ := entry
      obtain ⟨fresh, distinct⟩ := List.nodup_cons.mp distinct
      simp only [List.map_cons, List.mem_cons, not_or] at noToken
      have put : (Store.set name value).Upholds handler.recorded
          (fun moment => Sound moment.1 (contents moment.2))
          (fun reply moment => contents moment.2 StorageKey.accessToken = none ∧
            moment.1 = past ++ [.set name value reply] ∧
            contents moment.2 = (contents state).after (.set name value reply))
          (past, state) := by
        have after := faithful.after (.set name value) state
        have kept : contents (handler (.set name value) state).2 StorageKey.accessToken = none := by
          rw [after]
          cases (handler (.set name value) state).1 with
          | error e => exact absent
          | ok _ => exact (Function.update_of_ne noToken.1 ..).trans absent
        exact .operation (.inl kept) ⟨kept, rfl, after⟩
      refine put.bind fun reply moment holds => ?_
      obtain ⟨past', state'⟩ := moment
      obtain ⟨absent', rfl, after⟩ := holds
      cases reply with
      | error e => exact .pure ⟨absent', trivial⟩
      | ok _ =>
          refine (ih distinct noToken.2 absent').mono (fun _ holds => holds) ?_
          intro result moment ends
          obtain ⟨absent'', ends⟩ := ends
          refine ⟨absent'', ?_⟩
          cases result with
          | error e => trivial
          | ok _ =>
              refine ⟨by simp [ends.1, puts_cons], ?_⟩
              rw [ends.2, after, Contents.after, Contents.having_cons _ _ fresh]

/-- Writing the cache keeps the invariant, wherever it stops. -/
theorem persist_sound (faithful : Faithful handler contents) (cached : CachedSession) :
    cached.persist.run.Preserves handler.recorded
      (fun moment => Sound moment.1 (contents moment.2)) := by
  intro outcome sound
  obtain ⟨past, state⟩ := outcome
  rw [persist_eq]
  refine (removeKeys_sound faithful sound).bind fun result moment holds => ?_
  obtain ⟨past', state'⟩ := moment
  obtain ⟨sound', removed⟩ := holds
  cases result with
  | error e => exact .pure sound'
  | ok _ =>
      obtain ⟨rfl, cleared⟩ := removed
      have absent : ∀ key ∈ StorageKey.sessionKeys, contents state' key = none := by
        intro key mem
        rw [cleared, Contents.without_of_mem _ mem]
      refine (putAll_sound faithful cached.nodup_details cached.token_not_mem_details
        (absent _ List.mem_cons_self)).bind fun result moment holds => ?_
      obtain ⟨past', state''⟩ := moment
      obtain ⟨noToken, put⟩ := holds
      cases result with
      | error e => exact .pure (.inl noToken)
      | ok _ =>
          obtain ⟨rfl, details⟩ := put
          have last (reply : Except StorageError Unit) {next : σ}
              (after : contents next = (contents state'').after
                (.set StorageKey.accessToken cached.accessToken reply)) :
              Sound (past ++ removals StorageKey.sessionKeys ++ puts cached.details
                ++ [.set StorageKey.accessToken cached.accessToken reply]) (contents next) := by
            cases reply with
            | error e => exact .inl ((congrFun after _).trans noToken)
            | ok _ =>
                have stored : cached.StoredIn (contents next) := by
                  rw [after, Contents.after, details]
                  exact storedIn_update absent
                refine .inr ⟨cached, past, [], by simp [record, entries, puts], by simp, ?_⟩
                exact fun key mem => .inr (stored key mem)
          have kept := last _
            (faithful.after (.set StorageKey.accessToken cached.accessToken) state'')
          exact .operation kept kept

end CachedSession

/--
Start from a store without session keys and make any calls, each on any of any number of sessions,
with any answers of the auth service, over a store of which any operation may fail. After every
single operation, a session that is found in the contents of the store has the access token, the
user and the sign-in time of the last session that was written to the cache as a whole, and its
refresh token or none.
-/
theorem cached_is_lastPersisted (faithful : Faithful handler contents) {start : σ}
    (empty : ∀ key ∈ StorageKey.sessionKeys, contents start key = none)
    (calls : List (Nat × Session.Call)) :
    ∀ moment ∈ (Session.lives calls fun _ => {}).states handler.recorded ([], start),
      ∀ cached, (CachedSession.load.run.run Contents.serve (contents moment.2)).1 =
          .ok (some cached) →
        ∃ written, LastPersisted moment.1 written ∧
          cached.accessToken = written.accessToken ∧ cached.user = written.user ∧
          cached.loggedInAt = written.loggedInAt ∧
          (cached.refreshToken = written.refreshToken ∨ cached.refreshToken = none) := by
  intro moment mem cached found
  have preserves := Session.lives_preserves
    (fun operation upkeep moment sound => sound_of_addsNothing faithful operation
      (by cases operation <;> trivial) moment sound)
    (fun operation asking moment sound => sound_of_addsNothing faithful operation
      (by cases operation <;> trivial) moment sound)
    (CachedSession.persist_sound faithful) calls fun _ => {}
  have sound : Sound moment.1 (contents moment.2) :=
    (preserves ([], start) (.inl (empty _ List.mem_cons_self))).throughout moment mem
  rw [(CachedSession.load_ends Contents.reliable_serve _).outcome.1] at found
  exact sound.lastPersisted found

end

theorem cached_is_lastPersisted_denied :
    (∀ key ∈ StorageKey.sessionKeys, Plan.World.contents {} key = none) ∧
    ∃ moment ∈ (Session.lives [(0, .login ⟨"ada", "pw"⟩), (1, .login ⟨"ada", "pw"⟩)]
        fun _ => {}).states (Handler.recorded (Plan.denyingFrom 16).handle) ([], {}),
      ∃ cached, (CachedSession.load.run.run Contents.serve moment.2.contents).1 =
          .ok (some cached) ∧
        ∃ written, LastPersisted moment.1 written ∧
          cached.accessToken = written.accessToken ∧ cached.user = written.user ∧
          cached.loggedInAt = written.loggedInAt ∧
          (cached.refreshToken = written.refreshToken ∨ cached.refreshToken = none) := by
  have empty : ∀ key ∈ StorageKey.sessionKeys, Plan.World.contents {} key = none :=
    fun _ _ => rfl
  have found :
      (((Session.lives [(0, .login ⟨"ada", "pw"⟩), (1, .login ⟨"ada", "pw"⟩)]
        fun _ => {}).states (Handler.recorded (Plan.denyingFrom 16).handle)
          ([], {}))[37]?.map fun moment =>
            (CachedSession.load.run.run Contents.serve moment.2.contents).1) =
        some (.ok (some
          ⟨"token", some "refresh", ⟨"u-1", "Ada", "ada@example.org", "", .auditor⟩, 6⟩)) := by
    decide +kernel
  obtain ⟨moment, place, found⟩ := Option.map_eq_some_iff.mp found
  have mem := List.mem_of_getElem? place
  exact ⟨empty, moment, mem, _, found,
    cached_is_lastPersisted (Plan.faithful _) empty _ moment mem _ found⟩

end AccessPortal
