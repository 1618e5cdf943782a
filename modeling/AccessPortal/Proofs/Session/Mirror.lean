import AccessPortal.Proofs.Session.Cache
import AccessPortal.Proofs.Session.Outcomes

/-!
# The cache mirrors the session

Over a store that does not fail the cache and the session in memory say the same between any two
calls: it is clear when the session is signed out, and else it holds what the session holds. A new
session over the same store can therefore take the place of the old one (`restore_mirrors`).
-/

namespace AccessPortal

variable {σ : Type} {handler : Handler σ} {contents : σ → Contents}

def Contents.Cleared (contents : Contents) : Prop :=
  ∀ key ∈ StorageKey.sessionKeys, contents key = none

theorem Faithful.outside (faithful : Faithful handler contents) {β : Type}
    {operation : Operation β} (outside : operation.IsOutside) (state : σ) :
    contents (handler operation state).2 = contents state := by
  rw [faithful.after]
  cases operation with
  | get key => exact outside.elim
  | set key value => exact outside.elim
  | remove key => exact outside.elim
  | _ => rfl

namespace Session

theorem clearKeys_ends (reliable : Reliable handler contents) {keys : List String}
    (valid : ∀ key ∈ keys, StorageKey.isValid key) (state : σ) :
    (clearKeys keys).Ends handler
      (fun _ next => contents next = (contents state).without keys) state := by
  induction keys generalizing state with
  | nil => exact .pure (Contents.without_nil _).symm
  | cons first keys ih =>
      have rest (next : σ) := ih (fun key mem => valid key (List.mem_cons_of_mem first mem)) next
      apply (reliable.remove_ends (valid first List.mem_cons_self) state).bind
      intro reply next removed
      obtain ⟨rfl, after⟩ := removed
      apply (rest next).imp
      intro _ last left
      rw [left, after, Contents.without_cons]

theorem stable_contents (faithful : Faithful handler contents) (holds : Contents → Prop) :
    Stable handler fun state => holds (contents state) := by
  refine ⟨fun outside state before => ?_⟩
  rw [faithful.outside outside]
  exact before

/-- A store that does not fail is cleared as a whole and holds what is written to it. -/
theorem regime_of_reliable (reliable : Reliable handler contents) :
    Regime handler (fun state => (contents state).Cleared)
      (fun cached state => cached.StoredIn (contents state)) where
  stable_clear := stable_contents reliable.toFaithful Contents.Cleared
  stable_kept cached := stable_contents reliable.toFaithful cached.StoredIn
  clearCache state := by
    apply (clearKeys_ends reliable (by decide) state).imp
    intro _ next left key mem
    rw [left, Contents.without_of_mem _ mem]
  cache cached complaint state := by
    apply (CachedSession.persist_ends reliable cached state).bind
    intro reply next written
    obtain ⟨rfl, stored⟩ := written
    exact .pure stored
  load state known := by
    apply (CachedSession.load_ends reliable state).imp
    intro reply next found
    obtain ⟨rfl, same⟩ := found
    rcases known with cleared | ⟨cached, stored⟩
    · rw [CachedSession.ofContents_of_absent cleared]
      exact fun key own => (same key own).trans (cleared key own)
    · rw [CachedSession.ofContents_of_storedIn stored]
      by_cases empty : cached.accessToken.isEmpty = true
      · rw [if_pos empty]
        trivial
      · rw [if_neg empty]
        exact fun key own => (same key own).trans (stored key own)

/-! ## What a new session finds -/

/-- A session is taken as the contents of the store say. -/
theorem tryRestore_of_contents (reliable : Reliable handler contents) (session : Session)
    (state : σ) :
    session.tryRestore.Ends handler
      (fun ended next =>
        let found := CachedSession.ofContents (contents state)
        ended = (found.map (·.isSome), session.resumed found) ∧
          (found = .error .incomplete → (contents next).Cleared))
      state := by
  have stable (reply : Except CacheError (Option CachedSession)) :
      Stable handler fun next => reply = CachedSession.ofContents (contents state) ∧
        ∀ key ∈ StorageKey.sessionKeys, contents next key = contents state key :=
    stable_contents reliable.toFaithful fun left =>
      reply = CachedSession.ofContents (contents state) ∧
        ∀ key ∈ StorageKey.sessionKeys, left key = contents state key
  refine (tryRestore_ends (CachedSession.load_ends reliable state) stable
    (regime_of_reliable reliable).clearCache session).imp
    fun ended next ends => ?_
  obtain ⟨reply, _, ⟨rfl, -⟩, rfl, left⟩ := ends
  refine ⟨rfl, fun incomplete => ?_⟩
  rw [incomplete] at left
  exact left

theorem tryRestore_of_cleared (reliable : Reliable handler contents) (session : Session)
    {state : σ} (cleared : (contents state).Cleared) :
    session.tryRestore.Ends handler (fun (result, _) _ => result = .ok false) state := by
  refine (tryRestore_of_contents reliable session state).imp
    fun ended _ ends => ?_
  obtain ⟨rfl, -⟩ := ends
  rw [CachedSession.ofContents_of_absent cleared]
  rfl

theorem tryRestore_of_storedIn (reliable : Reliable handler contents) (session : Session)
    {cached : CachedSession} {state : σ} (stored : cached.StoredIn (contents state))
    (usable : cached.accessToken ≠ "") :
    session.tryRestore.Ends handler
      (fun (result, after) _ => result = .ok true ∧ after = session.holding cached) state := by
  have nonempty : ¬ cached.accessToken.isEmpty = true := by
    simpa [String.isEmpty_iff] using usable
  refine (tryRestore_of_contents reliable session state).imp
    fun ended _ ends => ?_
  obtain ⟨rfl, -⟩ := ends
  rw [CachedSession.ofContents_of_storedIn stored, if_neg nonempty]
  exact ⟨rfl, rfl⟩

theorem tryRestore_of_empty (reliable : Reliable handler contents) (session : Session)
    {cached : CachedSession} {state : σ} (stored : cached.StoredIn (contents state))
    (empty : cached.accessToken = "") :
    session.tryRestore.Ends handler
      (fun (result, _) next => result = .error .incomplete ∧ (contents next).Cleared) state := by
  have incomplete : CachedSession.ofContents (contents state) = .error .incomplete := by
    rw [CachedSession.ofContents_of_storedIn stored, empty]
    rfl
  refine (tryRestore_of_contents reliable session state).imp
    fun ended _ ends => ?_
  obtain ⟨rfl, cleared⟩ := ends
  refine ⟨?_, cleared incomplete⟩
  rw [incomplete]
  rfl

/--
Between any calls on a session that began over a store without session keys, a new session over the
same store comes back as that session is: signed in with the same user, tokens and sign-in time, or
not at all. A session whose access token is empty is not taken back but cleared away.
-/
theorem restore_mirrors (reliable : Reliable handler contents) {start : σ}
    (empty : (contents start).Cleared) (calls : List Call) :
    let ended := (live calls {}).run handler start
    let fresh := ({} : Session).tryRestore.run handler ended.2
    (ended.1.isAuthenticated → ended.1.accessToken ≠ some "" →
      fresh.1.1 = .ok true ∧ fresh.1.2 = { ended.1 with expired := false }) ∧
    (ended.1.isAuthenticated → ended.1.accessToken = some "" →
      fresh.1.1 = .error .incomplete ∧ (contents fresh.2).Cleared) ∧
    (ended.1.state = .unauthenticated →
      (contents ended.2).Cleared ∧ fresh.1.1 = .ok false) := by
  intro ended fresh
  have begins : Settled (fun state => (contents state).Cleared)
      (fun cached state => cached.StoredIn (contents state)) {} start :=
    .inl ⟨rfl, empty⟩
  have settled := ((regime_of_reliable reliable).live calls begins).outcome
  rcases settled with ⟨signedOut, cleared⟩ | ⟨cached, holds, stored⟩
  · have state : ended.1.state = .unauthenticated := congrArg Session.state signedOut
    have none : ended.1.isAuthenticated = false := by
      rw [signedOut]
      rfl
    refine ⟨fun h => ?_, fun h => ?_, fun _ => ⟨cleared, ?_⟩⟩
    · rw [none] at h
      cases h
    · rw [none] at h
      cases h
    · exact (tryRestore_of_cleared reliable {} cleared).outcome
  · have token : ended.1.accessToken = some cached.accessToken :=
      congrArg Session.accessToken holds
    refine ⟨fun _ usable => ?_, fun _ empty => ?_, fun signedOut => ?_⟩
    · have nonempty : cached.accessToken ≠ "" := fun h => usable (h ▸ token)
      obtain ⟨restored, same⟩ := (tryRestore_of_storedIn reliable {} stored nonempty).outcome
      refine ⟨restored, same.trans ?_⟩
      rw [holds]
      rfl
    · have none : cached.accessToken = "" := Option.some.inj (token.symm.trans empty)
      exact (tryRestore_of_empty reliable {} stored none).outcome
    · have state : ended.1.state = .authenticated cached.user := congrArg Session.state holds
      rw [state] at signedOut
      cases signedOut

theorem restore_mirrors_welcomed :
    let ended := (live [.login ⟨"ada", "pw"⟩, .resume] {}).run Plan.welcoming.handle {}
    let fresh := ({} : Session).tryRestore.run Plan.welcoming.handle ended.2
    (Plan.World.contents {}).Cleared ∧ ended.1.isAuthenticated ∧
      ended.1.accessToken ≠ some "" ∧ fresh.1.1 = .ok true ∧
      fresh.1.2 = { ended.1 with expired := false } := by
  have empty : (Plan.World.contents {}).Cleared := fun _ _ => rfl
  have signedIn :
      ((live [.login ⟨"ada", "pw"⟩, .resume] {}).run Plan.welcoming.handle {}).1.isAuthenticated ∧
        ((live [.login ⟨"ada", "pw"⟩, .resume] {}).run Plan.welcoming.handle {}).1.accessToken ≠
          some "" := by
    decide +kernel
  have mirrored := (restore_mirrors (Plan.reliable fun _ => rfl) empty
    [.login ⟨"ada", "pw"⟩, .resume]).1 signedIn.1 signedIn.2
  exact ⟨empty, signedIn.1, signedIn.2, mirrored⟩

end Session
end AccessPortal
