import AccessPortal.Proofs.Forms.Attempts
import AccessPortal.Proofs.Forms.Reload
import AccessPortal.Proofs.Program.Confined
import AccessPortal.Proofs.Session.Calls
import AccessPortal.Proofs.Storage.Shared

/-!
# Sessions beside forms

Sessions and working copies of the forms share one store. Each side keeps to its own keys, and only
the sessions ask the service and look at the clock; so neither side notices what the other one does,
in whatever order they come and whatever fails (`sides_apart`).
-/

namespace AccessPortal

/-! ## What can be asked for around the forms -/

namespace WorkingCopy

inductive Request where
  | load (defaults : FormSet) (catalog : List FormField)
  | tryLoad (defaults : FormSet) (catalog : List FormField)
  | edit (change : Edit)

def Request.Reply : Request → Type
  | .load _ _ => Unit
  | .tryLoad _ _ => Except FormError Unit
  | .edit change => change.Reply

/-- What is loaded takes the place of the working copy, if anything is. -/
def Request.program (copy : WorkingCopy) : (request : Request) →
    Program (request.Reply × WorkingCopy)
  | .load defaults catalog => return ((), ← WorkingCopy.load defaults catalog)
  | .tryLoad defaults catalog => do
    match ← WorkingCopy.tryLoad defaults catalog with
    | .ok loaded => return (.ok (), loaded)
    | .error e => return (.error e, copy)
  | .edit change => change.attempt copy

section

variable {σ : Type} {handler : Handler σ} {inv : σ → Prop}
  (get : ∀ s, inv s → inv (handler (.get StorageKey.formConfigurations) s).2)
  (set : ∀ text s, inv s → inv (handler (.set StorageKey.formConfigurations text) s).2)
  (remove : ∀ s, inv s → inv (handler (.remove StorageKey.formConfigurations) s).2)
  (log : ∀ record s, inv s → inv (handler (.log record) s).2)
include set remove log

theorem Edit.attempt_preserves (copy : WorkingCopy) (edit : Edit) :
    (edit.attempt copy).Preserves handler inv := by
  have reported (level : Log.Level) (message : String) (fields : List (String × String)) :
      (report level message fields).Preserves handler inv :=
    .operation (log _)
  cases edit with
  | save =>
      refine .bind (.operation (set _)) fun reply => ?_
      cases reply with
      | ok _ => exact .bind (reported _ _ _) fun _ => .pure _
      | error e => exact .bind (reported _ _ _) fun _ => .pure _
  | reset =>
      refine .bind (.operation remove) fun reply => ?_
      cases reply with
      | ok _ => exact .bind (reported _ _ _) fun _ => .pure _
      | error e => exact .pure _
  | updateField | updateForm | moveField | addField | removeField => exact .pure _

include get

/-- Around the forms, nothing is done but reading, writing and removing them, and reporting. -/
theorem Request.program_preserves (copy : WorkingCopy) (request : Request) :
    (request.program copy).Preserves handler inv := by
  cases request with
  | load defaults catalog =>
      exact .bind (load_preserves get log defaults catalog) fun _ => .pure _
  | tryLoad defaults catalog =>
      refine .bind (tryLoad_preserves get log defaults catalog) fun reply => ?_
      cases reply with
      | ok loaded => exact .pure _
      | error e => exact .pure _
  | edit change => exact change.attempt_preserves set remove log copy

end
end WorkingCopy

/-! ## Two sides of one portal -/

inductive Side where
  | sessions
  | forms
  deriving DecidableEq

def Side.keys : Side → List String
  | .sessions => StorageKey.sessionKeys
  | .forms => [StorageKey.formConfigurations]

def Side.AsksService (side : Side) : Prop :=
  side = .sessions

structure Portal where
  sessions : Nat → Session
  copies : Nat → WorkingCopy

def Portal.AgreeOn (first second : Portal) : Side → Prop
  | .sessions => first.sessions = second.sessions
  | .forms => first.copies = second.copies

theorem Portal.AgreeOn.refl (portal : Portal) (side : Side) : portal.AgreeOn portal side := by
  cases side <;> rfl

theorem Portal.AgreeOn.trans {first second third : Portal} {side : Side}
    (agree : first.AgreeOn second side) (agree' : second.AgreeOn third side) :
    first.AgreeOn third side := by
  cases side with
  | sessions => exact Eq.trans agree agree'
  | forms => exact Eq.trans agree agree'

inductive Action where
  | call (n : Nat) (asked : Session.Call)
  | request (n : Nat) (asked : WorkingCopy.Request)

namespace Action

def side : Action → Side
  | .call _ _ => .sessions
  | .request _ _ => .forms

def Reply : Action → Type
  | .call _ asked => asked.Reply
  | .request _ asked => asked.Reply

def Subject : Action → Type
  | .call _ _ => Session
  | .request _ _ => WorkingCopy

/-- What is seen of an action: what is answered, and the session or the working copy after it. -/
structure Outcome where
  action : Action
  reply : action.Reply
  after : action.Subject

def perform (portal : Portal) : Action → Program (Outcome × Portal)
  | .call n asked => do
    let (reply, session) ← asked.program (portal.sessions n)
    return (⟨.call n asked, reply, session⟩,
      { portal with sessions := Function.update portal.sessions n session })
  | .request n asked => do
    let (reply, copy) ← asked.program (portal.copies n)
    return (⟨.request n asked, reply, copy⟩,
      { portal with copies := Function.update portal.copies n copy })

end Action

def Portal.course : List Action → Portal → Program (List Action.Outcome × Portal)
  | [], portal => return ([], portal)
  | action :: actions, portal => do
    let (outcome, portal) ← action.perform portal
    let (outcomes, portal) ← course actions portal
    return (outcome :: outcomes, portal)

/-! ## Each side keeps to its own -/

/-- What belongs to a side of what happens: its keys, and the service if it asks it. -/
abbrev Side.Owns (side : Side) : Event → Prop :=
  Event.Within side.keys side.AsksService

theorem Side.keys_valid (side : Side) : ∀ key ∈ side.keys, StorageKey.isValid key := by
  cases side <;> decide

theorem Side.apart {side other : Side} (different : other ≠ side) :
    (∀ key ∈ other.keys, key ∉ side.keys) ∧ (other.AsksService → ¬ side.AsksService) := by
  refine ⟨?_, fun asks asks' => different (asks.trans asks'.symm)⟩
  cases side <;> cases other
  all_goals first | exact absurd rfl different | decide

theorem Session.Call.confined (call : Session.Call) (session : Session) :
    (call.program session).Confined Side.sessions.Owns := by
  intro σ handler
  have upkeep {β : Type} (operation : Operation β) (upkeep : operation.IsUpkeep) :
      ∀ moment, (∀ event ∈ moment.1, Side.sessions.Owns event) →
        ∀ event ∈ (handler.recorded operation moment).2.1, Side.sessions.Owns event := by
    refine own_recorded handler fun reply => ?_
    cases operation with
    | get key | remove key => exact upkeep
    | now => rfl
    | log record => trivial
    | set | login | logout | currentUser => exact upkeep.elim
  have asking {β : Type} (operation : Operation β) (asks : operation.AsksService) :
      ∀ moment, (∀ event ∈ moment.1, Side.sessions.Owns event) →
        ∀ event ∈ (handler.recorded operation moment).2.1, Side.sessions.Owns event := by
    refine own_recorded handler fun reply => ?_
    cases operation with
    | login | logout | currentUser => rfl
    | get | set | remove | now | log => exact asks.elim
  refine Session.program_preserves upkeep asking (fun cached => ?_) session call
  refine Session.persist_preserves upkeep (fun key own value => ?_) cached
  exact own_recorded handler fun _ => own

theorem WorkingCopy.Request.confined (request : Request) (copy : WorkingCopy) :
    (request.program copy).Confined Side.forms.Owns := by
  intro σ handler
  have own : StorageKey.formConfigurations ∈ Side.forms.keys := List.mem_singleton_self _
  apply request.program_preserves
  · exact own_recorded handler fun _ => own
  · exact fun _ => own_recorded handler fun _ => own
  · exact own_recorded handler fun _ => own
  · exact fun _ => own_recorded handler fun _ => trivial

/-! ## One action -/

section

variable {ω : Type} {mishaps : String → Nat → Mishap} {service : Handler ω} {side : Side}
  {portal portal' : Portal} {host host' : Host ω}

/-- What belongs to a side is answered alike where the side is the same. -/
theorem Side.cannotTell {α : Type} {program : Program α} (confined : program.Confined side.Owns) :
    program.CannotTell (Host.handle mishaps service) (Host.handle mishaps service)
      (Host.AgreeFor side.keys side.AsksService) :=
  confined.cannotTell fun _ _ _ agree owned => Host.handle_agrees side.keys_valid owned agree

/-- What belongs to one side leaves the other as it is. -/
theorem Side.beside {other : Side} (different : other ≠ side) {α : Type} {program : Program α}
    (confined : program.Confined other.Owns) (host : Host ω) :
    Host.AgreeFor side.keys side.AsksService
      (program.run (Host.handle mishaps service) host).2 host := by
  obtain ⟨apart, apart'⟩ := Side.apart different
  have step {β : Type} (operation : Operation β) (s : Host ω)
      (agree : Host.AgreeFor side.keys side.AsksService s host)
      (owned : other.Owns (operation.event (Host.handle mishaps service operation s).1)) :
      Host.AgreeFor side.keys side.AsksService (Host.handle mishaps service operation s).2 host :=
    (Host.handle_beside side.keys_valid apart apart' owned s).trans agree
  exact confined.keeps step (.refl host)

theorem Action.run_call {σ : Type} (handler : Handler σ) (n : Nat) (asked : Session.Call)
    (portal : Portal) (state : σ) :
    let ended := (asked.program (portal.sessions n)).run handler state
    ((call n asked).perform portal).run handler state =
      ((⟨call n asked, ended.1.1, ended.1.2⟩,
        { portal with sessions := Function.update portal.sessions n ended.1.2 }), ended.2) := by
  intro ended
  rw [perform, Program.run_bind]
  rfl

theorem Action.run_request {σ : Type} (handler : Handler σ) (n : Nat)
    (asked : WorkingCopy.Request) (portal : Portal) (state : σ) :
    let ended := (asked.program (portal.copies n)).run handler state
    ((request n asked).perform portal).run handler state =
      ((⟨request n asked, ended.1.1, ended.1.2⟩,
        { portal with copies := Function.update portal.copies n ended.1.2 }), ended.2) := by
  intro ended
  rw [perform, Program.run_bind]
  rfl

@[simp]
theorem Action.action_perform {σ : Type} (handler : Handler σ) (action : Action) (portal : Portal)
    (state : σ) : ((action.perform portal).run handler state).1.1.action = action := by
  cases action with
  | call n asked => rw [run_call]
  | request n asked => rw [run_request]

/-- An action depends on nothing but its own side, and leaves that as it would alone. -/
theorem Action.perform_agrees (action : Action) (same : portal.AgreeOn portal' action.side)
    (agree : Host.AgreeFor action.side.keys action.side.AsksService host host') :
    let ended := (action.perform portal).run (Host.handle mishaps service) host
    let ended' := (action.perform portal').run (Host.handle mishaps service) host'
    ended.1.1 = ended'.1.1 ∧ ended.1.2.AgreeOn ended'.1.2 action.side ∧
      Host.AgreeFor action.side.keys action.side.AsksService ended.2 ended'.2 := by
  cases action with
  | call n asked =>
      have same : portal.sessions = portal'.sessions := same
      obtain ⟨answers, agree'⟩ :=
        Side.cannotTell (asked.confined (portal.sessions n)) host host' agree
      simp only [run_call, ← same]
      rw [answers]
      exact ⟨rfl, rfl, agree'⟩
  | request n asked =>
      have same : portal.copies = portal'.copies := same
      obtain ⟨answers, agree'⟩ :=
        Side.cannotTell (asked.confined (portal.copies n)) host host' agree
      simp only [run_request, ← same]
      rw [answers]
      exact ⟨rfl, rfl, agree'⟩

/-- An action leaves the other side as it is. -/
theorem Action.perform_beside (action : Action) (different : action.side ≠ side)
    (portal : Portal) (host : Host ω) :
    let ended := (action.perform portal).run (Host.handle mishaps service) host
    ended.1.2.AgreeOn portal side ∧ Host.AgreeFor side.keys side.AsksService ended.2 host := by
  cases action with
  | call n asked =>
      simp only [run_call]
      refine ⟨?_, Side.beside different (asked.confined _) host⟩
      cases side with
      | sessions => exact absurd rfl different
      | forms => rfl
  | request n asked =>
      simp only [run_request]
      refine ⟨?_, Side.beside different (asked.confined _) host⟩
      cases side with
      | sessions => rfl
      | forms => exact absurd rfl different

end

/-! ## Any course of actions -/

theorem run_course_cons {σ : Type} (handler : Handler σ) (action : Action) (actions : List Action)
    (portal : Portal) (state : σ) :
    let ended := (action.perform portal).run handler state
    let rest := (Portal.course actions ended.1.2).run handler ended.2
    (Portal.course (action :: actions) portal).run handler state =
      ((ended.1.1 :: rest.1.1, rest.1.2), rest.2) := by
  intro ended rest
  simp only [Portal.course, Program.run_bind, Program.run_pure]
  rfl

section

variable {ω : Type} {mishaps : String → Nat → Mishap} {service : Handler ω} {side : Side}
  {portal portal' : Portal} {host host' : Host ω}

theorem course_agrees (actions : List Action) (same : portal.AgreeOn portal' side)
    (agree : Host.AgreeFor side.keys side.AsksService host host') :
    let together := (Portal.course actions portal).run (Host.handle mishaps service) host
    let alone :=
      (Portal.course (actions.filter (·.side = side)) portal').run (Host.handle mishaps service)
        host'
    together.1.1.filter (·.action.side = side) = alone.1.1 ∧
      together.1.2.AgreeOn alone.1.2 side ∧
      Host.AgreeFor side.keys side.AsksService together.2 alone.2 := by
  induction actions generalizing portal portal' host host' with
  | nil => exact ⟨rfl, same, agree⟩
  | cons action actions ih =>
      rw [run_course_cons]
      by_cases own : action.side = side
      · subst own
        obtain ⟨outcome, same', agree'⟩ := action.perform_agrees same agree
        obtain ⟨outcomes, kept⟩ := ih same' agree'
        rw [List.filter_cons_of_pos (by simp), run_course_cons]
        refine ⟨?_, kept⟩
        rw [List.filter_cons_of_pos (by simp)]
        exact congrArg₂ List.cons outcome outcomes
      · obtain ⟨beside, beside'⟩ := action.perform_beside own portal host
        obtain ⟨outcomes, kept⟩ := ih (beside.trans same) (beside'.trans agree)
        rw [List.filter_cons_of_neg (by simpa using own)]
        refine ⟨?_, kept⟩
        rw [List.filter_cons_of_neg (by simpa using own)]
        exact outcomes

/--
In whatever order calls on sessions and requests around the forms come, over one store of either
kind, whatever the service answers, and whatever lets an operation down by its key and the number of
the key's uses: what is seen of one side, what becomes of it and what the store keeps under its keys
is the same as if nothing had been asked of the other side.
-/
theorem sides_apart (mishaps : String → Nat → Mishap) (service : Handler ω) (actions : List Action)
    (portal : Portal) (host : Host ω) (side : Side) :
    let handle : Handler (Host ω) := Host.handle mishaps service
    let together := (Portal.course actions portal).run handle host
    let alone := (Portal.course (actions.filter (·.side = side)) portal).run handle host
    together.1.1.filter (·.action.side = side) = alone.1.1 ∧
      together.1.2.AgreeOn alone.1.2 side ∧
      Host.AgreeFor side.keys side.AsksService together.2 alone.2 ∧
      ∀ key ∈ side.keys, together.2.store.get key = alone.2.store.get key := by
  intro handle together alone
  obtain ⟨outcomes, agree, kept⟩ := course_agrees actions (.refl portal side) (.refl host)
  exact ⟨outcomes, agree, kept, fun key mem => Storage.get_agrees (kept.store key mem)⟩

end

end AccessPortal
