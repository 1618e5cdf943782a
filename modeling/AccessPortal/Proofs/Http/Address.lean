import AccessPortal.Proofs.Http.Wire

/-!
# Where requests go

The address of an endpoint is the configured one without the slashes at its end, one slash, and the
path without the slashes at its start (`Client.url_eq_of_bare`); how many slashes there were at
either place makes no difference. The address still names its protocol as long as something other
than slashes follows there (`Client.url_keeps_server`). Of an address that is nothing but a
protocol, the slashes of the protocol count as slashes at the end
(`Client.url_of_protocol_alone`).
-/

namespace AccessPortal
namespace Http

def slashes (count : Nat) : String :=
  String.ofList (List.replicate count '/')

theorem slashes_append (first second : Nat) :
    slashes first ++ slashes second = slashes (first + second) := by
  rw [slashes, slashes, ← String.ofList_append, List.replicate_append_replicate]
  rfl

/-! ## Slashes at the ends of a text -/

theorem exists_replicate_append {α : Type} (a : α) (l : List α) :
    ∃ count rest, l = List.replicate count a ++ rest ∧ rest.head? ≠ some a := by
  induction l with
  | nil => exact ⟨0, [], rfl, nofun⟩
  | cons first l ih =>
      by_cases same : first = a
      · obtain ⟨count, rest, split, bare⟩ := ih
        exact ⟨count + 1, rest, by rw [same, split]; rfl, bare⟩
      · exact ⟨0, first :: l, rfl, fun again => same (Option.some.inj again)⟩

/-- Every text is one that does not start with a slash, and slashes before it. -/
theorem exists_slashes_append (text : String) :
    ∃ count rest, text = slashes count ++ rest ∧ rest.toList.head? ≠ some '/' := by
  obtain ⟨count, rest, split, bare⟩ := exists_replicate_append '/' text.toList
  refine ⟨count, String.ofList rest, ?_, by rwa [String.toList_ofList]⟩
  rw [slashes, ← String.ofList_append, ← split, String.ofList_toList]

/-- Every text is one that does not end with a slash, and slashes behind it. -/
theorem exists_append_slashes (text : String) :
    ∃ base count, text = base ++ slashes count ∧ base.toList.getLast? ≠ some '/' := by
  obtain ⟨count, rest, split, bare⟩ := exists_replicate_append '/' text.toList.reverse
  refine ⟨String.ofList rest.reverse, count, ?_, ?_⟩
  · have whole := congrArg List.reverse split
    rw [List.reverse_reverse, List.reverse_append, List.reverse_replicate] at whole
    rw [slashes, ← String.ofList_append, ← whole, String.ofList_toList]
  · rwa [String.toList_ofList, List.getLast?_reverse]

namespace Client

theorem trimSlashesStart_append {rest : String} (bare : rest.toList.head? ≠ some '/')
    (count : Nat) : trimSlashesStart (slashes count ++ rest) = rest := by
  have kept : rest.toList.dropWhile (· == '/') = rest.toList := by
    cases listed : rest.toList with
    | nil => rfl
    | cons first others =>
        rw [listed] at bare
        exact List.dropWhile_cons_of_neg fun same => bare (congrArg some (beq_iff_eq.mp same))
  have gone : (List.replicate count '/').dropWhile (· == '/') = [] := by simp
  rw [trimSlashesStart, slashes, String.toList_append, String.toList_ofList, List.dropWhile_append,
    gone, List.isEmpty_nil, if_pos rfl, kept, String.ofList_toList]

/-- The slashes between the configured address and the path become one. -/
theorem url_eq_of_bare {base rest : String} (bareBase : base.toList.getLast? ≠ some '/')
    (bareRest : rest.toList.head? ≠ some '/') (behind before : Nat) :
    url ⟨base ++ slashes behind⟩ (slashes before ++ rest) = base ++ "/" ++ rest := by
  rw [url, trimSlashesStart_append bareRest, slashes, trimSlashesEnd_append bareBase]

end Client

/-! ## The protocol -/

def protocols : List String :=
  ["http:", "https:"]

theorem hasProtocol_iff {text : String} :
    Settings.hasProtocol text = true ↔
      ∃ protocol ∈ protocols, ∃ tail, text = protocol ++ "//" ++ tail := by
  have starts (protocol : String) :
      protocol.toList.isPrefixOf text.toList = true ↔ ∃ tail, text = protocol ++ tail := by
    rw [List.isPrefixOf_iff_prefix]
    constructor
    · rintro ⟨tail, whole⟩
      exact ⟨String.ofList tail, by
        rw [← String.toList_inj, String.toList_append, String.toList_ofList, whole]⟩
    · rintro ⟨tail, rfl⟩
      exact ⟨tail.toList, String.toList_append.symm⟩
  rw [Settings.hasProtocol, Bool.or_eq_true, starts, starts]
  simp [protocols]

/-- Behind a protocol alone there is one slash and not two. -/
theorem hasProtocol_of_protocol {protocol rest : String} (alone : protocol ∈ protocols)
    (bare : rest.toList.head? ≠ some '/') :
    Settings.hasProtocol (protocol ++ "/" ++ rest) = false := by
  rw [Bool.eq_false_iff, Ne, hasProtocol_iff]
  rintro ⟨other, named, tail, same⟩
  have same := congrArg String.toList same
  simp only [protocols, List.mem_cons, List.not_mem_nil, or_false] at alone named
  rcases alone with rfl | rfl <;> rcases named with rfl | rfl <;>
    simp [String.toList_append] at same
  all_goals exact bare (by rw [same]; rfl)

/-- What stands before slashes is told by the whole, if it does not end with a slash. -/
theorem bare_unique {base other : String} {count count' : Nat}
    (bare : base.toList.getLast? ≠ some '/') (bare' : other.toList.getLast? ≠ some '/')
    (same : base ++ slashes count = other ++ slashes count') : base = other := by
  have trimmed := congrArg Client.trimSlashesEnd same
  rwa [slashes, slashes, Client.trimSlashesEnd_append bare,
    Client.trimSlashesEnd_append bare'] at trimmed

theorem bare_of_protocol : ∀ protocol ∈ protocols, protocol.toList.getLast? ≠ some '/' := by
  decide

/-- Without the slashes at its end, an address with a protocol is the protocol alone or still has
it. -/
theorem protocol_alone_or_kept {base : String} (bare : base.toList.getLast? ≠ some '/')
    {count : Nat} (accepted : Settings.hasProtocol (base ++ slashes count) = true) :
    base ∈ protocols ∨ ∃ protocol ∈ protocols, ∃ tail, base = protocol ++ "//" ++ tail := by
  obtain ⟨protocol, named, tail, given⟩ := hasProtocol_iff.mp accepted
  obtain ⟨front, behind, rfl, bareFront⟩ := exists_append_slashes tail
  cases listed : front.toList with
  | nil =>
      have onlySlashes : base ++ slashes count = protocol ++ slashes (2 + behind) := by
        rw [given, String.toList_eq_nil_iff.mp listed, String.empty_append, String.append_assoc,
          show "//" = slashes 2 from rfl, slashes_append]
      exact .inl (bare_unique bare (bare_of_protocol protocol named) onlySlashes ▸ named)
  | cons first others =>
      have bareWhole : (protocol ++ "//" ++ front).toList.getLast? ≠ some '/' := by
        rw [String.toList_append, List.getLast?_append_of_ne_nil _ (by simp [listed])]
        exact bareFront
      rw [← String.append_assoc] at given
      exact .inr ⟨protocol, named, front, bare_unique bare bareWhole given⟩

namespace Client

theorem eq_of_ofSettings {settings : Settings} {client : Client}
    (accepted : ofSettings settings = .ok client) :
    Settings.hasProtocol settings.baseUrl = true ∧ client = ⟨settings.baseUrl⟩ := by
  cases named : Settings.hasProtocol settings.baseUrl with
  | false =>
      rw [ofSettings, Settings.check, named] at accepted
      cases accepted
  | true =>
      refine ⟨rfl, ?_⟩
      by_cases endless : settings.timeout = 0
      · rw [ofSettings, Settings.check, named, if_neg (by decide), if_pos endless] at accepted
        cases accepted
      · rw [ofSettings, Settings.check, named, if_neg (by decide), if_neg endless] at accepted
        cases accepted
        rfl

/--
A client of settings that were accepted asks at the configured address without the slashes at its
end, followed by one slash and the path without the slashes at its start, however many slashes there
are at either place. What it asks at starts with a protocol just if something other than slashes
follows the protocol of the configured address.
-/
theorem url_keeps_server {settings : Settings} {client : Client}
    (accepted : ofSettings settings = .ok client) (path : String) :
    ∃ base behind before rest,
      settings.baseUrl = base ++ slashes behind ∧ base.toList.getLast? ≠ some '/' ∧
      path = slashes before ++ rest ∧ rest.toList.head? ≠ some '/' ∧
      client.url path = base ++ "/" ++ rest ∧
      (∀ behind before, url ⟨base ++ slashes behind⟩ (slashes before ++ rest) = client.url path) ∧
      (Settings.hasProtocol (client.url path) = true ↔ base ∉ protocols) := by
  obtain ⟨base, behind, given, bareBase⟩ := exists_append_slashes settings.baseUrl
  obtain ⟨before, rest, asked, bareRest⟩ := exists_slashes_append path
  obtain ⟨hasProtocol, rfl⟩ := eq_of_ofSettings accepted
  have joined := url_eq_of_bare bareBase bareRest
  have address : url ⟨settings.baseUrl⟩ path = base ++ "/" ++ rest := by
    rw [given, asked, joined]
  refine ⟨base, behind, before, rest, given, bareBase, asked, bareRest, address,
    fun behind before => (joined behind before).trans address.symm, ?_⟩
  rw [address]
  constructor
  · intro kept alone
    rw [hasProtocol_of_protocol alone bareRest] at kept
    cases kept
  · intro notAlone
    rw [given] at hasProtocol
    obtain alone | ⟨protocol, named, tail, rfl⟩ := protocol_alone_or_kept bareBase hasProtocol
    · exact absurd alone notAlone
    · refine hasProtocol_iff.mpr ⟨protocol, named, tail ++ "/" ++ rest, ?_⟩
      simp only [String.append_assoc]

theorem url_keeps_server_auth_local :
    ofSettings { baseUrl := "http://auth.local//" } = .ok ⟨"http://auth.local//"⟩ ∧
      url ⟨"http://auth.local//"⟩ "//api/auth/me" = "http://auth.local/api/auth/me" ∧
      ∃ base behind before rest,
        "http://auth.local//" = base ++ slashes behind ∧ base.toList.getLast? ≠ some '/' ∧
        "//api/auth/me" = slashes before ++ rest ∧ rest.toList.head? ≠ some '/' ∧
        url ⟨"http://auth.local//"⟩ "//api/auth/me" = base ++ "/" ++ rest ∧
        (∀ behind before, url ⟨base ++ slashes behind⟩ (slashes before ++ rest) =
          url ⟨"http://auth.local//"⟩ "//api/auth/me") ∧
        (Settings.hasProtocol (url ⟨"http://auth.local//"⟩ "//api/auth/me") = true ↔
          base ∉ protocols) :=
  have accepted : ofSettings { baseUrl := "http://auth.local//" } = .ok ⟨"http://auth.local//"⟩ :=
    rfl
  ⟨accepted, by decide, url_keeps_server accepted "//api/auth/me"⟩

/-- Settings with a protocol alone pass, and no protocol is left in the address of an endpoint. -/
theorem url_of_protocol_alone :
    ∃ client, ofSettings { baseUrl := "http://" } = .ok client ∧
      client.url "/api/auth/login" = "http:/api/auth/login" ∧
      Settings.hasProtocol (client.url "/api/auth/login") = false :=
  ⟨⟨"http://"⟩, rfl, by decide, by decide⟩

end Client
end Http
end AccessPortal
