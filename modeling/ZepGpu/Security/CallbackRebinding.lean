import ZepGpu.Security.Callbacks

namespace ZepGpu
namespace Security

open Foundation List

/-!
# Callbacks and a name service that changes its mind

Every address that validation lets pass is public, or a loopback address for a
developer who asked for it.  The client is given the URL, not the addresses: it
connects to what the name service says then.
-/

/-- An address is globally reachable and of no special purpose, and so is the
one embedded in it. -/
structure IsPublic (address : IpAddress) : Prop where
  reachable : (candidateOf address).isGlobal = true
  single : (candidateOf address).isMulticast = false
  unreserved : (candidateOf address).isReserved = false

theorem ipv4Mapped_of_plain {value : BitVec 128} (plain : embeddedIpv4 value = none) :
    Ipv6.ipv4Mapped value = none := by
  rw [embeddedIpv4] at plain
  split at plain
  · cases plain
  · assumption

theorem candidate_of_isGlobal {address : IpAddress}
    (reachable : (candidateOf address).isGlobal = true) :
    (candidateOf address).isLoopback = false ∧ (candidateOf address).isPrivate = false ∧
      (candidateOf address).isLinkLocal = false ∧ (candidateOf address).isUnspecified = false := by
  have four : ∀ {value : BitVec 32}, (IpAddress.v4 value).isGlobal = true ->
      (IpAddress.v4 value).isLoopback = false ∧ (IpAddress.v4 value).isPrivate = false ∧
        (IpAddress.v4 value).isLinkLocal = false ∧ (IpAddress.v4 value).isUnspecified = false := by
    intro value reachable
    obtain ⟨notPrivate, notLoopback, notLocal, _, specified⟩ := Ipv4.of_isGlobal reachable
    exact ⟨notLoopback, notPrivate, notLocal, specified⟩
  cases address with
  | v4 value => exact four reachable
  | v6 value scopeId =>
    rw [candidateOf] at reachable ⊢
    cases embedded : embeddedIpv4 value with
    | some inner =>
      rw [embedded] at reachable
      exact four reachable
    | none =>
      rw [embedded] at reachable
      obtain ⟨notPrivate, notLoopback, notLocal, specified⟩ :=
        Ipv6.of_isGlobal (ipv4Mapped_of_plain embedded) reachable
      exact ⟨notLoopback, notPrivate, notLocal, specified⟩

theorem blockedAddressReason_eq_none {address : IpAddress} :
    blockedAddressReason address = none ↔ IsPublic address := by
  rw [blockedAddressReason]
  constructor
  · intro passes
    split_ifs at passes with _ _ _ multicast _ other
    rw [not_or, not_not] at other
    exact ⟨other.2, Bool.eq_false_of_not_eq_true multicast, Bool.eq_false_of_not_eq_true other.1⟩
  · rintro ⟨reachable, single, unreserved⟩
    obtain ⟨notLoopback, notPrivate, notLocal, specified⟩ := candidate_of_isGlobal reachable
    simp [notLoopback, notPrivate, notLocal, single, specified, unreserved, reachable]

theorem blockedAddressReason_eq_loopback {address : IpAddress} :
    blockedAddressReason address = some "loopback" ↔ (candidateOf address).isLoopback = true := by
  rw [blockedAddressReason]
  constructor
  · intro blocked
    split_ifs at blocked with loopback
    · exact loopback
    all_goals exact absurd (Option.some.inj blocked) (by decide)
  · intro loopback
    exact if_pos loopback

theorem prohibitedReason_eq_none {allow : Bool} {address : IpAddress} :
    prohibitedReason allow address = none ↔
      IsPublic address ∨ (allow = true ∧ (candidateOf address).isLoopback = true) := by
  rw [prohibitedReason, ← blockedAddressReason_eq_none, ← blockedAddressReason_eq_loopback]
  cases blockedAddressReason address with
  | none => simp
  | some reason =>
    rw [Option.filter_eq_none_iff]
    simp

section Validation

variable {U : Unicode} {settings : CallbackSettings} {lookup : Lookup} {callbackUrl : String}

/-- The opt-in for loopback addresses applies to the URL. -/
def OptsIn (U : Unicode) (settings : CallbackSettings) (callbackUrl : String) : Prop :=
  ∃ parsed, parseCallbackUrl U callbackUrl = .ok parsed ∧
    developmentLocalhostAllowed settings parsed.hostname none settings.environment = true

/-- A lookup gives addresses only, and at least one. -/
def Answers (lookup : Lookup) (hostname : List Char) (port : Nat) : Prop :=
  (IpAddress.ofString? (String.ofList hostname)).isSome = true ∨
    ∃ answers, lookup hostname port = some answers ∧ answers ≠ [] ∧
      ∀ answer, answer ∈ answers -> (IpAddress.ofString? answer).isSome = true

/-- The URL is well formed, the policy of the settings lets its host pass, and the
lookup gives it addresses that are public, or loopback ones after the opt-in. -/
structure Accepted (U : Unicode) (settings : CallbackSettings) (lookup : Lookup)
    (callbackUrl : String) (parsed : CallbackUrl) : Prop where
  wellFormed : parseCallbackUrl U callbackUrl = .ok parsed
  secure : settings.environment = .production -> parsed.scheme = "https".toList
  allowed : hostAllowed U parsed.hostname settings.parsedTaskCallbackAllowedHosts = .ok true ∨
    hostAllowed U parsed.hostname settings.parsedTaskCallbackAllowedHosts = .ok false ∧
      OptsIn U settings callbackUrl
  localhost : isLocalhostName parsed.hostname = true -> OptsIn U settings callbackUrl
  answered : Answers lookup parsed.hostname parsed.port
  permitted : ∀ address, address ∈ addressesAtConnect lookup (parsed.hostname, parsed.port) ->
    IsPublic address ∨ (OptsIn U settings callbackUrl ∧ (candidateOf address).isLoopback = true)

theorem answeredAddress_eq_ok {answer : String} {address : IpAddress} :
    answeredAddress answer = .ok address ↔ IpAddress.ofString? answer = some address := by
  unfold answeredAddress
  cases IpAddress.ofString? answer with
  | none => simp
  | some other => simp

theorem mapM_answeredAddress {answers : List String} {addresses : List IpAddress} :
    answers.mapM answeredAddress = .ok addresses ↔
      (∀ answer, answer ∈ answers -> (IpAddress.ofString? answer).isSome = true) ∧
        answers.filterMap IpAddress.ofString? = addresses := by
  induction answers generalizing addresses with
  | nil => simp [pure, Except.pure]
  | cons answer rest ih =>
    rw [mapM_cons, bind_eq_ok]
    constructor
    · rintro ⟨first, found, later⟩
      rcases bind_eq_ok.mp later with ⟨others, all, same⟩
      rw [answeredAddress_eq_ok] at found
      rcases ih.mp all with ⟨wellFormed, brought⟩
      refine ⟨?_, ?_⟩
      · intro other member
        rcases mem_cons.mp member with rfl | inside
        · rw [found]
          rfl
        · exact wellFormed other inside
      · rw [filterMap_cons_some found, brought]
        exact Except.ok.inj same
    · rintro ⟨wellFormed, brought⟩
      rcases Option.isSome_iff_exists.mp (wellFormed answer (mem_cons_self ..)) with
        ⟨first, found⟩
      rw [filterMap_cons_some found] at brought
      refine ⟨first, answeredAddress_eq_ok.mpr found, bind_eq_ok.mpr ⟨_, ih.mpr ⟨?_, rfl⟩, ?_⟩⟩
      · exact fun other member => wellFormed other (mem_cons_of_mem _ member)
      · rw [← brought]
        rfl

/-- The resolution of a host succeeds just when the lookup answers with addresses,
and finds what a client that connects then would find. -/
theorem resolveCallbackAddresses_eq_ok {hostname : List Char} {port : Nat} :
    (∀ checked, resolveCallbackAddresses lookup hostname port = .ok checked ->
      Answers lookup hostname port ∧
        ∀ address, address ∈ checked ↔ address ∈ addressesAtConnect lookup (hostname, port)) ∧
      (Answers lookup hostname port ->
        ∃ checked, resolveCallbackAddresses lookup hostname port = .ok checked) := by
  unfold resolveCallbackAddresses Answers addressesAtConnect
  cases literal : IpAddress.ofString? (String.ofList hostname) with
  | some address =>
    refine ⟨?_, fun _ => ⟨_, rfl⟩⟩
    rintro checked ⟨⟩
    exact ⟨Or.inl rfl, fun _ => Iff.rfl⟩
  | none =>
    dsimp only
    cases found : lookup hostname port with
    | none =>
      refine ⟨by rintro checked ⟨⟩, ?_⟩
      rintro (impossible | ⟨answers, impossible, -⟩)
      · cases impossible
      · cases impossible
    | some answers =>
      dsimp only
      constructor
      · intro checked resolved
        rcases bind_eq_ok.mp resolved with ⟨addresses, mapped, resolved⟩
        rcases raiseIf_bind_eq_ok.mp resolved with ⟨some, same⟩
        rcases mapM_answeredAddress.mp mapped with ⟨wellFormed, brought⟩
        refine ⟨Or.inr ⟨answers, rfl, ?_, wellFormed⟩, ?_⟩
        · rintro rfl
          exact some brought.symm
        · intro address
          rw [← Except.ok.inj same, mem_eraseDups, ← brought]
          rfl
      · rintro (impossible | ⟨_, ⟨⟩, nonempty, wellFormed⟩)
        · cases impossible
        · refine ⟨_, bind_eq_ok.mpr ⟨_, mapM_answeredAddress.mpr ⟨wellFormed, rfl⟩,
            raiseIf_bind_eq_ok.mpr ⟨?_, rfl⟩⟩⟩
          rcases exists_mem_of_ne_nil _ nonempty with ⟨answer, member⟩
          rcases Option.isSome_iff_exists.mp (wellFormed answer member) with ⟨address, given⟩
          exact ne_nil_of_mem (mem_filterMap.mpr ⟨answer, member, given⟩)

theorem optsIn_iff {parsed : CallbackUrl} (wellFormed : parseCallbackUrl U callbackUrl = .ok parsed) :
    OptsIn U settings callbackUrl ↔
      developmentLocalhostAllowed settings parsed.hostname none settings.environment = true := by
  constructor
  · rintro ⟨other, same, optsIn⟩
    rw [wellFormed] at same
    cases same
    exact optsIn
  · exact fun optsIn => ⟨parsed, wellFormed, optsIn⟩

/-- A validation that succeeds gives the URL itself.  It has accepted the URL, the
settings and the answers to its lookup, and checked what the lookup gave. -/
theorem validateCallbackUrl_eq_ok {validatedUrl : String} {checked : List IpAddress}
    (valid : validateCallbackUrl U settings lookup callbackUrl = .ok (validatedUrl, checked)) :
    validatedUrl = callbackUrl ∧ ∃ parsed, Accepted U settings lookup callbackUrl parsed ∧
      ∀ address, address ∈ checked ↔
        address ∈ addressesAtConnect lookup (parsed.hostname, parsed.port) := by
  rw [validateCallbackUrl] at valid
  obtain ⟨parsed, wellFormed, valid⟩ := bind_eq_ok.mp valid
  obtain ⟨secure, valid⟩ := raiseIf_bind_eq_ok.mp valid
  obtain ⟨allowed, isAllowed, valid⟩ := bind_eq_ok.mp valid
  obtain ⟨listed, valid⟩ := raiseIf_bind_eq_ok.mp valid
  obtain ⟨localhost, valid⟩ := raiseIf_bind_eq_ok.mp valid
  obtain ⟨addresses, resolved, valid⟩ := bind_eq_ok.mp valid
  have optsIn := @optsIn_iff U settings callbackUrl parsed wellFormed
  obtain ⟨answered, brought⟩ := resolveCallbackAddresses_eq_ok.1 addresses resolved
  split at valid
  · cases valid
  · next passes =>
      obtain ⟨rfl, rfl⟩ := Prod.mk.inj (Except.ok.inj valid)
      refine ⟨rfl, parsed, ⟨wellFormed, ?_, ?_, ?_, answered, ?_⟩, brought⟩
      · intro production
        by_contra other
        exact secure ⟨production, other⟩
      · cases allowed with
        | true => exact Or.inl isAllowed
        | false =>
          refine Or.inr ⟨isAllowed, optsIn.mpr ?_⟩
          by_contra refused
          exact listed ⟨rfl, Bool.eq_false_of_not_eq_true refused⟩
      · intro named
        by_contra refused
        exact localhost ⟨named, Bool.eq_false_of_not_eq_true (mt optsIn.mpr refused)⟩
      · intro address member
        rcases prohibitedReason_eq_none.mp (findSome?_eq_none_iff.mp passes address
          ((brought address).mpr member)) with isPublic | ⟨allow, loopback⟩
        · exact Or.inl isPublic
        · exact Or.inr ⟨optsIn.mpr allow, loopback⟩

/-- Validation succeeds on whatever is accepted. -/
theorem validateCallbackUrl_of_accepted {parsed : CallbackUrl}
    (accepted : Accepted U settings lookup callbackUrl parsed) :
    ∃ checked, validateCallbackUrl U settings lookup callbackUrl = .ok (callbackUrl, checked) ∧
      ∀ address, address ∈ checked ↔
        address ∈ addressesAtConnect lookup (parsed.hostname, parsed.port) := by
  have optsIn := @optsIn_iff U settings callbackUrl parsed accepted.wellFormed
  rcases resolveCallbackAddresses_eq_ok.2 accepted.answered with ⟨checked, resolved⟩
  have brought := (resolveCallbackAddresses_eq_ok.1 checked resolved).2
  have passes : checked.findSome? (prohibitedReason
      (developmentLocalhostAllowed settings parsed.hostname none settings.environment)) = none := by
    refine findSome?_eq_none_iff.mpr fun address member => prohibitedReason_eq_none.mpr ?_
    exact (accepted.permitted address ((brought address).mp member)).imp_right
      fun both => ⟨optsIn.mp both.1, both.2⟩
  have listed : ∃ allowed,
      hostAllowed U parsed.hostname settings.parsedTaskCallbackAllowedHosts = .ok allowed ∧
        ¬ (allowed = false ∧
          developmentLocalhostAllowed settings parsed.hostname none settings.environment = false) := by
    rcases accepted.allowed with isAllowed | ⟨isAllowed, opts⟩
    · exact ⟨true, isAllowed, fun both => nomatch both.1⟩
    · refine ⟨false, isAllowed, fun both => ?_⟩
      rw [optsIn.mp opts] at both
      cases both.2
  rcases listed with ⟨allowed, isAllowed, listed⟩
  refine ⟨checked, ?_, brought⟩
  unfold validateCallbackUrl
  refine bind_eq_ok.mpr ⟨parsed, accepted.wellFormed, raiseIf_bind_eq_ok.mpr ⟨?_,
    bind_eq_ok.mpr ⟨allowed, isAllowed, raiseIf_bind_eq_ok.mpr ⟨listed,
      raiseIf_bind_eq_ok.mpr ⟨?_, bind_eq_ok.mpr ⟨checked, resolved, ?_⟩⟩⟩⟩⟩⟩
  · exact fun both => both.2 (accepted.secure both.1)
  · rintro ⟨named, refused⟩
    have opts := optsIn.mp (accepted.localhost named)
    rw [show (none : Option Environment).getD settings.environment = settings.environment from rfl,
      opts] at refused
    cases refused
  · dsimp only [Option.getD_none]
    rw [passes]

end Validation

/-- Every address that is connected to was checked in the same call, and is
public or a loopback address that was opted in for. -/
def ReachesChecked (U : Unicode) (settings : CallbackSettings) (callbackUrl : String)
    (delivery : Delivery) : Prop :=
  ∀ address, address ∈ delivery.connected -> address ∈ delivery.checked ∧
    (IsPublic address ∨ (OptsIn U settings callbackUrl ∧ (candidateOf address).isLoopback = true))

/-- When the URL and the answers to its first lookup are accepted, the second lookup
gives the host that the client takes from the URL no address that the first one
did not give. -/
def KeepsAddresses (U : Unicode) (settings : CallbackSettings) (lookups : Nat -> Lookup)
    (target : String -> Except String (List Char × Nat)) (callbackUrl : String) : Prop :=
  ∀ parsed host, Accepted U settings (lookups 0) callbackUrl parsed ->
    target callbackUrl = .ok host ->
    addressesAtConnect (lookups 1) host ⊆
      addressesAtConnect (lookups 0) (parsed.hostname, parsed.port)

section Delivery

variable {U : Unicode} {settings : CallbackSettings} {lookups : Nat -> Lookup} {client : HttpClient}
  {callbackUrl : String} {address : IpAddress}

/-- What is connected to when the URL is accepted and the client takes a host from
it. -/
theorem deliverCallback_of_accepted {parsed : CallbackUrl} {host : List Char × Nat}
    (accepted : Accepted U settings (lookups 0) callbackUrl parsed)
    (taken : client.target callbackUrl = .ok host) :
    (deliverCallback U settings lookups client callbackUrl).connected =
        client.dials (addressesAtConnect (lookups 1) host) ∧
      ∀ address, address ∈ (deliverCallback U settings lookups client callbackUrl).checked ↔
        address ∈ addressesAtConnect (lookups 0) (parsed.hostname, parsed.port) := by
  rcases validateCallbackUrl_of_accepted accepted with ⟨checked, valid, brought⟩
  unfold deliverCallback
  rw [valid]
  dsimp only
  rw [taken]
  exact ⟨rfl, brought⟩

/-- Whatever is connected to comes from an accepted URL. -/
theorem accepted_of_connected
    (connected : address ∈ (deliverCallback U settings lookups client callbackUrl).connected) :
    ∃ parsed host, Accepted U settings (lookups 0) callbackUrl parsed ∧
      client.target callbackUrl = .ok host := by
  unfold deliverCallback at connected
  cases valid : validateCallbackUrl U settings (lookups 0) callbackUrl with
  | error error =>
    rw [valid] at connected
    cases connected
  | ok pair =>
    rcases pair with ⟨validatedUrl, checked⟩
    rw [valid] at connected
    rcases validateCallbackUrl_eq_ok valid with ⟨rfl, parsed, accepted, -⟩
    dsimp only at connected
    cases taken : client.target validatedUrl with
    | error message =>
      rw [taken] at connected
      cases connected
    | ok host => exact ⟨parsed, host, accepted, rfl⟩

end Delivery

/-- Whichever of the addresses a client dials that it finds when it connects, it
connects to checked addresses only, exactly when the second lookup keeps to the
addresses of the first one. -/
theorem deliverCallback_reachesChecked_iff (U : Unicode) (settings : CallbackSettings)
    (lookups : Nat -> Lookup) (client : HttpClient) (callbackUrl : String) :
    (∀ dials : List IpAddress -> List IpAddress, (∀ found, dials found ⊆ found) ->
      ReachesChecked U settings callbackUrl
        (deliverCallback U settings lookups { client with dials := dials } callbackUrl)) ↔
      KeepsAddresses U settings lookups client.target callbackUrl := by
  constructor
  · intro reaches parsed host accepted taken address found
    -- a client that dials whatever it finds
    have all := reaches id fun _ => List.Subset.refl _
    have delivered := @deliverCallback_of_accepted U settings lookups { client with dials := id }
      callbackUrl parsed host accepted taken
    have connected : address ∈
        (deliverCallback U settings lookups { client with dials := id } callbackUrl).connected := by
      rw [delivered.1]
      exact found
    exact (delivered.2 address).mp (all address connected).1
  · intro keeps dials within address connected
    rcases accepted_of_connected connected with ⟨parsed, host, accepted, taken⟩
    have delivered := deliverCallback_of_accepted accepted taken
    rw [delivered.1] at connected
    have first := keeps parsed host accepted taken (within _ connected)
    exact ⟨(delivered.2 address).mpr first, accepted.permitted address first⟩

/-- Tables that are not consulted for an ASCII URL. -/
def asciiTables : Unicode where
  lower := id
  nfkc := id
  idna := fun _ => none

/-- The host is public when it is validated, and this machine afterwards. -/
def movingHost (lookup : Nat) : Lookup :=
  fun _ _ => if lookup = 0 then some ["93.184.216.34"] else some ["127.0.0.1"]

def plainClient : HttpClient where
  target := fun _ => .ok ("callbacks.example.com".toList, 443)
  dials := fun addresses => addresses.take 1
  exchange := fun _ => .ok 200
  statusError := fun _ => none

example : (deliverCallback asciiTables {} (fun _ _ _ => some ["64:ff9b::a9fe:a9fe"]) plainClient
    "https://callbacks.example.com/hook").result = .error (.callbackUrlValidationError
      "callback host resolves to a prohibited private address") := by
  decide +kernel

/-- The callback is delivered to this machine. -/
theorem moving_host_reached :
    ¬ ReachesChecked asciiTables {} "https://callbacks.example.com/hook"
      (deliverCallback asciiTables {} movingHost plainClient "https://callbacks.example.com/hook") := by
  have delivered : (deliverCallback asciiTables {} movingHost plainClient
        "https://callbacks.example.com/hook").connected = [.v4 0x7f000001] ∧
      (deliverCallback asciiTables {} movingHost plainClient
        "https://callbacks.example.com/hook").checked = [.v4 0x5db8d822] := by
    decide +kernel
  intro reaches
  have connected : IpAddress.v4 0x7f000001 ∈ (deliverCallback asciiTables {} movingHost plainClient
      "https://callbacks.example.com/hook").connected := by
    rw [delivered.1]
    exact mem_singleton_self _
  obtain ⟨isChecked, _⟩ := reaches _ connected
  rw [delivered.2] at isChecked
  exact absurd isChecked (by decide)

end Security
end ZepGpu
