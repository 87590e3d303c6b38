import ZepGpu.Foundation.UrlSplit

namespace ZepGpu
namespace Security

open Foundation

/-!
# Task callbacks

The URL of a callback is validated, with the addresses that its host has at
that time, and then given to an HTTP client.  The client looks the host up
again when it connects.  The answers of the name service are an argument, one
for each lookup of a call, and so is the client.
-/

/-- Why a callback is refused or not delivered. -/
inductive CallbackError where
  | callbackUrlValidationError (message : String)
  | callbackDeliveryError (message : String)
  /-- `httpx.InvalidURL`, which is no `HTTPError` -/
  | invalidUrl (message : String)
  deriving DecidableEq

inductive Environment where
  | development
  | staging
  | production
  deriving DecidableEq

/-- The settings that say which hosts are allowed. -/
structure CallbackSettings where
  environment : Environment := .development
  taskCallbackAllowedHosts : String := ""
  taskCallbackAllowLocalhost : Bool := false

/-- `settings.parsed_task_callback_allowed_hosts()` -/
def CallbackSettings.parsedTaskCallbackAllowedHosts (settings : CallbackSettings) : List (List Char) :=
  ((settings.taskCallbackAllowedHosts.toList.splitOn ',').map strip).filter (· ≠ [])

section Hosts

variable (U : Unicode)

/-- `text.rstrip(".")` -/
def stripDots (text : List Char) : List Char :=
  (text.reverse.dropWhile (· = '.')).reverse

/-- `_HOST_LABEL.fullmatch(label)` -/
def isHostLabel (label : List Char) : Bool :=
  let isLetterOrDigit := fun c : Char => c.isLower || c.isDigit
  0 < label.length && label.length ≤ 63 && label.all (fun c => isLetterOrDigit c || c = '-') &&
    label.head?.all isLetterOrDigit && label.getLast?.all isLetterOrDigit

def normalizeHostname (hostname : List Char) : Except CallbackError (List Char) :=
  let candidate := U.toLower (stripDots hostname)
  if candidate = [] ∨ '%' ∈ candidate then
    .error (.callbackUrlValidationError "callback host is missing or malformed")
  else
    match IpAddress.ofString? (String.ofList candidate) with
    | some address => .ok address.compressed.toList
    | none =>
      match U.toIdna candidate with
      | none => .error (.callbackUrlValidationError "callback host is malformed")
      | some candidate =>
        if 253 < candidate.length ∨
            (candidate.splitOn '.').any (fun label => !isHostLabel label) then
          .error (.callbackUrlValidationError "callback host is malformed")
        else .ok candidate

def isLocalhostName (hostname : List Char) : Bool :=
  hostname = "localhost".toList || ".localhost".toList.isSuffixOf hostname

def allowedHost (hostname : List Char) : List (List Char) -> Except CallbackError Bool
  | [] => .ok false
  | configured :: rest =>
    let pattern := stripDots (U.toLower (strip configured))
    if pattern = [] then allowedHost hostname rest
    else if "*.".toList.isPrefixOf pattern then
      let suffix := pattern.drop 1
      if suffix.isSuffixOf hostname ∧ hostname ≠ suffix.drop 1 then .ok true
      else allowedHost hostname rest
    else
      match normalizeHostname U pattern with
      | .error error => .error error
      | .ok normal => if hostname = normal then .ok true else allowedHost hostname rest

/-- `not configured_hosts or _allowed_host(hostname, configured_hosts)` -/
def hostAllowed (hostname : List Char) (configuredHosts : List (List Char)) :
    Except CallbackError Bool :=
  if configuredHosts = [] then .ok true else allowedHost U hostname configuredHosts

end Hosts

/-- `_NAT64_WELL_KNOWN_PREFIX` -/
def nat64WellKnownPrefix : Network 128 :=
  Ipv6.network [0x64, 0xff9b, 0, 0, 0, 0, 0, 0] 96

/-- `_embedded_ipv4` -/
def embeddedIpv4 (address : BitVec 128) : Option (BitVec 32) :=
  match Ipv6.ipv4Mapped address with
  | some mapped => some mapped
  | none =>
    if nat64WellKnownPrefix.contains address then some (Ipv6.lowBits address) else none

/-- The address that is looked at, which may be embedded in the given one. -/
def candidateOf : IpAddress -> IpAddress
  | .v4 value => .v4 value
  | .v6 value scopeId =>
    match embeddedIpv4 value with
    | some embedded => .v4 embedded
    | none => .v6 value scopeId

def blockedAddressReason (address : IpAddress) : Option String :=
  let candidate := candidateOf address
  if candidate.isLoopback then some "loopback"
  else if candidate.isPrivate then some "private"
  else if candidate.isLinkLocal then some "link-local"
  else if candidate.isMulticast then some "multicast"
  else if candidate.isUnspecified then some "unspecified"
  else if candidate.isReserved ∨ ¬ candidate.isGlobal then some "reserved or non-public"
  else none

/-- What the name service answers to one lookup, by host and port.  There is no
answer when the lookup raises an `OSError`. -/
abbrev Lookup : Type := List Char -> Nat -> Option (List String)

def answeredAddress (answer : String) : Except CallbackError IpAddress :=
  match IpAddress.ofString? answer with
  | some address => .ok address
  | none => .error (.callbackUrlValidationError "callback DNS returned a malformed address")

def resolveCallbackAddresses (lookup : Lookup) (hostname : List Char) (port : Nat) :
    Except CallbackError (List IpAddress) :=
  match IpAddress.ofString? (String.ofList hostname) with
  | some address => .ok [address]
  | none =>
    match lookup hostname port with
    | none => .error (.callbackUrlValidationError "callback host could not be resolved")
    | some answers => do
        let addresses ← answers.mapM answeredAddress
        raiseIf (addresses = [])
          (.callbackUrlValidationError "callback host did not resolve to an address")
        .ok addresses.eraseDups

/-- What `_parse_callback_url` finds in a URL. -/
structure CallbackUrl where
  scheme : List Char
  hostname : List Char
  port : Nat

section Validation

variable (U : Unicode) (settings : CallbackSettings)

def parseCallbackUrl (callbackUrl : String) : Except CallbackError CallbackUrl := do
  raiseIf (callbackUrl = "" ∨ callbackUrl.toList ≠ strip callbackUrl.toList ∨
      500 < callbackUrl.length)
    (.callbackUrlValidationError "callback URL is missing, malformed, or too long")
  match urlSplit U callbackUrl.toList with
  | none => .error (.callbackUrlValidationError "callback URL is malformed")
  | some parsed =>
    match parsed.port with
    | none => .error (.callbackUrlValidationError "callback URL is malformed")
    | some port =>
      raiseIf (parsed.scheme ≠ "http".toList ∧ parsed.scheme ≠ "https".toList)
        (.callbackUrlValidationError "callback URL scheme must be http or https")
      raiseIf (parsed.hasCredentials = true)
        (.callbackUrlValidationError "callback URL must not contain credentials")
      match parsed.hostname U with
      | none => .error (.callbackUrlValidationError "callback host is missing or malformed")
      | some hostname =>
        raiseIf (parsed.fragment ≠ [])
          (.callbackUrlValidationError "callback URL must not contain a fragment")
        raiseIf (port = some 0)
          (.callbackUrlValidationError "callback URL port must be between 1 and 65535")
        let hostname ← normalizeHostname U hostname
        .ok ⟨parsed.scheme, hostname,
          port.getD (if parsed.scheme = "https".toList then 443 else 80)⟩

def developmentLocalhostAllowed (hostname : List Char) (allowLocalhost : Option Bool)
    (environment : Environment) : Bool :=
  allowLocalhost.getD settings.taskCallbackAllowLocalhost && environment = .development &&
    isLocalhostName hostname

def prohibitedReason (allowDevelopmentLocalhost : Bool) (address : IpAddress) : Option String :=
  (blockedAddressReason address).filter (fun reason =>
    !(allowDevelopmentLocalhost && reason = "loopback"))

/-- `validate_callback_url`, with the addresses that were checked. -/
def validateCallbackUrl (lookup : Lookup) (callbackUrl : String)
    (allowedHosts : Option (List (List Char)) := none) (allowLocalhost : Option Bool := none)
    (environment : Option Environment := none) : Except CallbackError (String × List IpAddress) := do
  let parsed ← parseCallbackUrl U callbackUrl
  let currentEnvironment := environment.getD settings.environment
  raiseIf (currentEnvironment = .production ∧ parsed.scheme ≠ "https".toList)
    (.callbackUrlValidationError "production callbacks must use https")
  let configuredHosts := allowedHosts.getD settings.parsedTaskCallbackAllowedHosts
  let allowDevelopmentLocalhost :=
    developmentLocalhostAllowed settings parsed.hostname allowLocalhost currentEnvironment
  let allowed ← hostAllowed U parsed.hostname configuredHosts
  raiseIf (allowed = false ∧ allowDevelopmentLocalhost = false)
    (.callbackUrlValidationError "callback host is not in TASK_CALLBACK_ALLOWED_HOSTS")
  raiseIf (isLocalhostName parsed.hostname = true ∧ allowDevelopmentLocalhost = false)
    (.callbackUrlValidationError "localhost callbacks are disabled")
  let addresses ← resolveCallbackAddresses lookup parsed.hostname parsed.port
  match addresses.findSome? (prohibitedReason allowDevelopmentLocalhost) with
  | some reason => .error (.callbackUrlValidationError
      ("callback host resolves to a prohibited " ++ reason ++ " address"))
  | none => .ok (callbackUrl, addresses)

end Validation

/-- An `httpx.AsyncClient` that neither follows redirects nor uses proxies. -/
structure HttpClient where
  /-- The host and the port that the client takes from a URL, or the message of
  an `InvalidURL`. -/
  target : String -> Except String (List Char × Nat)
  /-- To which of the addresses of a host it opens connections. -/
  dials : List IpAddress -> List IpAddress
  /-- The status of the response, or the text of an `HTTPError`. -/
  exchange : List IpAddress -> Except String Int
  /-- The text of the error that `raise_for_status` raises for a status. -/
  statusError : Int -> Option String

def addressesAtConnect (lookup : Lookup) (target : List Char × Nat) : List IpAddress :=
  match IpAddress.ofString? (String.ofList target.1) with
  | some address => [address]
  | none => ((lookup target.1 target.2).getD []).filterMap IpAddress.ofString?

/-- A call of `deliver_callback`: the addresses that were checked, those that
were connected to, and how it ended. -/
structure Delivery where
  checked : List IpAddress
  connected : List IpAddress
  result : Except CallbackError Unit

def HttpClient.finish (client : HttpClient) (connected : List IpAddress) : Except CallbackError Unit :=
  match client.exchange connected with
  | .error text => .error (.callbackDeliveryError ("callback HTTP delivery failed: " ++ text))
  | .ok status =>
    if 300 ≤ status ∧ status < 400 then
      .error (.callbackDeliveryError "callback returned a redirect; redirects are not followed")
    else
      match client.statusError status with
      | some text => .error (.callbackDeliveryError ("callback HTTP delivery failed: " ++ text))
      | none => .ok ()

/-- `deliver_callback`, with the answers to the successive lookups of the call. -/
def deliverCallback (U : Unicode) (settings : CallbackSettings) (lookups : Nat -> Lookup)
    (client : HttpClient) (callbackUrl : String) : Delivery :=
  match validateCallbackUrl U settings (lookups 0) callbackUrl with
  | .error error => ⟨[], [], .error error⟩
  | .ok (validatedUrl, checked) =>
    match client.target validatedUrl with
    | .error message => ⟨checked, [], .error (.invalidUrl message)⟩
    | .ok target =>
      let connected := client.dials (addressesAtConnect (lookups 1) target)
      ⟨checked, connected, client.finish connected⟩

end Security
end ZepGpu
