/-
The connections that one request to an external MCP endpoint may open: the endpoint is
resolved and checked once, and the network backend of the request is pinned to the answer.
-/

import Mathlib.Data.List.Sort
import Mathlib.Data.List.Dedup
import Mathlib.Data.List.DropRight
import Mathlib.Data.String.Basic

namespace FolioLattice.External

/-! ### What the request asks of the platform -/

/-- `urllib.parse.urlsplit`; the port is `none` where reading it is a `ValueError`. -/
structure SplitUrl where
  scheme : String
  netloc : String
  username : Option String
  password : Option String
  query : String
  fragment : String
  path : String
  port : Option (Option Nat)
  hostname : Option String

/-- URLs, the IDNA codec and `ipaddress`.  `none` is a `ValueError`. -/
structure Platform where
  Address : Type
  urlsplit : String → Option SplitUrl
  encodeIdna : String → Option String
  ipAddress : String → Option Address
  addressText : Address → String
  isGlobal : Address → Bool

/-- One entry of the resolver's answer, by what reading it gives. -/
inductive AddressInfo where
  /-- fewer than five items, or no socket address -/
  | skipped
  /-- `str(info[4][0])` -/
  | socket (address : String)
  /-- an `IndexError` or a `ValueError` -/
  | malformed
  /-- an error that is not caught -/
  | raises

inductive Answer where
  | infos (infos : List AddressInfo)
  /-- an `OSError` or a `ValueError` -/
  | unresolved
  /-- an error that is not caught -/
  | raises

/-- The resolver, which may answer each call differently. -/
abbrev Resolver := (calls : Nat) → (host : String) → (port : Nat) → Answer

inductive ConnectOutcome where
  | connected
  /-- an `Exception` -/
  | failed
  /-- a cancellation -/
  | cancelled

/-- The network, which may treat each attempt differently. -/
abbrev Network := (attempts : Nat) → (address : String) → (port : Nat) → ConnectOutcome

inductive EndpointError where
  | external (message : String)
  /-- an error that is not caught -/
  | raises
  deriving DecidableEq

def endpointInvalid : EndpointError := .external "external MCP endpoint is invalid"

def endpointBlocked : EndpointError :=
  .external "external MCP endpoint resolves to a blocked address"

def endpointUnresolved : EndpointError := .external "external MCP endpoint cannot be resolved"

/-! ### Resolving the endpoint -/

variable (platform : Platform)

/-- `text.rstrip(".")` -/
def stripDots (text : String) : String := String.ofList (text.toList.rdropWhile (· = '.'))

/-- `host.encode("idna").decode("ascii").lower().rstrip(".")` -/
def Platform.canonicalHost (host : String) : Option String :=
  (platform.encodeIdna host).map (fun text => stripDots text.toLower)

/-- `text.split("%", 1)[0]` -/
def withoutZone (text : String) : String := String.ofList (text.toList.takeWhile (· ≠ '%'))

/-- The host and the port, before anything is resolved. -/
def Platform.checkEndpoint (endpoint : String) : Except EndpointError (String × Nat) :=
  match platform.urlsplit endpoint with
  | none => .error .raises
  | some parsed =>
      if parsed.scheme ≠ "https" ∨ parsed.netloc = "" ∨ parsed.username ≠ none ∨
          parsed.password ≠ none ∨ parsed.query ≠ "" ∨ parsed.fragment ≠ "" ∨
          parsed.path = "" then .error endpointInvalid
      else
        match parsed.port, parsed.hostname with
        | none, _ => .error endpointInvalid
        | _, none => .error endpointInvalid
        | some port, some host =>
            match platform.canonicalHost host with
            | none => .error endpointInvalid
            | some canonical =>
                if canonical = "" then .error endpointInvalid
                else if canonical = "localhost" ∨ ".localhost".toList <:+ canonical.toList then
                  .error endpointBlocked
                else .ok (canonical, port.getD 443)

/-- The text of one entry, if it is not skipped. -/
def Platform.infoText : AddressInfo → Except EndpointError (Option String)
  | .skipped => .ok none
  | .socket address =>
      match platform.ipAddress (withoutZone address) with
      | none => .error endpointUnresolved
      | some literal => .ok (some (platform.addressText literal))
  | .malformed => .error endpointUnresolved
  | .raises => .error .raises

/-- `tuple(sorted({...}))` -/
def Platform.readInfos (infos : List AddressInfo) : Except EndpointError (List String) :=
  match infos.mapM platform.infoText with
  | .error e => .error e
  | .ok texts => .ok ((texts.filterMap id).dedup.insertionSort (· ≤ ·))

def Platform.readAnswer : Answer → Except EndpointError (List String)
  | .unresolved => .error endpointUnresolved
  | .raises => .error .raises
  | .infos infos => platform.readInfos infos

/-- `not ipaddress.ip_address(address).is_global` for any of the addresses -/
def Platform.anyBlocked : List String → Except EndpointError Bool
  | [] => .ok false
  | address :: rest =>
      match platform.ipAddress address with
      | none => .error .raises
      | some literal => if platform.isGlobal literal then anyBlocked rest else .ok true

/-- A host with the addresses that were checked. -/
structure ResolvedHost where
  host : String
  addresses : List String

def Platform.admitAddresses (host : String) (addresses : List String) :
    Except EndpointError ResolvedHost :=
  if addresses = [] then .error endpointBlocked
  else
    match platform.anyBlocked addresses with
    | .error e => .error e
    | .ok true => .error endpointBlocked
    | .ok false => .ok ⟨host, addresses⟩

/-- `_resolve_endpoint`, after so many calls of the resolver, and the calls that it adds. -/
def Platform.resolveEndpoint (resolver : Resolver) (consults : List (String × Nat))
    (endpoint : String) : Except EndpointError ResolvedHost × List (String × Nat) :=
  match platform.checkEndpoint endpoint with
  | .error e => (.error e, consults)
  | .ok (host, port) =>
      match platform.ipAddress host with
      | some literal => (platform.admitAddresses host [platform.addressText literal], consults)
      | none =>
          match platform.readAnswer (resolver consults.length host port) with
          | .error e => (.error e, consults ++ [(host, port)])
          | .ok addresses => (platform.admitAddresses host addresses, consults ++ [(host, port)])

/-! ### Connecting -/

/-- What the HTTP stack asks of its network backend. -/
structure ConnectRequest where
  host : String
  port : Nat

/-- A request of the HTTP stack and the addresses that were tried for it. -/
structure Attempt where
  request : ConnectRequest
  tried : List String

/-- `for address in addresses`: the next one is tried when one fails. -/
def tryAddresses (network : Network) (port : Nat) : (attempts : Nat) → List String → List String
  | _, [] => []
  | attempts, address :: rest =>
      match network attempts address port with
      | .failed => address :: tryAddresses network port (attempts + 1) rest
      | _ => [address]

/-- `PinnedBackend.connect_tcp` -/
def Platform.connectTcp (network : Network) (pinned : ResolvedHost) (attempts : Nat)
    (request : ConnectRequest) : List String :=
  if platform.canonicalHost request.host = some pinned.host then
    tryAddresses network request.port attempts pinned.addresses
  else []

def Platform.connectAll (network : Network) (pinned : ResolvedHost) :
    (attempts : Nat) → List ConnectRequest → List Attempt
  | _, [] => []
  | attempts, request :: rest =>
      let tried := platform.connectTcp network pinned attempts request
      ⟨request, tried⟩ :: connectAll network pinned (attempts + tried.length) rest

/-- What one `_request` does outside. -/
structure Outbound where
  consults : List (String × Nat)
  attempts : List Attempt

/-- `_request` without an injected transport, for the requests that the HTTP stack makes of
the network backend; building the transport may fail. -/
def Platform.request (resolver : Resolver) (network : Network) (transportBuilt : Bool)
    (endpoint : String) (connects : List ConnectRequest) : Outbound :=
  match platform.resolveEndpoint resolver [] endpoint with
  | (.error _, consults) => ⟨consults, []⟩
  | (.ok pinned, consults) =>
      ⟨consults, if transportBuilt then platform.connectAll network pinned 0 connects else []⟩

/-! ### What is tried -/

variable {platform}

theorem tryAddresses_mem {network : Network} {port attempts : Nat} {addresses : List String}
    {address : String} (member : address ∈ tryAddresses network port attempts addresses) :
    address ∈ addresses := by
  induction addresses generalizing attempts with
  | nil => cases member
  | cons first rest ih =>
      rw [tryAddresses] at member
      split at member
      · rcases List.mem_cons.mp member with same | later
        · exact same ▸ List.mem_cons_self
        · exact List.mem_cons_of_mem _ (ih later)
      · exact List.mem_singleton.mp member ▸ List.mem_cons_self

/-- An address is tried only for the pinned host. -/
theorem connectTcp_mem {network : Network} {pinned : ResolvedHost} {attempts : Nat}
    {request : ConnectRequest} {address : String}
    (member : address ∈ platform.connectTcp network pinned attempts request) :
    platform.canonicalHost request.host = some pinned.host ∧ address ∈ pinned.addresses := by
  unfold Platform.connectTcp at member
  split at member
  · rename_i same
    exact ⟨same, tryAddresses_mem member⟩
  · cases member

theorem connectAll_mem {network : Network} {pinned : ResolvedHost} {attempts : Nat}
    {connects : List ConnectRequest} {attempt : Attempt}
    (member : attempt ∈ platform.connectAll network pinned attempts connects) {address : String}
    (tried : address ∈ attempt.tried) :
    platform.canonicalHost attempt.request.host = some pinned.host ∧
      address ∈ pinned.addresses := by
  induction connects generalizing attempts with
  | nil => cases member
  | cons request rest ih =>
      rcases List.mem_cons.mp member with here | later
      · rw [here] at tried ⊢
        exact connectTcp_mem tried
      · exact ih later

/-! ### What is pinned -/

/-- A text that names an address which is globally routable. -/
def Platform.GloballyRoutable (platform : Platform) (address : String) : Prop :=
  ∃ literal, platform.ipAddress address = some literal ∧ platform.isGlobal literal = true

/-- The addresses of the answer for a host: the host itself, if it is an IP literal, and what
the first call of the resolver gives otherwise. -/
def Platform.AnsweredBy (platform : Platform) (resolver : Resolver) (host : String) (port : Nat)
    (addresses : List String) : Prop :=
  match platform.ipAddress host with
  | some literal => addresses = [platform.addressText literal]
  | none => platform.readAnswer (resolver 0 host port) = .ok addresses

theorem anyBlocked_false {addresses : List String}
    (free : platform.anyBlocked addresses = .ok false) :
    ∀ address ∈ addresses, platform.GloballyRoutable address := by
  induction addresses with
  | nil => exact fun _ member => absurd member List.not_mem_nil
  | cons first rest ih =>
      rw [Platform.anyBlocked] at free
      cases parsed : platform.ipAddress first with
      | none =>
          rw [parsed] at free
          cases free
      | some literal =>
          rw [parsed] at free
          by_cases global : platform.isGlobal literal = true
          · simp only [if_pos global] at free
            intro address member
            rcases List.mem_cons.mp member with same | later
            · exact ⟨literal, same ▸ parsed, global⟩
            · exact ih free address later
          · simp only [if_neg global] at free
            cases free

theorem admitAddresses_ok {host : String} {addresses : List String} {pinned : ResolvedHost}
    (admitted : platform.admitAddresses host addresses = .ok pinned) :
    pinned = ⟨host, addresses⟩ ∧ ∀ address ∈ addresses, platform.GloballyRoutable address := by
  unfold Platform.admitAddresses at admitted
  split at admitted
  · cases admitted
  · cases blocked : platform.anyBlocked addresses with
    | error e =>
        rw [blocked] at admitted
        cases admitted
    | ok found =>
        rw [blocked] at admitted
        cases found with
        | true => cases admitted
        | false =>
            cases admitted
            exact ⟨rfl, anyBlocked_false blocked⟩

/-- The resolver is called once for a checked host that is not an IP literal, and else never. -/
theorem resolveEndpoint_consults (resolver : Resolver) (endpoint : String) :
    (platform.resolveEndpoint resolver [] endpoint).2 =
      match platform.checkEndpoint endpoint with
      | .error _ => []
      | .ok (host, port) => if (platform.ipAddress host).isSome then [] else [(host, port)] := by
  unfold Platform.resolveEndpoint
  cases platform.checkEndpoint endpoint with
  | error e => rfl
  | ok checked =>
      obtain ⟨host, port⟩ := checked
      simp only
      cases platform.ipAddress host with
      | some literal => rfl
      | none => cases platform.readAnswer (resolver ([] : List (String × Nat)).length host port) <;> rfl

theorem resolveEndpoint_ok {resolver : Resolver} {endpoint : String} {pinned : ResolvedHost}
    (resolved : (platform.resolveEndpoint resolver [] endpoint).1 = .ok pinned) :
    ∃ port, platform.checkEndpoint endpoint = .ok (pinned.host, port) ∧
      platform.AnsweredBy resolver pinned.host port pinned.addresses ∧
      ∀ address ∈ pinned.addresses, platform.GloballyRoutable address := by
  unfold Platform.resolveEndpoint at resolved
  cases checked : platform.checkEndpoint endpoint with
  | error e =>
      rw [checked] at resolved
      cases resolved
  | ok checkedHost =>
      obtain ⟨host, port⟩ := checkedHost
      rw [checked] at resolved
      simp only at resolved
      cases literal : platform.ipAddress host with
      | some address =>
          rw [literal] at resolved
          simp only at resolved
          obtain ⟨same, global⟩ := admitAddresses_ok resolved
          rw [same]
          refine ⟨port, rfl, ?_, global⟩
          unfold Platform.AnsweredBy
          rw [literal]
      | none =>
          rw [literal] at resolved
          simp only at resolved
          cases answer : platform.readAnswer (resolver ([] : List (String × Nat)).length host port) with
          | error e =>
              rw [answer] at resolved
              cases resolved
          | ok addresses =>
              rw [answer] at resolved
              obtain ⟨same, global⟩ := admitAddresses_ok resolved
              rw [same]
              refine ⟨port, rfl, ?_, global⟩
              unfold Platform.AnsweredBy
              rw [literal]
              exact answer

/-! ### One request -/

/-- In every request the resolver is consulted once for an endpoint that passes the checks
and whose host is not an IP literal, and for no other; an address is tried only for the
endpoint's own host, is one of the addresses of that answer, and all of them are globally
routable. -/
theorem request_pinned (platform : Platform) (resolver : Resolver) (network : Network)
    (transportBuilt : Bool) (endpoint : String) (connects : List ConnectRequest) :
    ((platform.request resolver network transportBuilt endpoint connects).consults =
      match platform.checkEndpoint endpoint with
      | .error _ => []
      | .ok (host, port) => if (platform.ipAddress host).isSome then [] else [(host, port)]) ∧
    ∀ attempt ∈ (platform.request resolver network transportBuilt endpoint connects).attempts,
      ∀ address ∈ attempt.tried, ∃ host port addresses,
        platform.checkEndpoint endpoint = .ok (host, port) ∧
        platform.canonicalHost attempt.request.host = some host ∧
        platform.AnsweredBy resolver host port addresses ∧ address ∈ addresses ∧
        ∀ other ∈ addresses, platform.GloballyRoutable other := by
  have consulted := @resolveEndpoint_consults platform resolver endpoint
  unfold Platform.request
  cases resolved : platform.resolveEndpoint resolver [] endpoint with
  | mk answer consults =>
      rw [resolved] at consulted
      cases answer with
      | error e => exact ⟨consulted, fun _ member => absurd member List.not_mem_nil⟩
      | ok pinned =>
          refine ⟨consulted, ?_⟩
          intro attempt member address tried
          have whole : (platform.resolveEndpoint resolver [] endpoint).1 = .ok pinned := by
            rw [resolved]
          obtain ⟨port, checked, answered, global⟩ := resolveEndpoint_ok whole
          simp only at member
          split at member
          · obtain ⟨same, inside⟩ := connectAll_mem member tried
            exact ⟨pinned.host, port, pinned.addresses, checked, same, answered, inside, global⟩
          · cases member

/-! ### An endpoint that is refused at once -/

def plainEndpoint : String := "http://mcp.example/mcp"

/-- A platform that knows the parts of one URL and no addresses. -/
def plainPlatform : Platform where
  Address := Unit
  urlsplit url := if url = plainEndpoint then
    some ⟨"http", "mcp.example", none, none, "", "", "/mcp", some none, some "mcp.example"⟩ else none
  encodeIdna host := some host
  ipAddress _ := none
  addressText _ := ""
  isGlobal _ := false

/-- Without TLS there is no call of the resolver, although the host is no IP literal. -/
theorem request_not_always_resolved :
    ¬∀ (platform : Platform) (resolver : Resolver) (network : Network) (transportBuilt : Bool)
        (endpoint : String) (connects : List ConnectRequest),
      (platform.request resolver network transportBuilt endpoint connects).consults.length = 1 ∨
        ∃ host port, platform.checkEndpoint endpoint = .ok (host, port) ∧
          (platform.ipAddress host).isSome := by
  intro always
  rcases always plainPlatform (fun _ _ _ => .infos []) (fun _ _ _ => .failed) true plainEndpoint []
    with once | ⟨host, port, _, literal⟩
  · have never : (plainPlatform.request (fun _ _ _ => .infos []) (fun _ _ _ => .failed) true
        plainEndpoint []).consults.length = 0 := by decide
    omega
  · cases literal

end FolioLattice.External
