import Gpucall.Dispatcher.Execute
import Gpucall.Execution.DataRefFetch
import Gpucall.Execution.WorkerMessages
import Gpucall.Lib.Runs

/-! `worker_contracts/io.py`: what a worker asks of the network for the references of a payload. A name is
looked up once, and the connection goes to the address that was checked. -/

namespace Gpucall

open Effects

/-! ## The netloc of a URL -/

namespace ParseResult

variable (parsed : ParseResult)

/-- `netloc.rpartition("@")[2]` -/
def hostinfo : List Char := (parsed.netloc.reverse.takeWhile (· ≠ '@')).reverse

def userinfo : List Char := parsed.netloc.take (parsed.netloc.length - parsed.hostinfo.length - 1)

def username : List Char := parsed.userinfo.takeWhile (· ≠ ':')

def password : List Char := (parsed.userinfo.dropWhile (· ≠ ':')).drop 1

/-- `_hostinfo`, the host and the port -/
def hostPort : List Char × List Char :=
  match parsed.hostinfo.dropWhile (· ≠ '[') with
  | _ :: bracketed =>
    let rest := (bracketed.dropWhile (· ≠ ']')).drop 1
    (bracketed.takeWhile (· ≠ ']'), (rest.dropWhile (· ≠ ':')).drop 1)
  | [] => (parsed.hostinfo.takeWhile (· ≠ ':'), (parsed.hostinfo.dropWhile (· ≠ ':')).drop 1)

/-- The zone of an address keeps its case. -/
def hostname (lower : String → String) : Option String :=
  let host := parsed.hostPort.1
  if host = [] then none
  else some (lower (String.ofList (host.takeWhile (· ≠ '%'))) ++ String.ofList (host.dropWhile (· ≠ '%')))

def port (repr : String → String) : Except String (Option ℕ) :=
  let text := parsed.hostPort.2
  if text = [] then .ok none
  else if !text.all Char.isDigit then
    .error ("Port could not be cast to integer value as " ++ repr (String.ofList text))
  else
    let port := text.foldl (fun n c => 10 * n + (c.toNat - 48)) 0
    if 65535 < port then .error "Port out of range 0-65535" else .ok (some port)

end ParseResult

/-! ## The worker -/

/-- What `ipaddress` says of an address -/
structure IpAddress where
  isPrivate : Bool
  isLoopback : Bool
  isLinkLocal : Bool
  isMulticast : Bool
  isReserved : Bool
  isUnspecified : Bool

def IpAddress.disallowed (address : IpAddress) : Bool :=
  address.isPrivate || address.isLoopback || address.isLinkLocal || address.isMulticast || address.isReserved ||
    address.isUnspecified

structure WorkerHost where
  env : Environment
  fetch : FetchHost
  /-- `GPUCALL_WORKER_DATAREF_ALLOWED_HOSTS` -/
  datarefAllowedHosts : String := ""
  /-- `AWS_ENDPOINT_URL_S3` or `R2_ENDPOINT_URL` -/
  endpointUrl : Option String := none
  region : Option String := none
  /-- `ipaddress.ip_address`, if it takes the text -/
  ipAddress : String → Option IpAddress
  /-- The message with which `urlparse` refuses a URL for its netloc -/
  netlocRefusal : String → Option String := fun _ => none
  /-- The message of a `UnicodeDecodeError` -/
  undecodable : List ℕ → String := fun _ => ""

inductive WorkerOp where
  | getaddrinfo (host : String) (port : ℕ)
  /-- The request over a connection to `pinnedIp` that follows no redirect -/
  | openPinned (pinnedIp uri : String)
  | getObject (endpointUrl region : Option String) (bucket key : String)

/-- An answer without addresses is a `gaierror`. -/
def WorkerOp.Res : WorkerOp → Type
  | .getaddrinfo .. => Option (List String)
  | .openPinned .. => DataRefResponse
  | .getObject .. => BodyStream

abbrev WorkerProg := Prog WorkerOp WorkerOp.Res String

abbrev WorkerEvent := Event WorkerOp WorkerOp.Res String

def getaddrinfo (host : String) (port : ℕ) : WorkerProg (Option (List String)) :=
  .perform (WorkerOp.getaddrinfo host port)

def openPinned (pinnedIp uri : String) : WorkerProg DataRefResponse :=
  .perform (WorkerOp.openPinned pinnedIp uri)

def getObject (endpointUrl region : Option String) (bucket key : String) : WorkerProg BodyStream :=
  .perform (WorkerOp.getObject endpointUrl region bucket key)

namespace WorkerHost

variable (w : WorkerHost)

def allowedHosts : List String :=
  (((w.datarefAllowedHosts.toList.splitOn ',').map fun item => w.env.strip (String.ofList item)).filter
    (· ≠ "")).map w.env.lower

/-- An address that `ip_address` does not take is not looked at. -/
def disallowed (address : String) : Bool := (w.ipAddress address).any IpAddress.disallowed

def portOf (parsed : ParseResult) (port : Option ℕ) : ℕ :=
  match port with
  | some (n + 1) => n + 1
  | _ => if parsed.scheme = "https".toList then 443 else 80

/-- What `_validate_http_ref_uri` looks up -/
def httpRefHost (parsed : ParseResult) : Except String (String × ℕ) :=
  if parsed.username ≠ [] ∨ parsed.password ≠ [] then .error "http(s) data refs must not include URI userinfo"
  else
    match parsed.hostname w.env.lower with
    | none => .error "http(s) data refs must include a host"
    | some host =>
      if w.allowedHosts = [] then .error "http(s) data refs require GPUCALL_WORKER_DATAREF_ALLOWED_HOSTS"
      else if w.env.lower host ∉ w.allowedHosts then
        .error "http(s) data ref host is not in GPUCALL_WORKER_DATAREF_ALLOWED_HOSTS"
      else (parsed.port w.env.repr).map fun port => (host, portOf parsed port)

/-- What `_validate_http_ref_uri` makes of the answer -/
def pinnedAddress (host : String) : Option (List String) → Except String String
  | none | some [] => .error ("could not resolve data ref host: " ++ host)
  | some (address :: addresses) =>
    if (address :: addresses).any w.disallowed then
      .error "http(s) data ref host resolves to non-public or disallowed addresses only"
    else .ok address

def validateHttpRefUri (parsed : ParseResult) : WorkerProg String := do
  let looked ← .done (w.httpRefHost parsed)
  let answer ← getaddrinfo looked.1 looked.2
  .done (w.pinnedAddress looked.1 answer)

/-- The endpoint of `_fetch_s3_ref_bytes` -/
def objectEndpoint (ref : DataRef) : Option String :=
  if truthyStr ref.endpointUrl then ref.endpointUrl else w.endpointUrl

def objectRegion (ref : DataRef) : Option String := if truthyStr ref.region then ref.region else w.region

def fetchS3RefBytes (bucket key : List Char) (maxBytes : ℤ) (ref : DataRef) : WorkerProg (List ℕ) :=
  if bucket = [] ∨ key = [] then throw "s3 data ref must include bucket and key"
  else do
    let stream ← getObject (w.objectEndpoint ref) (w.objectRegion ref) (String.ofList bucket) (String.ofList key)
    .done (s3ReadLoop maxBytes stream.ready 0 stream.bytes [] 0)

/-- What is read of a response -/
def responseBody (maxBytes : ℤ) (response : DataRefResponse) : Except String (List ℕ) :=
  if response.status ≠ 200 then .error ("data ref fetch failed with HTTP " ++ toString response.status)
  else .ok (readBytes (maxBytes + 1) response.body.length response.body)

def fetchHttpRefBytes (parsed : ParseResult) (maxBytes : ℤ) (ref : DataRef) : WorkerProg (List ℕ) := do
  let pinnedIp ← w.validateHttpRefUri parsed
  let response ← openPinned pinnedIp ref.uri
  .done (responseBody maxBytes response)

/-- The two branches of `fetch_data_ref_bytes` -/
def fetchRefBody (parsed : ParseResult) (maxBytes : ℤ) (ref : DataRef) : WorkerProg (List ℕ) :=
  if parsed.scheme = "s3".toList then
    if w.fetch.ambientS3Allowed = false then throw "s3 data refs require gateway-presigned worker capability"
    else w.fetchS3RefBytes parsed.netloc (parsed.path.dropWhile (· = '/')) maxBytes ref
  else if parsed.scheme ∉ ["http".toList, "https".toList] then
    throw ("unsupported data ref scheme: " ++ String.ofList parsed.scheme)
  else if ref.gatewayPresigned = false then throw "http(s) data refs must be gateway-presigned"
  else w.fetchHttpRefBytes parsed maxBytes ref

/-- `urlparse`, if it takes the netloc -/
def parseUri (uri : String) : Except String ParseResult :=
  match w.netlocRefusal uri with
  | some message => .error message
  | none => .ok (urlparse uri.toList)

def fetchDataRefBytes (ref : DataRef) : WorkerProg (List ℕ) := do
  let maxBytes ← .done (maxRefBytes w.fetch.workerMaxRefBytes (FetchHost.declaredBytes ref))
  let parsed ← .done (w.parseUri ref.uri)
  let body ← w.fetchRefBody parsed maxBytes ref
  .done (w.fetch.checkedBody maxBytes ref body)

def hexOfBytes (body : List ℕ) : String :=
  String.ofList (body.flatMap fun b => [Json.hexDigit (b / 16), Json.hexDigit (b % 16)])

/-- `_decode_ref_body` -/
def decodeRefBody (body : List ℕ) (ref : DataRef) : Except String String := do
  verifyRefSha256 w.fetch.sha256 body ref
  let contentType := w.env.lower (ref.contentType.getD "")
  if contentType ≠ "" && !(startswith contentType "text/" || containsStr contentType "json") then
    return hexOfBytes body
  match w.fetch.decodeUtf8 body with
  | some text => return text
  | none => throw (w.undecodable body)

def fetchDataRefText (ref : DataRef) : WorkerProg String := do
  let body ← w.fetchDataRefBytes ref
  .done (w.decodeRefBody body ref)

/-- The parts of a prompt that the payload itself holds -/
def ownParts (payload : PlanPayload) : List String :=
  if !payload.messages.isEmpty then (payloadMessages w.env payload).map (·.content)
  else
    match payload.inlineInputs.lookup "prompt" with
    | some prompt => [prompt.value]
    | none => payload.inlineInputs.map fun item => item.2.value

def promptFromPayload (payload : PlanPayload) : WorkerProg String := do
  let texts ← payload.inputRefs.mapM w.fetchDataRefText
  return joinParts (w.ownParts payload ++ texts)

/-! ## What is asked of the network -/

/-- The gateway has signed the reference, and its host is one of those that are allowed. -/
structure LooksUp (ref : DataRef) (host : String) (port : ℕ) : Prop where
  presigned : ref.gatewayPresigned = true
  scheme : (urlparse ref.uri.toList).scheme ∈ ["http".toList, "https".toList]
  userinfo : (urlparse ref.uri.toList).username = [] ∧ (urlparse ref.uri.toList).password = []
  hostname : (urlparse ref.uri.toList).hostname w.env.lower = some host
  allowed : w.env.lower host ∈ w.allowedHosts
  port : ∃ given, (urlparse ref.uri.toList).port w.env.repr = .ok given ∧
    port = portOf (urlparse ref.uri.toList) given

/-- The calls for one reference. A connection goes to the first address that the lookup gave, none of which is
disallowed; there is no second lookup. -/
inductive RefCalls (ref : DataRef) : List WorkerEvent → Prop where
  | nil : RefCalls ref []
  | lookup {host port} (answer) : w.LooksUp ref host port →
    RefCalls ref [⟨.getaddrinfo host port, answer⟩]
  | fetch {host port} {address : String} {addresses : List String} (answer) : w.LooksUp ref host port →
    (∀ other ∈ address :: addresses, w.disallowed other = false) →
    RefCalls ref [⟨.getaddrinfo host port, .ok (some (address :: addresses))⟩,
      ⟨.openPinned address ref.uri, answer⟩]
  | object {bucket key} (answer) : w.fetch.ambientS3Allowed = true →
    (urlparse ref.uri.toList).scheme = "s3".toList →
    RefCalls ref [⟨.getObject (w.objectEndpoint ref) (w.objectRegion ref) bucket key, answer⟩]

/-- What the calls for a reference have brought -/
inductive Brings (ref : DataRef) : List WorkerEvent → List ℕ → Prop where
  | http {lookup address body} : Brings ref [lookup, ⟨.openPinned address ref.uri, .ok { body }⟩] body
  | object {endpoint region bucket key} {stream : BodyStream} :
    Brings ref [⟨.getObject endpoint region bucket key, .ok stream⟩] stream.bytes

/-- The text of a reference is that of a body within the limits and with the declared digest. -/
def BringsText (ref : DataRef) (calls : List WorkerEvent) (text : String) : Prop :=
  ∃ body, Brings ref calls body ∧ (body.length : ℤ) ≤ w.fetch.workerMaxRefBytes ∧
    FetchHost.WithinDeclared ref body ∧ w.fetch.HasDigest ref body ∧ w.decodeRefBody body ref = .ok text

variable {w} {ref : DataRef} {parsed : ParseResult} {host : String} {port : ℕ} {maxBytes : ℤ}
  {calls : List WorkerEvent} {payload : PlanPayload}

theorem httpRefHost_eq_ok (h : w.httpRefHost parsed = .ok (host, port)) :
    (parsed.username = [] ∧ parsed.password = []) ∧ parsed.hostname w.env.lower = some host ∧
      w.env.lower host ∈ w.allowedHosts ∧
      ∃ given, parsed.port w.env.repr = .ok given ∧ port = portOf parsed given := by
  unfold httpRefHost at h
  split at h
  · cases h
  rename_i huserinfo
  split at h
  · cases h
  rename_i name hname
  split at h
  · cases h
  split at h
  · cases h
  rename_i hallowed
  obtain ⟨given, hgiven, hpair⟩ := Fallible.map_eq_ok.mp h
  cases hpair
  rw [not_or, not_not, not_not] at huserinfo
  exact ⟨huserinfo, hname, not_not.mp hallowed, given, hgiven, rfl⟩

theorem pinnedAddress_eq_ok {answer : Option (List String)} {address : String}
    (h : w.pinnedAddress host answer = .ok address) : ∃ addresses, answer = some (address :: addresses) ∧
      ∀ other ∈ address :: addresses, w.disallowed other = false := by
  unfold pinnedAddress at h
  split at h
  · cases h
  · cases h
  rename_i first addresses
  split at h
  · cases h
  rename_i hpublic
  cases h
  refine ⟨addresses, rfl, fun other hother => ?_⟩
  rw [Bool.not_eq_true, List.any_eq_false] at hpublic
  exact Bool.eq_false_iff.mpr (hpublic other hother)

/-- A validation looks up one name at most. What it returns is the first address of the answer. -/
theorem steps_validateHttpRefUri {q : WorkerProg String} (h : (w.validateHttpRefUri parsed).Steps calls q) :
    (calls = [] ∧ ∀ address, q ≠ .done (.ok address)) ∨ ∃ host port answer,
      w.httpRefHost parsed = .ok (host, port) ∧ calls = [⟨.getaddrinfo host port, answer⟩] ∧
        ∀ address, q = .done (.ok address) →
          ∃ found, answer = .ok found ∧ w.pinnedAddress host found = .ok address := by
  rcases h.of_done_bind with ⟨e, -, rfl, rfl⟩ | ⟨⟨host, port⟩, hhost, h⟩
  · exact .inl ⟨rfl, fun address haddress => by cases haddress⟩
  rcases h.of_call with ⟨rfl, hq⟩ | ⟨e, rfl, rfl⟩ | ⟨found, rest, rfl, hend⟩
  · exact .inl ⟨rfl, hq⟩
  · exact .inr ⟨host, port, .error e, hhost, rfl, fun address haddress => by cases haddress⟩
  · obtain ⟨rfl, rfl⟩ := Prog.Steps.of_done hend
    refine .inr ⟨host, port, .ok found, hhost, rfl, fun address haddress => ?_⟩
    exact ⟨found, rfl, by injection haddress⟩

/-- What has been read when the branches of `fetch_data_ref_bytes` meet -/
inductive Receives (ref : DataRef) (maxBytes : ℤ) : List WorkerEvent → List ℕ → Prop where
  | http {lookup address response body} : responseBody maxBytes response = .ok body →
    Receives ref maxBytes [lookup, ⟨.openPinned address ref.uri, .ok response⟩] body
  | object {endpoint region bucket key} {stream : BodyStream} {body} :
    s3ReadLoop maxBytes stream.ready 0 stream.bytes [] 0 = .ok body →
    Receives ref maxBytes [⟨.getObject endpoint region bucket key, .ok stream⟩] body

theorem steps_fetchS3RefBytes {bucket key : List Char} {q : WorkerProg (List ℕ)}
    (hallowed : w.fetch.ambientS3Allowed = true) (hscheme : (urlparse ref.uri.toList).scheme = "s3".toList)
    (h : (w.fetchS3RefBytes bucket key maxBytes ref).Steps calls q) :
    w.RefCalls ref calls ∧ ∀ body, q = .done (.ok body) → Receives ref maxBytes calls body := by
  unfold fetchS3RefBytes at h
  split at h
  · obtain ⟨rfl, rfl⟩ := Prog.Steps.of_done h
    exact ⟨.nil, fun body hbody => by cases hbody⟩
  rcases h.of_call with ⟨rfl, hq⟩ | ⟨e, rfl, rfl⟩ | ⟨stream, rest, rfl, hend⟩
  · exact ⟨.nil, fun body hbody => absurd hbody (hq body)⟩
  · exact ⟨.object _ hallowed hscheme, fun body hbody => by cases hbody⟩
  · obtain ⟨rfl, rfl⟩ := Prog.Steps.of_done hend
    exact ⟨.object _ hallowed hscheme, fun body hbody => .object (by injection hbody)⟩

theorem steps_fetchHttpRefBytes {q : WorkerProg (List ℕ)} (hpresigned : ref.gatewayPresigned = true)
    (hscheme : (urlparse ref.uri.toList).scheme ∈ ["http".toList, "https".toList])
    (h : (w.fetchHttpRefBytes (urlparse ref.uri.toList) maxBytes ref).Steps calls q) :
    w.RefCalls ref calls ∧ ∀ body, q = .done (.ok body) → Receives ref maxBytes calls body := by
  generalize hparsed : urlparse ref.uri.toList = parsed at h
  have hlooks {host port} (hhost : w.httpRefHost parsed = .ok (host, port)) : w.LooksUp ref host port := by
    obtain ⟨huserinfo, hhostname, hallowed, hport⟩ := httpRefHost_eq_ok hhost
    subst hparsed
    exact ⟨hpresigned, hscheme, huserinfo, hhostname, hallowed, hport⟩
  rcases h.of_bind with ⟨p, hp, rfl, hnot⟩ | ⟨address, es₁, es₂, hp, hrest, rfl⟩
  · refine ⟨?_, fun body hbody => absurd hbody (Prog.bind_ne_ok hnot body)⟩
    rcases steps_validateHttpRefUri hp with ⟨rfl, -⟩ | ⟨host, port, answer, hhost, rfl, -⟩
    · exact .nil
    · exact .lookup answer (hlooks hhost)
  rcases steps_validateHttpRefUri hp with ⟨-, hq⟩ | ⟨host, port, answer, hhost, rfl, hanswer⟩
  · exact absurd rfl (hq address)
  obtain ⟨found, rfl, hpinned⟩ := hanswer address rfl
  obtain ⟨addresses, rfl, hpublic⟩ := pinnedAddress_eq_ok hpinned
  rcases hrest.of_call with ⟨rfl, hq⟩ | ⟨e, rfl, rfl⟩ | ⟨response, rest, rfl, hend⟩
  · exact ⟨.lookup _ (hlooks hhost), fun body hbody => absurd hbody (hq body)⟩
  · exact ⟨.fetch _ (hlooks hhost) hpublic, fun body hbody => by cases hbody⟩
  · obtain ⟨rfl, rfl⟩ := Prog.Steps.of_done hend
    exact ⟨.fetch _ (hlooks hhost) hpublic, fun body hbody => .http (by injection hbody)⟩

theorem steps_fetchRefBody {q : WorkerProg (List ℕ)}
    (h : (w.fetchRefBody (urlparse ref.uri.toList) maxBytes ref).Steps calls q) :
    w.RefCalls ref calls ∧ ∀ body, q = .done (.ok body) → Receives ref maxBytes calls body := by
  have hfails {message} (h : (throw message : WorkerProg (List ℕ)).Steps calls q) :
      w.RefCalls ref calls ∧ ∀ body, q = .done (.ok body) → Receives ref maxBytes calls body := by
    obtain ⟨rfl, rfl⟩ := Prog.Steps.of_done h
    exact ⟨.nil, fun body hbody => by cases hbody⟩
  unfold fetchRefBody at h
  by_cases hs3 : (urlparse ref.uri.toList).scheme = "s3".toList
  · rw [if_pos hs3] at h
    split at h
    · exact hfails h
    · exact steps_fetchS3RefBytes (Bool.eq_true_of_not_eq_false ‹_›) hs3 h
  rw [if_neg hs3] at h
  by_cases hscheme : (urlparse ref.uri.toList).scheme ∈ ["http".toList, "https".toList]
  · rw [if_neg (not_not.mpr hscheme)] at h
    split at h
    · exact hfails h
    · exact steps_fetchHttpRefBytes (Bool.eq_true_of_not_eq_false ‹_›) hscheme h
  · rw [if_pos hscheme] at h
    exact hfails h

theorem steps_fetchDataRefBytes {q : WorkerProg (List ℕ)} (h : (w.fetchDataRefBytes ref).Steps calls q) :
    w.RefCalls ref calls ∧ ∀ body, q = .done (.ok body) → ∃ maxBytes read,
      maxRefBytes w.fetch.workerMaxRefBytes (FetchHost.declaredBytes ref) = .ok maxBytes ∧
        Receives ref maxBytes calls read ∧ w.fetch.checkedBody maxBytes ref read = .ok body := by
  rcases h.of_done_bind with ⟨e, -, rfl, rfl⟩ | ⟨maxBytes, hmax, h⟩
  · exact ⟨.nil, fun body hbody => by cases hbody⟩
  rcases h.of_done_bind with ⟨e, -, rfl, rfl⟩ | ⟨parsed, hparsed, h⟩
  · exact ⟨.nil, fun body hbody => by cases hbody⟩
  unfold parseUri at hparsed
  split at hparsed
  · cases hparsed
  cases hparsed
  rcases h.of_bind with ⟨p, hp, rfl, hnot⟩ | ⟨read, es₁, es₂, hp, hrest, rfl⟩
  · exact ⟨(steps_fetchRefBody hp).1, fun body hbody => absurd hbody (Prog.bind_ne_ok hnot body)⟩
  obtain ⟨hcalls, hread⟩ := steps_fetchRefBody hp
  obtain ⟨rfl, rfl⟩ := Prog.Steps.of_done hrest
  rw [List.append_nil]
  exact ⟨hcalls, fun body hbody => ⟨maxBytes, read, hmax, hread read rfl, by injection hbody⟩⟩

/-- What has been read is the whole body, if it passes the check of its length. -/
theorem Receives.brings {read : List ℕ} (h : Receives ref maxBytes calls read)
    (hlength : (read.length : ℤ) ≤ maxBytes) : Brings ref calls read := by
  have hpos : 0 ≤ maxBytes := by omega
  cases h with
  | @http lookup address response body hbody =>
    unfold responseBody at hbody
    split at hbody
    · cases hbody
    rename_i hstatus
    rcases FetchHost.readBytes_limit response.body hpos with hwhole | ⟨hlong, -⟩
    · cases hbody
      rw [hwhole]
      obtain ⟨status, body⟩ := response
      obtain rfl : status = 200 := not_not.mp hstatus
      exact .http
    · cases hbody
      omega
  | @object endpoint region bucket key stream body hbody =>
    rw [s3ReadLoop_eq hpos] at hbody
    split at hbody
    · cases hbody
    · cases hbody
      exact .object

theorem maxRefBytes_le {configured : ℤ} {declared : Option ℤ} (h : maxRefBytes configured declared = .ok maxBytes) :
    maxBytes ≤ configured := by
  unfold maxRefBytes at h
  split at h
  · cases h
    exact le_rfl
  · split at h
    · cases h
    · cases h
      exact min_le_left _ _

theorem steps_fetchDataRefText {q : WorkerProg String} (h : (w.fetchDataRefText ref).Steps calls q) :
    w.RefCalls ref calls ∧ ∀ text, q = .done (.ok text) → w.BringsText ref calls text := by
  rcases h.of_bind with ⟨p, hp, rfl, hnot⟩ | ⟨body, es₁, es₂, hp, hrest, rfl⟩
  · exact ⟨(steps_fetchDataRefBytes hp).1, fun text htext => absurd htext (Prog.bind_ne_ok hnot text)⟩
  obtain ⟨hcalls, hbody⟩ := steps_fetchDataRefBytes hp
  obtain ⟨rfl, rfl⟩ := Prog.Steps.of_done hrest
  rw [List.append_nil]
  refine ⟨hcalls, fun text htext => ?_⟩
  obtain ⟨maxBytes, read, hmax, hread, hchecked⟩ := hbody body rfl
  obtain ⟨rfl, hlength, hdigest⟩ := FetchHost.checkedBody_iff.mp hchecked
  have hbounded : (body.length : ℤ) ≤ w.fetch.workerMaxRefBytes := hlength.trans (maxRefBytes_le hmax)
  obtain ⟨maxBytes', hmax', -, hwithin⟩ := FetchHost.maxRefBytes_declared ref hbounded
  cases hmax.symm.trans hmax'
  exact ⟨body, hread.brings hlength, hbounded, hwithin.mp hlength, hdigest, by injection htext⟩

/-! ## The prompt -/

/-- The references, what is called for them and the texts that come of it, one for one -/
def BringsTexts (w : WorkerHost) (refs : List DataRef) (runs : List (List WorkerEvent)) (texts : List String) : Prop :=
  List.Forall₂ (fun x text => w.BringsText x.1 x.2 text) (refs.zip runs) texts

/-- The calls are those for the first references of the payload, in their order, and a prompt is made of the texts
of all of them. -/
def Egress (w : WorkerHost) (payload : PlanPayload) (calls : List WorkerEvent) (q : WorkerProg String) : Prop :=
  ∃ refs runs, refs <+: payload.inputRefs ∧ calls = runs.flatten ∧ List.Forall₂ w.RefCalls refs runs ∧
    ∀ prompt, q = .done (.ok prompt) → refs = payload.inputRefs ∧
      ∃ texts, BringsTexts w refs runs texts ∧ prompt = joinParts (w.ownParts payload ++ texts)

theorem forall₂_of_mapRun {refs : List DataRef} {runs : List (List WorkerEvent)} {texts : List String}
    (h : Prog.MapRun w.fetchDataRefText refs runs texts) :
    List.Forall₂ w.RefCalls refs runs ∧ BringsTexts w refs runs texts := by
  induction h with
  | nil => exact ⟨.nil, .nil⟩
  | cons hfirst _ ih =>
    obtain ⟨hcalls, htext⟩ := steps_fetchDataRefText hfirst
    exact ⟨.cons hcalls ih.1, .cons (htext _ rfl) ih.2⟩

/-- A run that is left or fails has dealt with some of the references. -/
theorem egress_of_left {q : WorkerProg String} {p : WorkerProg (List String)}
    (h : (payload.inputRefs.mapM w.fetchDataRefText).Steps calls p) (hp : ∀ texts, p ≠ .done (.ok texts))
    (hq : ∀ prompt, q ≠ .done (.ok prompt)) : w.Egress payload calls q := by
  rcases h.of_mapM with ⟨runs, texts, -, -, rfl⟩ |
    ⟨before, ref, after, runs, texts, last, p', hrefs, hruns, hlast, rfl, -⟩
  · exact absurd rfl (hp texts)
  · refine ⟨before ++ [ref], runs ++ [last], ⟨after, by simp [hrefs]⟩, by simp, ?_, fun prompt hprompt => ?_⟩
    · exact List.rel_append (forall₂_of_mapRun hruns).1 (.cons (steps_fetchDataRefText hlast).1 .nil)
    · exact absurd hprompt (hq prompt)

/-- In a network that always gives the same answers, the prompt is the one that `LlmEngine` makes of the texts. -/
theorem run_promptFromPayload (network : (op : WorkerOp) → Unit → Except String op.Res × Unit) :
    ((w.promptFromPayload payload).run network ()).1 = LlmEngine.promptFromPayload w.env
      (fun ref => ((w.fetchDataRefText ref).run network ()).1) payload := by
  refine (congrArg Prod.fst (Prog.run_andThen network (payload.inputRefs.mapM w.fetchDataRefText) _ ())).trans ?_
  unfold LlmEngine.promptFromPayload
  rw [← Prog.run_mapM]
  cases ((payload.inputRefs.mapM w.fetchDataRefText).run network ()).1 with
  | error e => rfl
  | ok texts => rfl

/-! ### One reference -/

def publicAddress : IpAddress := ⟨false, false, false, false, false, false⟩

def publicWorker : WorkerHost where
  env := GovernanceCompiler.modalEnvironment
  fetch := abcHost
  datarefAllowedHosts := "objects.example.com"
  ipAddress _ := some publicAddress

/-- A network in which every name has one address and every object is the same -/
def oneObject : (op : WorkerOp) → Unit → Except String op.Res × Unit
  | .getaddrinfo .., _ => (.ok (some ["93.184.216.34"]), ())
  | .openPinned .., _ => (.ok { body := [97, 98, 99] }, ())
  | .getObject .., _ => (.ok ⟨[97, 98, 99], fun _ => 1⟩, ())

def onePayload : PlanPayload :=
  planPayload { echoPlan with inputRefs := [{ shortRef with bytes := none }] }

end WorkerHost

end Gpucall
