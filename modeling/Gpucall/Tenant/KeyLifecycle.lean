import Gpucall.Tenant.BootstrapKey
import Mathlib.Logic.Function.Basic

/-! The life of tenant keys: the bootstrap endpoint and the authentication of `app.py`, and the key commands of
`cli.py`. The list of keys in the credentials file is rewritten by each of them and read for each request; over
it stands a ledger, which knows of every tenant at most one key. -/

namespace Gpucall

instance atLeastTwo_25 : Nat.AtLeastTwo 25 := ⟨by decide⟩

instance atLeastTwo_500 : Nat.AtLeastTwo 500 := ⟨by decide⟩

inductive ApiKeyHandoffMode where
  | manual | handoffFile | trustedBootstrap
  deriving DecidableEq

/-- `RecipeAdminAutomationConfig`, as far as keys are handed out by it -/
structure RecipeAdminAutomationConfig where
  apiKeyHandoffMode : ApiKeyHandoffMode := .manual
  apiKeyBootstrapAllowedCidrs : List String := []
  apiKeyBootstrapAllowedHosts : List String := []

structure BootstrapTenantKeyRequest where
  systemName : String
  requestsPerMinute : Option ℕ+ := none
  dailyBudgetUsd : Option ℚ≥0 := none
  monthlyBudgetUsd : Option ℚ≥0 := none
  maxRequestEstimatedCostUsd : Option ℚ≥0 := none
  objectPrefix : Option String := none

/-- A tenant as it is written to `tenants/<name>.yml` -/
structure TenantAccount extends TenantObjectSpec where
  requestsPerMinute : ℕ

/-- The machine of the gateway. -/
structure KeyHost extends CredentialsHost where
  lower : String → String
  lower_empty : lower "" = ""
  /-- `ipaddress.ip_address(host).is_loopback`, if the text is an address -/
  isLoopback : String → Option Bool
  /-- `ip_address(host) in ip_network(cidr, strict=False)`, if the text is a network -/
  inNetwork : String → String → Option Bool
  /-- No file can be written to the tenants directory. -/
  tenantsReadOnly : Bool := false

structure KeyWorld where
  /-- The credentials file -/
  file : Option (List ℕ)
  /-- The files `tenants/<name>.yml` -/
  tenantFiles : Dict TenantAccount
  /-- `runtime.tenants` -/
  tenants : Dict TenantAccount

/-- `_fingerprint_secret` -/
def CredentialsHost.fingerprintSecret (host : CredentialsHost) (value : String) : String :=
  String.ofList ((host.py.sha256 value.toList).toList.take 16)

/-! ## The commands of `cli.py` -/

/-- `_parse_tenant_key_pairs` -/
def parseTenantKeyPairs (raw : String) : Dict String := parseBootstrapTenantKeys raw

/-- `_format_tenant_key_pairs` -/
def formatTenantKeyPairs (pairs : Dict String) : String := formatTenantKeys pairs

inductive KeyCommandError where
  | systemExit (message : String)
  | credentials (e : CredentialsError)

/-- What a command prints of the keys, and the data that it has saved. -/
structure KeyChange where
  token : Option String
  previousFingerprint : Option String
  saved : Dict Json

namespace CredentialsHost

variable (host : CredentialsHost) (file : Option (List ℕ))

/-- The end of each command: `auth["tenant_keys"] = ...` and `save_credentials("auth", auth)` -/
def saveTenantKeys (tenantKeys : Dict String) : Except CredentialsError (Dict Json) :=
  host.saveCredentials file "auth" ((host.auth file).set "tenant_keys" (formatTenantKeyPairs tenantKeys))

/-- `_create_tenant_key` -/
def createTenantKey (random : UrlsafeText) (name : String) : Except KeyCommandError KeyChange :=
  let tenantKeys := parseTenantKeyPairs (host.tenantKeys file)
  if name ∈ tenantKeys.keys then
    .error (.systemExit ("tenant key already exists for " ++ name ++
      "; rotate by removing or replacing auth.tenant_keys outside this command"))
  else
    let token := "gpk_" ++ random.text
    match host.saveTenantKeys file (tenantKeys.set name token) with
    | .error e => .error (.credentials e)
    | .ok saved => .ok ⟨some token, none, saved⟩

/-- `_rotate_tenant_key` -/
def rotateTenantKey (random : UrlsafeText) (name : String) : Except KeyCommandError KeyChange :=
  let tenantKeys := parseTenantKeyPairs (host.tenantKeys file)
  let token := "gpk_" ++ random.text
  match host.saveTenantKeys file (tenantKeys.set name token) with
  | .error e => .error (.credentials e)
  | .ok saved => .ok ⟨some token, (tenantKeys.get? name).map host.fingerprintSecret, saved⟩

/-- `_revoke_tenant_key` -/
def revokeTenantKey (name : String) : Except KeyCommandError KeyChange :=
  let tenantKeys := parseTenantKeyPairs (host.tenantKeys file)
  match host.saveTenantKeys file (tenantKeys.pop name) with
  | .error e => .error (.credentials e)
  | .ok saved => .ok ⟨none, (tenantKeys.get? name).map host.fingerprintSecret, saved⟩

/-- The checks that the key commands of `admin_command` begin with -/
def checkTenantName (action name : String) (configTenants : List String) : Except KeyCommandError Unit :=
  if name = "" then .error (.systemExit ("admin " ++ action ++ " requires --name"))
  else if name ∉ configTenants then
    .error (.systemExit ("unknown tenant: " ++ name ++ "; run admin tenant-create first"))
  else .ok ()

end CredentialsHost

/-! ## The bootstrap endpoint -/

/-- `[a-z0-9]` -/
def isTenantNameStart (c : Char) : Bool := c.isLower || c.isDigit

/-- `[a-z0-9._-]` -/
def isTenantNameChar (c : Char) : Bool := isTenantNameStart c || c ∈ ['.', '_', '-']

/-- `_BOOTSTRAP_TENANT_NAME_RE.fullmatch` -/
def isBootstrapTenantName (name : String) : Bool :=
  match name.toList with
  | [] => false
  | c :: rest => isTenantNameStart c && 1 ≤ rest.length && rest.length ≤ 62 && rest.all isTenantNameChar

/-- `_bootstrap_tenant_spec` -/
def bootstrapTenantSpec (request : BootstrapTenantKeyRequest) (tenantName : String) : TenantAccount where
  name := tenantName
  requestsPerMinute := (request.requestsPerMinute.map fun n : ℕ+ => (n : ℕ)).getD 120
  dailyBudgetUsd := some (request.dailyBudgetUsd.getD 25)
  monthlyBudgetUsd := some (request.monthlyBudgetUsd.getD 500)
  maxRequestEstimatedCostUsd := some (request.maxRequestEstimatedCostUsd.getD 10)
  objectPrefix := some (if truthyStr request.objectPrefix then request.objectPrefix.getD "" else tenantName)

/-- A request to the endpoint, with the configuration that is loaded for it and the secret that is drawn. -/
structure BootstrapCall where
  automation : RecipeAdminAutomationConfig
  clientHost : String
  request : BootstrapTenantKeyRequest
  random : UrlsafeText

/-- The answer of the endpoint, with the new key as it was made -/
structure BootstrapAnswer where
  tenant : String
  created : CreatedKey
  apiKeyFingerprint : String

namespace KeyHost

variable (host : KeyHost)

/-- `_bootstrap_client_allowed` -/
def bootstrapClientAllowed (clientHost : String) (cidrs hosts : List String) : Bool :=
  if clientHost ∈ hosts then true
  else
    match host.isLoopback clientHost with
    | none => false
    | some loopback =>
      (loopback && "localhost" ∈ hosts.map host.lower) ||
        cidrs.any fun cidr => (host.inNetwork clientHost cidr).getD false

/-- `_write_bootstrap_tenant`. A file that is there stays. -/
def writeBootstrapTenant (world : KeyWorld) (tenant : TenantAccount) : Except HttpException KeyWorld :=
  if tenant.name ∈ world.tenantFiles.keys then .ok world
  else if host.tenantsReadOnly then .error ⟨503, "bootstrap tenant directory is not writable"⟩
  else .ok { world with tenantFiles := world.tenantFiles.set tenant.name tenant }

/-- `_safe_create_bootstrap_tenant_key`; the other exceptions of the credentials go on to the server. -/
def safeCreateBootstrapTenantKey (file : Option (List ℕ)) (random : UrlsafeText) (tenantName : String) :
    Except BootstrapKeyError CreatedKey :=
  match host.createBootstrapTenantKey file random tenantName with
  | .error (.credentials .permissionError) => .error (.http ⟨503, "bootstrap credentials file is not writable"⟩)
  | result => result

/-- The checks of `bootstrap_tenant_key`, with the name that passes them. -/
def checkBootstrap (world : KeyWorld) (call : BootstrapCall) : Except HttpException String :=
  let tenantName := strip call.request.systemName
  if call.automation.apiKeyHandoffMode ≠ .trustedBootstrap then .error ⟨403, "trusted bootstrap is disabled"⟩
  else if !host.bootstrapClientAllowed call.clientHost call.automation.apiKeyBootstrapAllowedCidrs
      call.automation.apiKeyBootstrapAllowedHosts then
    .error ⟨403, "client is not in trusted bootstrap scope"⟩
  else if !isBootstrapTenantName tenantName then .error ⟨422, "invalid system_name"⟩
  -- the map is one of keys, so that a key of the same text is what is found here
  else if tenantName ∈ (host.currentTenantKeyMap world.file).keys then
    .error ⟨409, "tenant key already exists"⟩
  else .ok tenantName

/-- `bootstrap_tenant_key`. A tenant file that has been written stays when there is no key after all. -/
def bootstrapTenantKey (world : KeyWorld) (call : BootstrapCall) :
    Except BootstrapKeyError BootstrapAnswer × KeyWorld :=
  match host.checkBootstrap world call with
  | .error e => (.error (.http e), world)
  | .ok tenantName =>
    let tenant := bootstrapTenantSpec call.request tenantName
    match host.writeBootstrapTenant world tenant with
    | .error e => (.error (.http e), world)
    | .ok world =>
      match host.safeCreateBootstrapTenantKey world.file call.random tenantName with
      | .error e => (.error e, world)
      | .ok created =>
        (.ok ⟨tenantName, created, host.fingerprintSecret created.token⟩,
          { world with
            file := host.dumped created.saved
            tenants := world.tenants.set tenantName tenant })

/-! ## Authentication -/

/-- A variable that is set to a true value. -/
def isSet (name : String) : Bool :=
  host.lower (strip ((host.getenv name).getD "")) ∈ ["1", "true", "yes", "on"]

/-- `_production_auth_required` -/
def productionAuthRequired : Bool :=
  host.lower (strip ((host.getenv "GPUCALL_ENV").getD "")) ∈ ["prod", "production"] ||
    host.isSet "GPUCALL_PRODUCTION"

/-- `_allow_unauthenticated_gateway` -/
def allowUnauthenticatedGateway : Bool :=
  !host.productionAuthRequired && host.isSet "GPUCALL_ALLOW_UNAUTHENTICATED"

end KeyHost

def isAscii (s : String) : Bool := s.toList.all fun c => c.toNat < 128

/-- `hmac.compare_digest`, which takes no texts but ASCII ones -/
def compareDigest (token key : String) : Except String Bool :=
  if isAscii token && isAscii key then .ok (token = key)
  else .error "comparing strings with non-ASCII characters is not supported"

/-- `any(hmac.compare_digest(token, key) for key in configured)` -/
def anyDigest (token : String) : List String → Except String Bool
  | [] => .ok false
  | key :: keys =>
    match compareDigest token key with
    | .error e => .error e
    | .ok true => .ok true
    | .ok false => anyDigest token keys

/-- `auth.removeprefix("Bearer ").strip()` -/
def bearerToken (authorization : String) : String := strip (removePrefix authorization "Bearer ")

def publicPaths : List String := ["/healthz", "/readyz", "/openapi.json", "/v2/bootstrap/tenant-key"]

namespace KeyHost

variable (host : KeyHost) (file : Option (List ℕ))

/-- `tenant_for_api_key` -/
def tenantForApiKey (apiKey : String) : Option String :=
  if apiKey = "" then none
  else if truthyStr ((host.currentTenantKeyMap file).get? apiKey) then
    (host.currentTenantKeyMap file).get? apiKey
  else if apiKey ∈ host.legacyApiKeys file then some "default"
  else none

/-- `api_key_auth`: what the state of the request holds when it goes on, and nothing if the answer is 401. -/
def apiKeyAuth (path authorization : String) : Except String (Option ObjectCaller) :=
  let configured := host.legacyApiKeys file ++ (host.currentTenantKeyMap file).keys
  if path ∈ publicPaths then .ok (some ⟨none, none⟩)
  else if configured = [] then
    .ok (if host.allowUnauthenticatedGateway then some ⟨none, none⟩ else none)
  else
    let token := bearerToken authorization
    (anyDigest token configured).map fun found =>
      if found then some ⟨host.tenantForApiKey file token, some token⟩ else none

end KeyHost

/-! ## Runs -/

/-- A command on the keys. The commands of `cli.py` come with the tenants of the configuration. -/
inductive KeyCommand where
  | bootstrap (call : BootstrapCall)
  | create (configTenants : List String) (name : String) (random : UrlsafeText)
  | rotate (configTenants : List String) (name : String) (random : UrlsafeText)
  | revoke (configTenants : List String) (name : String)

/-- What a command has done to the keys -/
inductive KeyEvent where
  | given (tenant key : String)
  | revoked (tenant : String)

namespace KeyHost

variable (host : KeyHost)

/-- A key command of `cli.py`, and the world that it leaves -/
def runKeyCommand (world : KeyWorld) (action name : String) (configTenants : List String)
    (command : Except KeyCommandError KeyChange) : Except KeyCommandError KeyChange × KeyWorld :=
  match CredentialsHost.checkTenantName action name configTenants with
  | .error e => (.error e, world)
  | .ok () =>
    match command with
    | .error e => (.error e, world)
    | .ok change => (.ok change, { world with file := host.dumped change.saved })

/-- What the command does to the keys with the data that is saved for it, if it does anything, and the world after
it -/
def step (world : KeyWorld) : KeyCommand → Option (KeyEvent × Dict Json) × KeyWorld
  | .bootstrap call =>
    let result := host.bootstrapTenantKey world call
    (result.1.toOption.map fun answer => (.given answer.tenant answer.created.token, answer.created.saved), result.2)
  | .create configTenants name random =>
    let result := host.runKeyCommand world "tenant-key-create" name configTenants
      (host.createTenantKey world.file random name)
    (result.1.toOption.map fun change => (.given name (change.token.getD ""), change.saved), result.2)
  | .rotate configTenants name random =>
    let result := host.runKeyCommand world "tenant-key-rotate" name configTenants
      (host.rotateTenantKey world.file random name)
    (result.1.toOption.map fun change => (.given name (change.token.getD ""), change.saved), result.2)
  | .revoke configTenants name =>
    let result := host.runKeyCommand world "tenant-key-revoke" name configTenants
      (host.revokeTenantKey world.file name)
    (result.1.toOption.map fun change => (.revoked name, change.saved), result.2)

/-- The commands one after the other, each with what it does -/
def run (world : KeyWorld) : List KeyCommand → List (KeyCommand × Option (KeyEvent × Dict Json)) × KeyWorld
  | [] => ([], world)
  | command :: commands =>
    let (performed, world) := host.step world command
    let (log, world) := run world commands
    ((command, performed) :: log, world)

end KeyHost

/-! ## The ledger -/

/-- The key of each tenant, if it has one -/
abbrev KeyLedger := String → Option String

namespace KeyLedger

def after (ledger : KeyLedger) : KeyEvent → KeyLedger
  | .given tenant key => Function.update ledger tenant (some key)
  | .revoked tenant => Function.update ledger tenant none

/-- The ledger after what the commands have done -/
def following (ledger : KeyLedger) (log : List (KeyCommand × Option (KeyEvent × Dict Json))) : KeyLedger :=
  (log.filterMap fun entry => entry.2.map Prod.fst).foldl after ledger

end KeyLedger

/-- The list of keys reads as the ledger says, for those who rewrite it and for those who look a key up. -/
structure Lists (raw : String) (ledger : KeyLedger) : Prop where
  parsed : ∀ tenant, (parseBootstrapTenantKeys raw).get? tenant = ledger tenant
  mapped : ∀ key tenant, (tenantKeyMap [raw]).get? key = some tenant ↔ ledger tenant = some key

namespace Lists

variable {raw : String} {ledger : KeyLedger} {tenant tenant' key : String}

theorem listed (h : Lists raw ledger) (hkey : ledger tenant = some key) : IsListedPair (tenant, key) :=
  isListedPair_of_mem (mem_tenantKeyPairs_of_map ((h.mapped key tenant).mpr hkey))

/-- No two tenants have the same key. -/
theorem injective (h : Lists raw ledger) (hkey : ledger tenant = some key) (hkey' : ledger tenant' = some key) :
    tenant = tenant' :=
  Option.some.inj (((h.mapped key tenant).mpr hkey).symm.trans ((h.mapped key tenant').mpr hkey'))

theorem get?_parse_formatTenantKeys {keys : Dict String} (hne : keys.entries ≠ [])
    (hlisted : ∀ pair ∈ keys.entries, IsListedPair pair) (tenant : String) :
    (parseBootstrapTenantKeys (formatTenantKeys keys)).get? tenant = keys.get? tenant := by
  rw [get?_parseBootstrapTenantKeys, tenantKeyPairs_formatTenantKeys hne hlisted]
  have hperm := List.perm_insertionSort (fun pair other => toLex pair ≤ toLex other) keys.entries
  generalize (keys.entries.insertionSort fun pair other => toLex pair ≤ toLex other) = sorted at hperm
  have hreverse : sorted.reverse.Perm keys.entries := (List.reverse_perm sorted).trans hperm
  have hnodup : (sorted.reverse.map Prod.fst).Nodup := (hreverse.map Prod.fst).nodup_iff.mpr keys.nodup
  refine Option.ext fun key => ?_
  exact Dict.get?_eq_some (d := ⟨sorted.reverse, hnodup⟩) |>.trans (hreverse.mem_iff.trans Dict.get?_eq_some.symm)

/-- A list that is written reads as the ledger, if no two tenants have the same key. -/
theorem of_format {keys : Dict String} (hkeys : ∀ tenant, keys.get? tenant = ledger tenant)
    (hlisted : ∀ tenant key, ledger tenant = some key → IsListedPair (tenant, key))
    (hinjective : ∀ tenant tenant' key, ledger tenant = some key → ledger tenant' = some key → tenant = tenant') :
    Lists (formatTenantKeys keys) ledger := by
  by_cases hne : keys.entries = []
  · have hnone (tenant : String) : ledger tenant = none := by
      rw [← hkeys, Dict.get?, hne]
      rfl
    have hempty : formatTenantKeys keys = "" := by
      rw [formatTenantKeys, hne]
      rfl
    rw [hempty]
    constructor
    · intro tenant
      rw [hnone]
      rfl
    · intro key tenant
      rw [hnone]
      have hget : (tenantKeyMap [""]).get? key = none := rfl
      rw [hget]
      exact iff_of_false (by simp) (by simp)
  have hpairs : ∀ pair ∈ keys.entries, IsListedPair pair := by
    rintro ⟨tenant, key⟩ hpair
    exact hlisted tenant key ((hkeys tenant).symm.trans (Dict.get?_eq_some.mpr hpair))
  constructor
  · intro tenant
    rw [get?_parse_formatTenantKeys hne hpairs, hkeys]
  · intro key tenant
    rw [get?_tenantKeyMap_formatTenantKeys hne hpairs, hkeys]
    refine and_iff_left_of_imp fun htenant other hother => ?_
    rw [hkeys] at hother
    exact (hinjective other tenant key hother htenant).le

theorem given (h : Lists raw ledger) (hpair : IsListedPair (tenant, key))
    (hfresh : ∀ other, ledger other ≠ some key) :
    Lists (formatTenantKeys ((parseBootstrapTenantKeys raw).set tenant key))
      (ledger.after (.given tenant key)) := by
  have hafter (other : String) :
      ledger.after (.given tenant key) other = if other = tenant then some key else ledger other :=
    Function.update_apply ..
  refine of_format (fun other => ?_) (fun other key' hkey' => ?_) fun other other' key' hkey' hother' => ?_
  · rw [Dict.get?_set, hafter, h.parsed]
  · rw [hafter] at hkey'
    split at hkey'
    · rename_i heq
      cases hkey'
      exact heq ▸ hpair
    · exact h.listed hkey'
  · rw [hafter] at hkey' hother'
    split at hkey' <;> split at hother'
    · rename_i heq heq'
      exact heq.trans heq'.symm
    · cases hkey'
      exact absurd hother' (hfresh other')
    · cases hother'
      exact absurd hkey' (hfresh other)
    · exact h.injective hkey' hother'

theorem revoked (h : Lists raw ledger) (tenant : String) :
    Lists (formatTenantKeys ((parseBootstrapTenantKeys raw).pop tenant)) (ledger.after (.revoked tenant)) := by
  have hafter (other : String) :
      ledger.after (.revoked tenant) other = if other = tenant then none else ledger other :=
    Function.update_apply ..
  have hstays {other key' : String} (hkey' : ledger.after (.revoked tenant) other = some key') :
      ledger other = some key' := by
    rw [hafter] at hkey'
    split at hkey'
    · cases hkey'
    · exact hkey'
  refine of_format (fun other => ?_) (fun other key' hkey' => h.listed (hstays hkey'))
    fun other other' key' hkey' hother' => h.injective (hstays hkey') (hstays hother')
  rw [hafter]
  refine Option.ext fun key' => ?_
  rw [Dict.get?_pop, h.parsed]
  split
  · rename_i heq
    exact iff_of_false (fun hkey' => hkey'.1 heq) (by simp)
  · rename_i hne
    exact and_iff_right hne

end Lists

/-! ## What a command saves -/

namespace CredentialsHost

variable {host : CredentialsHost} {file : Option (List ℕ)} {keys : Dict String} {saved : Dict Json}

section

variable (hsave : host.saveTenantKeys file keys = .ok saved) (hback : host.ReadsBack saved) (hunset : host.Unset)

include hsave hback hunset

theorem get?_auth_saved (key : String) : (host.auth (host.dumped saved)).get? key =
    (((host.auth file).set "tenant_keys" (formatTenantKeys keys)).get? key).filter (· ≠ "") := by
  obtain ⟨loaded, hloaded, hget⟩ := get?_loadCredentials_dumped hunset hsave hback
  rw [auth, hloaded, Option.getD_some, hget]
  rfl

theorem tenantKeys_saved : host.tenantKeys (host.dumped saved) = formatTenantKeys keys := by
  rw [tenantKeys, get?_auth_saved hsave hback hunset, Dict.get?_set_self]
  by_cases hempty : formatTenantKeys keys = "" <;> simp [Option.filter_some, hempty]

theorem legacyApiKeys_saved : host.legacyApiKeys (host.dumped saved) = host.legacyApiKeys file := by
  have hconfigured : ((host.auth (host.dumped saved)).get? "api_keys").getD "" =
      ((host.auth file).get? "api_keys").getD "" := by
    rw [get?_auth_saved hsave hback hunset, Dict.get?_set, if_neg (by decide)]
    cases (host.auth file).get? "api_keys" with
    | none => rfl
    | some keys => by_cases hempty : keys = "" <;> simp [Option.filter_some, hempty]
  rw [legacyApiKeys, legacyApiKeys, hconfigured]

end

end CredentialsHost

namespace KeyHost

variable {host : KeyHost} {world world' : KeyWorld} {command : KeyCommand} {event : KeyEvent} {saved : Dict Json}

variable (host world) in
/-- What the command does to the keys, and the keys that it writes -/
inductive Performs : KeyCommand → KeyEvent → Dict String → Prop where
  | bootstrap {call name} : host.checkBootstrap world call = .ok name →
    name ∉ (parseBootstrapTenantKeys (host.tenantKeys world.file)).keys →
    Performs (.bootstrap call) (.given name ("gpk_" ++ call.random.text))
      ((parseBootstrapTenantKeys (host.tenantKeys world.file)).set name ("gpk_" ++ call.random.text))
  | create {configTenants name random} : name ∈ configTenants →
    name ∉ (parseBootstrapTenantKeys (host.tenantKeys world.file)).keys →
    Performs (.create configTenants name random) (.given name ("gpk_" ++ random.text))
      ((parseBootstrapTenantKeys (host.tenantKeys world.file)).set name ("gpk_" ++ random.text))
  | rotate {configTenants name random} : name ∈ configTenants →
    Performs (.rotate configTenants name random) (.given name ("gpk_" ++ random.text))
      ((parseBootstrapTenantKeys (host.tenantKeys world.file)).set name ("gpk_" ++ random.text))
  | revoke {configTenants name} : name ∈ configTenants →
    Performs (.revoke configTenants name) (.revoked name)
      ((parseBootstrapTenantKeys (host.tenantKeys world.file)).pop name)

variable (host) in
/-- A command that performs saves its keys; one that does not leaves the credentials alone. -/
structure Saves (world : KeyWorld) (command : KeyCommand) (performed : Option (KeyEvent × Dict Json))
    (file : Option (List ℕ)) : Prop where
  idle : performed = none → file = world.file
  performed : ∀ event saved, performed = some (event, saved) → ∃ keys, Performs host world command event keys ∧
    host.saveTenantKeys world.file keys = .ok saved ∧ file = host.dumped saved

theorem saves_idle {file : Option (List ℕ)} (h : file = world.file) : host.Saves world command none file :=
  ⟨fun _ => h, fun _ _ hsome => absurd hsome (by simp)⟩

theorem saves_performed {keys : Dict String} (hperforms : Performs host world command event keys)
    (hsave : host.saveTenantKeys world.file keys = .ok saved) :
    host.Saves world command (some (event, saved)) (host.dumped saved) := by
  refine ⟨fun hnone => absurd hnone (by simp), fun event' saved' hsome => ?_⟩
  cases hsome
  exact ⟨keys, hperforms, hsave, rfl⟩

theorem checkTenantName_eq_ok {action name : String} {configTenants : List String}
    (h : CredentialsHost.checkTenantName action name configTenants = .ok ()) : name ∈ configTenants := by
  unfold CredentialsHost.checkTenantName at h
  split at h
  · cases h
  split at h
  · cases h
  · exact Classical.not_not.mp ‹_›

theorem file_writeBootstrapTenant {tenant : TenantAccount} (h : host.writeBootstrapTenant world tenant = .ok world') :
    world'.file = world.file := by
  unfold writeBootstrapTenant at h
  split at h
  · cases h
    rfl
  split at h
  · cases h
  · cases h
    rfl

theorem safeCreateBootstrapTenantKey_eq_ok {file : Option (List ℕ)} {random : UrlsafeText} {tenantName : String}
    {created : CreatedKey} (h : host.safeCreateBootstrapTenantKey file random tenantName = .ok created) :
    host.createBootstrapTenantKey file random tenantName = .ok created := by
  unfold safeCreateBootstrapTenantKey at h
  split at h
  · cases h
  · exact h

theorem saves_bootstrap (call : BootstrapCall) : host.Saves world (.bootstrap call)
    (host.step world (.bootstrap call)).1 (host.step world (.bootstrap call)).2.file := by
  rw [step]
  unfold bootstrapTenantKey
  split
  · exact saves_idle rfl
  rename_i tenantName hcheck
  dsimp only
  split
  · exact saves_idle rfl
  rename_i written hwrite
  have hfile := file_writeBootstrapTenant hwrite
  split
  · exact saves_idle hfile
  rename_i created hcreated
  obtain ⟨hnew, htoken, hsave⟩ :=
    CredentialsHost.createBootstrapTenantKey_eq_ok (safeCreateBootstrapTenantKey_eq_ok hcreated)
  rw [hfile] at hnew hsave
  rw [htoken] at hsave
  have hsaves := saves_performed (Performs.bootstrap hcheck hnew) hsave
  rwa [← htoken] at hsaves

theorem saves_create (configTenants : List String) (name : String) (random : UrlsafeText) :
    host.Saves world (.create configTenants name random)
      (host.step world (.create configTenants name random)).1
      (host.step world (.create configTenants name random)).2.file := by
  rw [step]
  unfold runKeyCommand CredentialsHost.createTenantKey
  dsimp only
  split
  · exact saves_idle rfl
  rename_i hname
  split
  · exact saves_idle rfl
  rename_i change hchange
  split at hchange
  · cases hchange
  rename_i hnew
  split at hchange
  · cases hchange
  rename_i saved hsave
  cases hchange
  exact saves_performed (.create (checkTenantName_eq_ok hname) hnew) hsave

theorem saves_rotate (configTenants : List String) (name : String) (random : UrlsafeText) :
    host.Saves world (.rotate configTenants name random)
      (host.step world (.rotate configTenants name random)).1
      (host.step world (.rotate configTenants name random)).2.file := by
  rw [step]
  unfold runKeyCommand CredentialsHost.rotateTenantKey
  dsimp only
  split
  · exact saves_idle rfl
  rename_i hname
  split
  · exact saves_idle rfl
  rename_i change hchange
  split at hchange
  · cases hchange
  rename_i saved hsave
  cases hchange
  exact saves_performed (.rotate (checkTenantName_eq_ok hname)) hsave

theorem saves_revoke (configTenants : List String) (name : String) :
    host.Saves world (.revoke configTenants name)
      (host.step world (.revoke configTenants name)).1 (host.step world (.revoke configTenants name)).2.file := by
  rw [step]
  unfold runKeyCommand CredentialsHost.revokeTenantKey
  dsimp only
  split
  · exact saves_idle rfl
  rename_i hname
  split
  · exact saves_idle rfl
  rename_i change hchange
  split at hchange
  · cases hchange
  rename_i saved hsave
  cases hchange
  exact saves_performed (.revoke (checkTenantName_eq_ok hname)) hsave

theorem saves_step (host : KeyHost) (world : KeyWorld) (command : KeyCommand) :
    host.Saves world command (host.step world command).1 (host.step world command).2.file := by
  cases command with
  | bootstrap call => exact saves_bootstrap call
  | create configTenants name random => exact saves_create configTenants name random
  | rotate configTenants name random => exact saves_rotate configTenants name random
  | revoke configTenants name => exact saves_revoke configTenants name

end KeyHost

/-! ## Names and tokens -/

theorem isUrlsafe_of_isTenantNameChar {c : Char} (h : isTenantNameChar c = true) : isUrlsafe c = true ∨ c = '.' := by
  simp only [isTenantNameChar, isTenantNameStart, Bool.or_eq_true, decide_eq_true_eq, List.mem_cons,
    List.not_mem_nil, or_false] at h
  rcases h with (h | h) | rfl | rfl | rfl
  · have halphanum : c.isAlphanum = true := by
      change ((c.isUpper || c.isLower) || c.isDigit) = true
      rw [h, Bool.or_true, Bool.true_or]
    exact .inl (by simp [isUrlsafe, halphanum])
  · have halphanum : c.isAlphanum = true := by
      change (c.isAlpha || c.isDigit) = true
      rw [h, Bool.or_true]
    exact .inl (by simp [isUrlsafe, halphanum])
  · exact .inr rfl
  · exact .inl rfl
  · exact .inl rfl

theorem isListedName_of_bootstrap {name : String} (h : isBootstrapTenantName name = true) : IsListedName name := by
  unfold isBootstrapTenantName at h
  split at h
  · cases h
  rename_i c rest hname
  simp only [Bool.and_eq_true] at h
  have hchars : ∀ d ∈ name.toList, isTenantNameChar d = true := by
    rw [hname]
    intro d hd
    rcases List.mem_cons.mp hd with rfl | hd
    · simp [isTenantNameChar, h.1.1.1]
    · exact List.all_eq_true.mp h.2 d hd
  refine ⟨?_, strip_eq_self fun d hd => ?_, fun hcomma => ?_, fun hcolon => ?_⟩
  · rintro rfl
    cases hname
  · rcases isUrlsafe_of_isTenantNameChar (hchars d hd) with hd | rfl
    · exact (isSpace_of_isUrlsafe hd).1
    · rfl
  · exact absurd (hchars ',' hcomma) (by decide)
  · exact absurd (hchars ':' hcolon) (by decide)

theorem UrlsafeText.isAscii (random : UrlsafeText) : isAscii ("gpk_" ++ random.text) = true := by
  refine List.all_eq_true.mpr fun c hc => decide_eq_true ?_
  rw [String.toList_append, List.mem_append] at hc
  have hsafe : isUrlsafe c = true := by
    rcases hc with hc | hc
    · exact (by decide : ∀ c ∈ "gpk_".toList, isUrlsafe c = true) c hc
    · exact random.urlsafe c hc
  simp only [isUrlsafe, Bool.or_eq_true, Utf8.isAlphanum_iff, decide_eq_true_eq] at hsafe
  rcases hsafe with (hsafe | rfl) | rfl
  · omega
  · decide
  · decide

/-- The tenants of the configuration have names that a list of keys can hold. -/
def KeyCommand.WellNamed : KeyCommand → Prop
  | .create configTenants _ _ => ∀ name ∈ configTenants, IsListedName name
  | .rotate configTenants _ _ => ∀ name ∈ configTenants, IsListedName name
  | _ => True

/-- The token that is drawn for a command -/
def KeyCommand.token : KeyCommand → Option String
  | .bootstrap call => some ("gpk_" ++ call.random.text)
  | .create _ _ random => some ("gpk_" ++ random.text)
  | .rotate _ _ random => some ("gpk_" ++ random.text)
  | .revoke _ _ => none

/-- No token is drawn twice, and none is a key already. -/
structure FreshTokens (ledger : KeyLedger) (commands : List KeyCommand) : Prop where
  distinct : (commands.filterMap KeyCommand.token).Nodup
  unused : ∀ token ∈ commands.filterMap KeyCommand.token, ∀ tenant, ledger tenant ≠ some token

theorem KeyLedger.after_eq_some {ledger : KeyLedger} {event : KeyEvent} {tenant key : String}
    (h : ledger.after event tenant = some key) : ledger tenant = some key ∨ event = .given tenant key := by
  cases event with
  | given other key' =>
    rw [after, Function.update_apply] at h
    split at h
    · rename_i heq
      cases h
      exact .inr (heq ▸ rfl)
    · exact .inl h
  | revoked other =>
    rw [after, Function.update_apply] at h
    split at h
    · cases h
    · exact .inl h

namespace FreshTokens

variable {ledger : KeyLedger} {command : KeyCommand} {commands : List KeyCommand}

theorem tail (h : FreshTokens ledger (command :: commands)) : FreshTokens ledger commands := by
  have hsublist : (commands.filterMap KeyCommand.token).Sublist ((command :: commands).filterMap KeyCommand.token) :=
    (List.sublist_cons_self command commands).filterMap _
  exact ⟨h.distinct.sublist hsublist, fun token htoken => h.unused token (hsublist.subset htoken)⟩

theorem head_unused (h : FreshTokens ledger (command :: commands)) (token : String)
    (htoken : command.token = some token) : ∀ tenant, ledger tenant ≠ some token :=
  h.unused token (List.mem_filterMap.mpr ⟨command, List.mem_cons_self, htoken⟩)

/-- Tokens are still fresh when the first command has given its own to a tenant. -/
theorem after (h : FreshTokens ledger (command :: commands)) {event : KeyEvent}
    (hevent : ∀ tenant key, event = .given tenant key → command.token = some key) :
    FreshTokens (ledger.after event) commands := by
  refine ⟨h.tail.distinct, fun token htoken tenant hkey => ?_⟩
  rcases KeyLedger.after_eq_some hkey with hkey | hgiven
  · exact h.tail.unused token htoken tenant hkey
  · have hdistinct := h.distinct
    rw [List.filterMap_cons_some (hevent tenant token hgiven)] at hdistinct
    exact (List.nodup_cons.mp hdistinct).1 htoken

end FreshTokens

/-! ## Runs and the ledger -/

namespace KeyHost

variable {host : KeyHost} {world : KeyWorld} {ledger : KeyLedger} {legacy : List String}

variable (host) in
/-- Who gets a key, and how: over the network a client in the trusted scope, for a name that has none yet. -/
inductive Permitted (ledger : KeyLedger) : KeyCommand → KeyEvent → Prop where
  | bootstrap {call : BootstrapCall} {name} : call.automation.apiKeyHandoffMode = .trustedBootstrap →
    host.bootstrapClientAllowed call.clientHost call.automation.apiKeyBootstrapAllowedCidrs
      call.automation.apiKeyBootstrapAllowedHosts = true →
    name = strip call.request.systemName → isBootstrapTenantName name = true → ledger name = none →
    Permitted ledger (.bootstrap call) (.given name ("gpk_" ++ call.random.text))
  | create {configTenants name} {random : UrlsafeText} : name ∈ configTenants → ledger name = none →
    Permitted ledger (.create configTenants name random) (.given name ("gpk_" ++ random.text))
  | rotate {configTenants name} {random : UrlsafeText} : name ∈ configTenants →
    Permitted ledger (.rotate configTenants name random) (.given name ("gpk_" ++ random.text))
  | revoke {configTenants name} : name ∈ configTenants →
    Permitted ledger (.revoke configTenants name) (.revoked name)

variable (host) in
/-- Each command does what it may by the ledger that the commands before it leave. -/
inductive Conducted : KeyLedger → List (KeyCommand × Option (KeyEvent × Dict Json)) → Prop where
  | nil {ledger : KeyLedger} : Conducted ledger []
  | idle {ledger : KeyLedger} {command log} : Conducted ledger log → Conducted ledger ((command, none) :: log)
  | performed {ledger : KeyLedger} {command event saved log} : Permitted host ledger command event →
    Conducted (ledger.after event) log → Conducted ledger ((command, some (event, saved)) :: log)

theorem checkBootstrap_eq_ok {call : BootstrapCall} {name : String} (h : host.checkBootstrap world call = .ok name) :
    call.automation.apiKeyHandoffMode = .trustedBootstrap ∧
      host.bootstrapClientAllowed call.clientHost call.automation.apiKeyBootstrapAllowedCidrs
        call.automation.apiKeyBootstrapAllowedHosts = true ∧
      name = strip call.request.systemName ∧ isBootstrapTenantName name = true := by
  unfold checkBootstrap at h
  dsimp only at h
  split at h
  · cases h
  rename_i hmode
  split at h
  · cases h
  rename_i hclient
  split at h
  · cases h
  rename_i hname
  split at h
  · cases h
  cases h
  exact ⟨not_not.mp hmode, by simpa using hclient, rfl, by simpa using hname⟩

/-- What a command that performs may do, and the names and the token that it uses -/
theorem Performs.spec {command : KeyCommand} {event : KeyEvent} {keys : Dict String}
    (h : Performs host world command event keys) (hlists : Lists (host.tenantKeys world.file) ledger)
    (hnamed : command.WellNamed)
    (hfresh : ∀ token, command.token = some token → ∀ tenant, ledger tenant ≠ some token) :
    Permitted host ledger command event ∧ Lists (formatTenantKeys keys) (ledger.after event) := by
  have hnone {name : String} (hnew : name ∉ (parseBootstrapTenantKeys (host.tenantKeys world.file)).keys) :
      ledger name = none := by
    rw [← hlists.parsed]
    exact Option.eq_none_iff_forall_ne_some.mpr fun key hkey => hnew (Dict.mem_keys.mpr ⟨key, hkey⟩)
  cases h with
  | bootstrap hcheck hnew =>
    obtain ⟨hmode, hclient, hname, hvalid⟩ := checkBootstrap_eq_ok hcheck
    refine ⟨.bootstrap hmode hclient hname hvalid (hnone hnew), hlists.given ?_ (hfresh _ rfl)⟩
    exact UrlsafeText.isListedPair _ (isListedName_of_bootstrap hvalid)
  | create hname hnew =>
    exact ⟨.create hname (hnone hnew), hlists.given (UrlsafeText.isListedPair _ (hnamed _ hname)) (hfresh _ rfl)⟩
  | rotate hname => exact ⟨.rotate hname, hlists.given (UrlsafeText.isListedPair _ (hnamed _ hname)) (hfresh _ rfl)⟩
  | revoke hname => exact ⟨.revoke hname, hlists.revoked _⟩

theorem Permitted.token {command : KeyCommand} {event : KeyEvent} (h : Permitted host ledger command event)
    {tenant key : String} (hevent : event = .given tenant key) :
    command.token = some key ∧ isAscii key = true := by
  cases h with
  | bootstrap | create | rotate =>
    cases hevent
    exact ⟨rfl, UrlsafeText.isAscii _⟩
  | revoke => cases hevent

theorem run_cons (world : KeyWorld) (command : KeyCommand) (commands : List KeyCommand) :
    host.run world (command :: commands) = ((command, (host.step world command).1) ::
      (host.run (host.step world command).2 commands).1, (host.run (host.step world command).2 commands).2) := rfl

variable (host) in
/-- The credentials file holds what the ledger says, and these keys without tenants. -/
structure Holds (world : KeyWorld) (ledger : KeyLedger) (legacy : List String) : Prop where
  lists : Lists (host.tenantKeys world.file) ledger
  legacy : host.legacyApiKeys world.file = legacy
  ascii : ∀ tenant key, ledger tenant = some key → isAscii key = true

theorem Holds.of_file {world' : KeyWorld} (h : host.Holds world ledger legacy) (hfile : world'.file = world.file) :
    host.Holds world' ledger legacy :=
  ⟨hfile ▸ h.lists, hfile ▸ h.legacy, h.ascii⟩

/-- The run lemma, by induction on the commands: the ledger follows the log, and the file follows the ledger. -/
theorem Holds.run {commands : List KeyCommand} (h : host.Holds world ledger legacy) (hunset : host.Unset)
    (hnamed : ∀ command ∈ commands, command.WellNamed) (hfresh : FreshTokens ledger commands)
    (hback : ∀ entry ∈ (host.run world commands).1, ∀ event saved, entry.2 = some (event, saved) →
      host.ReadsBack saved) :
    host.Conducted ledger (host.run world commands).1 ∧
      host.Holds (host.run world commands).2 (ledger.following (host.run world commands).1) legacy := by
  induction commands generalizing world ledger with
  | nil => exact ⟨.nil, h⟩
  | cons command commands ih =>
    have hsaves := saves_step host world command
    rw [run_cons] at hback ⊢
    generalize host.step world command = stepped at hsaves hback ⊢
    obtain ⟨performed, world'⟩ := stepped
    dsimp only at hsaves hback ⊢
    have hrest : ∀ entry ∈ (host.run world' commands).1, ∀ event saved, entry.2 = some (event, saved) →
        host.ReadsBack saved := fun entry hentry => hback entry (List.mem_cons_of_mem _ hentry)
    have hnamed' : ∀ command ∈ commands, command.WellNamed := fun c hc => hnamed c (List.mem_cons_of_mem _ hc)
    cases performed with
    | none =>
      obtain ⟨hconducted, hholds⟩ := ih (h.of_file (hsaves.idle rfl)) hnamed' hfresh.tail hrest
      exact ⟨.idle hconducted, hholds⟩
    | some performed =>
      obtain ⟨event, saved⟩ := performed
      obtain ⟨keys, hperforms, hsave, hfile⟩ := hsaves.performed event saved rfl
      have hreads := hback _ List.mem_cons_self event saved rfl
      obtain ⟨hpermitted, hlists⟩ := hperforms.spec h.lists (hnamed _ List.mem_cons_self)
        hfresh.head_unused
      have hheld : host.Holds world' (ledger.after event) legacy := by
        refine ⟨?_, ?_, fun tenant key hkey => ?_⟩
        · rw [hfile, CredentialsHost.tenantKeys_saved hsave hreads hunset]
          exact hlists
        · rw [hfile, CredentialsHost.legacyApiKeys_saved hsave hreads hunset]
          exact h.legacy
        · rcases KeyLedger.after_eq_some hkey with hkey | hevent
          · exact h.ascii tenant key hkey
          · exact (hpermitted.token hevent).2
      have hfresh' := hfresh.after fun tenant key hevent => (hpermitted.token hevent).1
      obtain ⟨hconducted, hholds⟩ := ih hheld hnamed' hfresh' hrest
      exact ⟨.performed hpermitted hconducted, hholds⟩

end KeyHost

/-! ## Who passes -/

theorem mem_of_anyDigest {token : String} {keys : List String} (h : anyDigest token keys = .ok true) :
    token ∈ keys := by
  induction keys with
  | nil => cases h
  | cons key keys ih =>
    rw [anyDigest] at h
    split at h
    · cases h
    · rename_i hequal
      unfold compareDigest at hequal
      split at hequal
      · rw [of_decide_eq_true (Except.ok.inj hequal)]
        exact List.mem_cons_self
      · cases hequal
    · exact List.mem_cons_of_mem _ (ih h)

theorem anyDigest_of_mem {token : String} {keys : List String} (hascii : ∀ key ∈ keys, isAscii key = true)
    (hmem : token ∈ keys) : anyDigest token keys = .ok true := by
  have htoken := hascii token hmem
  induction keys with
  | nil => cases hmem
  | cons key keys ih =>
    have hkey := hascii key List.mem_cons_self
    rw [anyDigest, compareDigest, htoken, hkey, Bool.and_self, if_pos rfl]
    by_cases heq : token = key
    · rw [decide_eq_true heq]
    · rw [decide_eq_false heq]
      exact ih (fun other hother => hascii other (List.mem_cons_of_mem _ hother))
        ((List.mem_cons.mp hmem).resolve_left heq)

namespace KeyHost

variable {host : KeyHost} {world : KeyWorld} {ledger : KeyLedger} {legacy : List String}

theorem allowUnauthenticatedGateway_of_unset (hunset : host.Unset) : host.allowUnauthenticatedGateway = false := by
  have hempty (name : String) : strip ((host.getenv name).getD "") = "" := by
    obtain h | h := hunset name <;> rw [h] <;> rfl
  simp [allowUnauthenticatedGateway, isSet, hempty, host.lower_empty]

variable (host) in
/-- Behind the public paths a request passes with the key of a tenant, as that tenant, or with a key without tenant,
as the default one. -/
structure Authenticates (file : Option (List ℕ)) (ledger : KeyLedger) (legacy : List String) : Prop where
  tenant : ∀ path ∉ publicPaths, ∀ authorization tenant, ledger tenant = some (bearerToken authorization) →
    host.apiKeyAuth file path authorization = .ok (some ⟨some tenant, some (bearerToken authorization)⟩)
  default : ∀ path ∉ publicPaths, ∀ authorization, bearerToken authorization ∈ legacy →
    (∀ tenant, ledger tenant ≠ some (bearerToken authorization)) →
    host.apiKeyAuth file path authorization = .ok (some ⟨some "default", some (bearerToken authorization)⟩)
  nobodyElse : ∀ path ∉ publicPaths, ∀ authorization caller,
    host.apiKeyAuth file path authorization = .ok (some caller) →
    bearerToken authorization ∈ legacy ∨ ∃ tenant, ledger tenant = some (bearerToken authorization)

theorem Holds.authenticates (h : host.Holds world ledger legacy) (hunset : host.Unset)
    (hlegacy : ∀ key ∈ legacy, isAscii key = true) : host.Authenticates world.file ledger legacy := by
  have hmap (key tenant : String) :
      (host.currentTenantKeyMap world.file).get? key = some tenant ↔ ledger tenant = some key := by
    rw [CredentialsHost.currentTenantKeyMap_of_unset hunset]
    exact h.lists.mapped key tenant
  have hconfigured (key : String) : key ∈ host.legacyApiKeys world.file ++
      (host.currentTenantKeyMap world.file).keys ↔ key ∈ legacy ∨ ∃ tenant, ledger tenant = some key := by
    rw [List.mem_append, h.legacy, Dict.mem_keys]
    simp only [hmap]
  have hascii : ∀ key ∈ host.legacyApiKeys world.file ++ (host.currentTenantKeyMap world.file).keys,
      isAscii key = true := by
    intro key hkey
    rcases (hconfigured key).mp hkey with hkey | ⟨tenant, hkey⟩
    · exact hlegacy key hkey
    · exact h.ascii tenant key hkey
  have hpasses {path authorization : String} (hpath : path ∉ publicPaths)
      (hknown : bearerToken authorization ∈ legacy ∨ ∃ tenant, ledger tenant = some (bearerToken authorization)) :
      host.apiKeyAuth world.file path authorization =
        .ok (some ⟨host.tenantForApiKey world.file (bearerToken authorization),
          some (bearerToken authorization)⟩) := by
    have hmem := (hconfigured _).mpr hknown
    unfold apiKeyAuth
    dsimp only
    rw [if_neg hpath, if_neg (List.ne_nil_of_mem hmem), anyDigest_of_mem hascii hmem]
    rfl
  constructor
  · intro path hpath authorization tenant hkey
    have hpair := h.lists.listed hkey
    rw [hpasses hpath (.inr ⟨tenant, hkey⟩), tenantForApiKey, if_neg hpair.key_nonempty, (hmap _ tenant).mpr hkey,
      if_pos (show truthyStr (some tenant) = true from decide_eq_true hpair.name.nonempty)]
  · intro path hpath authorization hkey hnone
    have hne : bearerToken authorization ≠ "" := by
      rw [← h.legacy, CredentialsHost.legacyApiKeys] at hkey
      exact of_decide_eq_true (List.mem_filter.mp hkey).2
    have hget : (host.currentTenantKeyMap world.file).get? (bearerToken authorization) = none :=
      Option.eq_none_iff_forall_ne_some.mpr fun tenant htenant => hnone tenant ((hmap _ tenant).mp htenant)
    rw [hpasses hpath (.inl hkey), tenantForApiKey, if_neg hne, hget, h.legacy, if_pos hkey]
    rfl
  · intro path hpath authorization caller hcaller
    unfold apiKeyAuth at hcaller
    rw [if_neg hpath, allowUnauthenticatedGateway_of_unset hunset] at hcaller
    dsimp only at hcaller
    split at hcaller
    · cases hcaller
    obtain ⟨found, hfound, hcaller⟩ := Fallible.map_eq_ok.mp hcaller
    cases found with
    | false => cases hcaller
    | true => exact (hconfigured _).mp (mem_of_anyDigest hfound)

end KeyHost

def acmeKeyHost : KeyHost where
  toCredentialsHost := acmeHost
  lower text := text
  lower_empty := rfl
  isLoopback _ := some false
  inNetwork _ _ := some true

def acmeWorld : KeyWorld where
  file := keyFile "acme:k1"
  tenantFiles := {}
  tenants := {}

def acmeKeys : Dict String := ⟨[("acme", "k1")], List.nodup_singleton _⟩

theorem get?_acmeKeys {tenant key : String} (h : acmeKeys.get? tenant = some key) : tenant = "acme" ∧ key = "k1" := by
  rw [Dict.get?_eq_some] at h
  cases List.mem_singleton.mp h
  exact ⟨rfl, rfl⟩

theorem holds_acmeWorld : acmeKeyHost.Holds acmeWorld acmeKeys.get? [] where
  lists := by
    have hlist : acmeKeyHost.tenantKeys acmeWorld.file = formatTenantKeys acmeKeys :=
      (tenantKeys_keyHost _ _).trans (by decide +kernel)
    rw [hlist]
    refine Lists.of_format (fun _ => rfl) (fun tenant key hkey => ?_) fun tenant tenant' key hkey hkey' => ?_
    · obtain ⟨rfl, rfl⟩ := get?_acmeKeys hkey
      exact ⟨⟨by decide, by decide +kernel, by decide, by decide⟩, by decide, by decide +kernel, by decide⟩
    · rw [(get?_acmeKeys hkey).1, (get?_acmeKeys hkey').1]
  legacy := by
    have hauth : (acmeKeyHost.auth acmeWorld.file).entries = [("tenant_keys", "acme:k1")] := auth_keyHost _ _
    rw [CredentialsHost.legacyApiKeys, Dict.get?, hauth]
    rfl
  ascii tenant key hkey := by
    rw [(get?_acmeKeys hkey).2]
    rfl

def newTenant : List KeyCommand := [.create ["beta"] "beta" zeroToken]

theorem saveTenantKeys_acme : acmeKeyHost.saveTenantKeys acmeWorld.file
    ((parseBootstrapTenantKeys (acmeKeyHost.tenantKeys acmeWorld.file)).set "beta" ("gpk_" ++ zeroToken.text)) =
      .ok (createdKey "beta" ("acme:k1,beta:" ++ zeroKey)).saved := by
  have hcreated : acmeHost.createBootstrapTenantKey (keyFile "acme:k1") zeroToken "beta" =
      .ok (createdKey "beta" ("acme:k1,beta:" ++ zeroKey)) :=
    createBootstrapTenantKey_keyHost (by decide +kernel) (by decide) (by decide +kernel)
  exact (CredentialsHost.createBootstrapTenantKey_eq_ok hcreated).2.2

theorem wellNamed_newTenant : ∀ command ∈ newTenant, command.WellNamed := by
  intro command hcommand
  cases List.mem_singleton.mp hcommand
  intro name hname
  cases List.mem_singleton.mp hname
  exact isListedName_of_bootstrap (by decide +kernel)

theorem freshTokens_newTenant : FreshTokens acmeKeys.get? newTenant where
  distinct := List.nodup_singleton _
  unused token htoken tenant htenant := by
    cases List.mem_singleton.mp htoken
    exact absurd (get?_acmeKeys htenant).2 (by decide)

theorem readsBack_newTenant : ∀ entry ∈ (acmeKeyHost.run acmeWorld newTenant).1, ∀ event saved,
    entry.2 = some (event, saved) → acmeKeyHost.ReadsBack saved := by
  intro entry hentry event saved hperformed
  cases List.mem_singleton.mp hentry
  obtain ⟨keys, hperforms, hsave, -⟩ :=
    (KeyHost.saves_step acmeKeyHost acmeWorld (.create ["beta"] "beta" zeroToken)).performed event saved hperformed
  cases hperforms
  cases saveTenantKeys_acme.symm.trans hsave
  exact readsBack_keyHost _ _ "beta"

end Gpucall
