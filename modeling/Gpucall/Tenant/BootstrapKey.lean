import Gpucall.Config.Credentials
import Gpucall.Tenant.Objects
import Gpucall.Lib.OptionList

/-! `_create_bootstrap_tenant_key` of `app.py`: a new key for a tenant among the keys of the credentials
file, and what the other keys are worth afterwards. -/

namespace Gpucall

def isUrlsafe (c : Char) : Bool := c.isAlphanum || c = '-' || c = '_'

/-- What `secrets.token_urlsafe(32)` may give. -/
structure UrlsafeText where
  text : String
  length_eq : text.toList.length = 43
  urlsafe : ∀ c ∈ text.toList, isUrlsafe c = true

/-- One item of `_parse_bootstrap_tenant_keys`, by `item.partition(":")` -/
def bootstrapPair (item : String) : Option (String × String) :=
  let tenant := strip (String.ofList (item.toList.takeWhile (· ≠ ':')))
  let key := strip (String.ofList ((item.toList.dropWhile (· ≠ ':')).drop 1))
  if ':' ∈ item.toList && tenant ≠ "" && key ≠ "" then some (tenant, key) else none

/-- `_parse_bootstrap_tenant_keys` -/
def parseBootstrapTenantKeys (raw : String) : Dict String :=
  .ofFields (((raw.toList.splitOn ',').map String.ofList).filterMap bootstrapPair)

/-- `",".join(f"{tenant}:{key}" for tenant, key in sorted(tenant_keys.items()))` -/
def formatTenantKeys (keys : Dict String) : String :=
  joinStr "," ((keys.entries.insertionSort fun pair other => toLex pair ≤ toLex other).map
    fun (tenant, key) => tenant ++ ":" ++ key)

/-- What `record_caller_auth` is called with. -/
structure CallerAuthRecord where
  systemName : String
  scope : String
  token : String
  nonExpiringPolicyReason : String
  deriving DecidableEq

/-- The key that is returned, the data that is saved and the record of the key. -/
structure CreatedKey where
  token : String
  saved : Dict Json
  record : CallerAuthRecord

inductive BootstrapKeyError where
  | http (e : HttpException)
  | credentials (e : CredentialsError)

namespace CredentialsHost

variable (host : CredentialsHost) (file : Option (List ℕ))

/-- `load_credentials().get("auth", {})` -/
def auth : Dict String := ((host.loadCredentials file).get? "auth").getD {}

/-- `auth.get("tenant_keys", "")` -/
def tenantKeys : String := ((host.auth file).get? "tenant_keys").getD ""

/-- `_create_bootstrap_tenant_key` -/
def createBootstrapTenantKey (random : UrlsafeText) (tenantName : String) :
    Except BootstrapKeyError CreatedKey :=
  let tenantKeys := parseBootstrapTenantKeys (host.tenantKeys file)
  if tenantName ∈ tenantKeys.keys then .error (.http ⟨409, "tenant key already exists"⟩)
  else
    let token := "gpk_" ++ random.text
    let auth := (host.auth file).set "tenant_keys" (formatTenantKeys (tenantKeys.set tenantName token))
    match host.saveCredentials file "auth" auth with
    | .error e => .error (.credentials e)
    | .ok saved => .ok {
        token, saved
        record := {
          systemName := tenantName, scope := "tenant", token
          nonExpiringPolicyReason :=
            "trusted bootstrap key is operator-managed; rotate on caller ownership or exposure changes" } }

/-- `tenant_key_map` -/
def currentTenantKeyMap : Dict String :=
  tenantKeyMap [(host.getenv "GPUCALL_TENANT_API_KEYS").getD "", host.tenantKeys file]

/-- `legacy_api_keys` -/
def legacyApiKeys : List String :=
  let configured := ((host.auth file).get? "api_keys").getD ""
  let raw := ((host.getenv "GPUCALL_API_KEYS").filter (· ≠ "")).getD configured
  ((raw.toList.splitOn ',').map fun key => strip (String.ofList key)).filter (· ≠ "")

/-- From the one file to the other every key keeps its tenant, the token is a key of the tenant, and
nothing else of the credentials changes. -/
structure RevokesNobody (file' : Option (List ℕ)) (tenantName token : String) : Prop where
  kept : ∀ key tenant, (host.currentTenantKeyMap file).get? key = some tenant →
    (host.currentTenantKeyMap file').get? key = some tenant
  added : (host.currentTenantKeyMap file').get? token = some tenantName
  legacy : host.legacyApiKeys file' = host.legacyApiKeys file
  others : ∀ provider ≠ "auth", Option.Rel (fun value value' => pyEq host.py value value' = true)
    ((host.storedProviders file).get? provider) ((host.storedProviders file').get? provider)

end CredentialsHost

/-- A text that one item of the list can name a tenant by. -/
structure IsListedName (name : String) : Prop where
  nonempty : name ≠ ""
  stripped : strip name = name
  no_comma : ',' ∉ name.toList
  no_colon : ':' ∉ name.toList

/-- The list survives being rewritten with a token for one more tenant: every key that works is the last
one of its tenant, and no tenant further down in the alphabet has it as its last one, too. -/
structure SurvivesNewKey (raw tenantName token : String) : Prop where
  listed : IsListedName tenantName
  fresh : token ∉ (tenantKeyMap [raw]).keys
  last : ∀ key tenant, (tenantKeyMap [raw]).get? key = some tenant →
    (parseBootstrapTenantKeys raw).get? tenant = some key ∧
      ∀ other, (parseBootstrapTenantKeys raw).get? other = some key → other ≤ tenant

/-! ## Items -/

theorem bootstrapPair_eq_tenantKey (item : String) : bootstrapPair item = tenantKey item := by
  rw [bootstrapPair, tenantKey]
  by_cases hcolon : ':' ∈ item.toList
  · have hne : strip item ≠ "" := fun heq => absurd (strip_eq_empty.mp heq ':' hcolon) (by decide)
    simp [hcolon, hne]
  · simp [hcolon]

/-- The items that `tenant_key_map` takes from a list, each with its tenant and its key. -/
def tenantKeyPairs (raw : String) : List (String × String) :=
  ((raw.toList.splitOn ',').map String.ofList).filterMap tenantKey

theorem get?_tenantKeyMap (sources : List String) (key : String) :
    (tenantKeyMap sources).get? key =
      ((sources.flatMap tenantKeyPairs).map Prod.swap).reverse.lookup key := by
  have hmap : tenantKeyMap sources = .ofFields ((sources.flatMap tenantKeyPairs).map Prod.swap) := by
    unfold tenantKeyPairs
    rw [← List.filterMap_flatMap, Dict.ofFields, List.foldl_map]
    rfl
  rw [hmap, Dict.get?_ofFields]

theorem get?_parseBootstrapTenantKeys (raw tenant : String) :
    (parseBootstrapTenantKeys raw).get? tenant = (tenantKeyPairs raw).reverse.lookup tenant := by
  rw [parseBootstrapTenantKeys, funext bootstrapPair_eq_tenantKey, ← tenantKeyPairs, Dict.get?_ofFields]

/-- The empty list has no keys. -/
theorem tenantKeyMap_empty_cons (raw : String) : tenantKeyMap ["", raw] = tenantKeyMap [raw] := rfl

/-- A tenant and a key as they come out of an item. -/
structure IsListedPair (pair : String × String) : Prop where
  name : IsListedName pair.1
  key_nonempty : pair.2 ≠ ""
  key_stripped : strip pair.2 = pair.2
  key_no_comma : ',' ∉ pair.2.toList

theorem isListedPair_of_mem {raw : String} {pair : String × String} (h : pair ∈ tenantKeyPairs raw) :
    IsListedPair pair := by
  obtain ⟨item, hitem, hpair⟩ := List.mem_filterMap.mp h
  obtain ⟨part, hpart, rfl⟩ := List.mem_map.mp hitem
  have hcomma : ',' ∉ part := not_mem_of_mem_splitOn hpart
  rw [tenantKey, String.toList_ofList] at hpair
  split at hpair
  · cases hpair
  · simp only [Option.ite_none_right_eq_some, Bool.and_eq_true, decide_eq_true_eq,
      Option.some.injEq] at hpair
    obtain ⟨⟨hname, hkey⟩, rfl⟩ := hpair
    refine ⟨⟨hname, strip_strip _, ?_, ?_⟩, hkey, strip_strip _, ?_⟩
    · intro hmem
      have hmem := (sublist_strip _).subset hmem
      rw [String.toList_ofList] at hmem
      exact hcomma ((List.takeWhile_sublist _).subset hmem)
    · intro hmem
      have hmem := (sublist_strip _).subset hmem
      rw [String.toList_ofList] at hmem
      exact absurd (List.mem_takeWhile_imp hmem) (by decide)
    · intro hmem
      have hmem := (sublist_strip _).subset hmem
      rw [String.toList_ofList] at hmem
      exact hcomma ((List.dropWhile_sublist _).subset ((List.drop_sublist _ _).subset hmem))

/-- An item made of a tenant and a key is read as the two. -/
theorem IsListedPair.tenantKey_eq {pair : String × String} (h : IsListedPair pair) :
    tenantKey (pair.1 ++ ":" ++ pair.2) = some pair := by
  have hchars : (pair.1 ++ ":" ++ pair.2).toList = pair.1.toList ++ ':' :: pair.2.toList := by simp
  have hname : ∀ c ∈ pair.1.toList, decide (c ≠ ':') = true := by
    intro c hc
    exact decide_eq_true fun heq => h.name.no_colon (heq ▸ hc)
  have htenant : (pair.1.toList ++ ':' :: pair.2.toList).takeWhile (· ≠ ':') = pair.1.toList := by
    rw [List.takeWhile_append_of_pos hname]
    simp
  have hkey : (pair.1.toList ++ ':' :: pair.2.toList).dropWhile (· ≠ ':') = ':' :: pair.2.toList := by
    rw [List.dropWhile_append_of_pos hname]
    simp
  rw [← bootstrapPair_eq_tenantKey, bootstrapPair, hchars, htenant, hkey]
  simp [h.name.stripped, h.name.nonempty, h.key_stripped, h.key_nonempty]

theorem tenantKeyPairs_formatTenantKeys {keys : Dict String} (hne : keys.entries ≠ [])
    (h : ∀ pair ∈ keys.entries, IsListedPair pair) :
    tenantKeyPairs (formatTenantKeys keys) =
      keys.entries.insertionSort fun pair other => toLex pair ≤ toLex other := by
  generalize hsorted : keys.entries.insertionSort (fun pair other => toLex pair ≤ toLex other) = sorted
  have hlisted : ∀ pair ∈ sorted, IsListedPair pair := by
    intro pair hpair
    exact h pair ((List.mem_insertionSort _).mp (hsorted ▸ hpair))
  have hsome : sorted ≠ [] := by
    rw [← hsorted, ← List.length_pos_iff, List.length_insertionSort, List.length_pos_iff]
    exact hne
  rw [tenantKeyPairs, formatTenantKeys, hsorted, joinStr, String.toList_intercalate]
  have hcomma : ",".toList = [','] := by decide
  have hno : ∀ part ∈ (sorted.map fun (tenant, key) => tenant ++ ":" ++ key).map String.toList,
      ',' ∉ part := by
    intro part hpart
    obtain ⟨item, hitem, rfl⟩ := List.mem_map.mp hpart
    obtain ⟨pair, hpair, rfl⟩ := List.mem_map.mp hitem
    simp [(hlisted pair hpair).name.no_comma, (hlisted pair hpair).key_no_comma]
  rw [hcomma, List.splitOn_intercalate ',' hno (by simpa using hsome), List.map_map, List.map_map,
    List.filterMap_map]
  refine (List.filterMap_congr fun pair hpair => ?_).trans List.filterMap_some
  rw [Function.comp_apply, Function.comp_apply, Function.comp_apply, String.ofList_toList]
  exact (hlisted pair hpair).tenantKey_eq

theorem get?_tenantKeyMap_singleton (raw key : String) :
    (tenantKeyMap [raw]).get? key = ((tenantKeyPairs raw).map Prod.swap).reverse.lookup key := by
  rw [get?_tenantKeyMap, List.flatMap_cons, List.flatMap_nil, List.append_nil]

theorem mem_tenantKeyPairs_of_map {raw key tenant : String}
    (h : (tenantKeyMap [raw]).get? key = some tenant) : (tenant, key) ∈ tenantKeyPairs raw := by
  rw [get?_tenantKeyMap_singleton] at h
  obtain ⟨pair, hpair, heq⟩ := List.mem_map.mp (List.mem_reverse.mp (OptionList.mem_of_lookup h))
  cases heq
  exact hpair

theorem mem_tenantKeyPairs_of_parse {raw key tenant : String}
    (h : (parseBootstrapTenantKeys raw).get? tenant = some key) : (tenant, key) ∈ tenantKeyPairs raw := by
  rw [get?_parseBootstrapTenantKeys] at h
  exact List.mem_reverse.mp (OptionList.mem_of_lookup h)

/-- A tenant of the list has a key for the function that rewrites it. -/
theorem mem_keys_parse {raw key tenant : String} (h : (tenant, key) ∈ tenantKeyPairs raw) :
    tenant ∈ (parseBootstrapTenantKeys raw).keys := by
  refine Dict.mem_keys.mpr (Option.isSome_iff_exists.mp ?_)
  rw [get?_parseBootstrapTenantKeys, List.lookup_isSome_iff]
  exact ⟨(tenant, key), List.mem_reverse.mpr h, beq_self_eq_true tenant⟩

/-- A key of the list belongs to some tenant. -/
theorem mem_keys_map {raw key tenant : String} (h : (tenant, key) ∈ tenantKeyPairs raw) :
    key ∈ (tenantKeyMap [raw]).keys := by
  refine Dict.mem_keys.mpr (Option.isSome_iff_exists.mp ?_)
  rw [get?_tenantKeyMap_singleton, List.lookup_isSome_iff]
  exact ⟨(key, tenant), List.mem_reverse.mpr (List.mem_map.mpr ⟨_, h, rfl⟩), beq_self_eq_true key⟩

/-- In a rewritten list a key belongs to the last of the tenants that have it. -/
theorem get?_tenantKeyMap_formatTenantKeys {keys : Dict String} {key tenant : String}
    (hne : keys.entries ≠ []) (h : ∀ pair ∈ keys.entries, IsListedPair pair) :
    (tenantKeyMap [formatTenantKeys keys]).get? key = some tenant ↔
      keys.get? tenant = some key ∧ ∀ other, keys.get? other = some key → other ≤ tenant := by
  rw [get?_tenantKeyMap_singleton, tenantKeyPairs_formatTenantKeys hne h]
  have hperm := List.perm_insertionSort (fun pair other => toLex pair ≤ toLex other) keys.entries
  have hsorted := List.pairwise_insertionSort (fun pair other => toLex pair ≤ toLex other) keys.entries
  generalize (keys.entries.insertionSort fun pair other => toLex pair ≤ toLex other) = sorted at *
  have hstrict : sorted.reverse.Pairwise fun pair other => toLex other < toLex pair := by
    have hdistinct : sorted.Nodup := hperm.nodup_iff.mpr (List.Nodup.of_map _ keys.nodup)
    refine List.pairwise_reverse.mpr ((hsorted.and hdistinct).imp fun hboth => ?_)
    exact lt_of_le_of_ne hboth.1 fun heq => hboth.2 (toLex.injective heq)
  have hmem (other : String) : (other, key) ∈ sorted.reverse ↔ keys.get? other = some key := by
    rw [List.mem_reverse, hperm.mem_iff, Dict.get?_eq_some]
  have hscan : (FirstWins.scan (fun pair : String × String => some pair.swap) sorted.reverse).lookup key =
      some tenant ↔ _ := FirstWins.lookup_scan_of_sorted hstrict
  rw [FirstWins.lookup_scan, List.filterMap_eq_map', List.map_reverse] at hscan
  rw [hscan]
  constructor
  · rintro ⟨pair, hpair, heq, hmax⟩
    obtain rfl : pair = (tenant, key) := by
      cases heq
      rfl
    refine ⟨(hmem tenant).mp hpair, fun other hother => ?_⟩
    have hle := hmax (other, key) ((hmem other).mpr hother) ⟨other, rfl⟩
    obtain hlt | ⟨rfl, -⟩ := Prod.Lex.le_iff.mp hle
    · exact hlt.le
    · exact le_rfl
  · rintro ⟨htenant, hmax⟩
    refine ⟨(tenant, key), (hmem tenant).mpr htenant, rfl, ?_⟩
    rintro ⟨other, key'⟩ hother ⟨value, heq⟩
    cases heq
    refine Prod.Lex.le_iff.mpr ?_
    obtain hlt | rfl := lt_or_eq_of_le (hmax other ((hmem other).mp hother))
    · exact .inl hlt
    · exact .inr ⟨rfl, le_rfl⟩

/-! ## The new key -/

theorem isSpace_of_isUrlsafe {c : Char} (h : isUrlsafe c = true) : isSpace c = false ∧ c ≠ ',' := by
  have hrange : 45 ≤ c.toNat ∧ c.toNat ≤ 122 := by
    simp only [isUrlsafe, Bool.or_eq_true, Utf8.isAlphanum_iff, decide_eq_true_eq] at h
    obtain (h | rfl) | rfl := h
    · omega
    · decide
    · decide
  constructor
  · simp only [isSpace, Bool.or_eq_false_iff, Bool.and_eq_false_iff, decide_eq_false_iff_not]
    omega
  · rintro rfl
    exact absurd hrange.1 (by decide)

/-- A token can stand in the list as the key of any tenant that can. -/
theorem UrlsafeText.isListedPair (random : UrlsafeText) {tenantName : String}
    (h : IsListedName tenantName) : IsListedPair (tenantName, "gpk_" ++ random.text) := by
  have hchars : ∀ c ∈ ("gpk_" ++ random.text).toList, isSpace c = false ∧ c ≠ ',' := by
    intro c hc
    rw [String.toList_append, List.mem_append] at hc
    obtain hc | hc := hc
    · exact isSpace_of_isUrlsafe ((by decide : ∀ c ∈ "gpk_".toList, isUrlsafe c = true) c hc)
    · exact isSpace_of_isUrlsafe (random.urlsafe c hc)
  refine ⟨h, ?_, strip_eq_self fun c hc => (hchars c hc).1, fun hmem => (hchars _ hmem).2 rfl⟩
  intro hempty
  have hlength := congrArg String.length hempty
  rw [String.length_append] at hlength
  simp at hlength

namespace CredentialsHost

variable {host : CredentialsHost} {file : Option (List ℕ)} {random : UrlsafeText}
  {tenantName : String} {created : CreatedKey}

theorem createBootstrapTenantKey_eq_ok
    (h : host.createBootstrapTenantKey file random tenantName = .ok created) :
    tenantName ∉ (parseBootstrapTenantKeys (host.tenantKeys file)).keys ∧
      created.token = "gpk_" ++ random.text ∧
      host.saveCredentials file "auth" ((host.auth file).set "tenant_keys" (formatTenantKeys
        ((parseBootstrapTenantKeys (host.tenantKeys file)).set tenantName created.token))) =
          .ok created.saved := by
  unfold createBootstrapTenantKey at h
  dsimp only at h
  split at h
  · cases h
  · rename_i hnew
    split at h
    · cases h
    · rename_i saved hsave
      cases h
      exact ⟨hnew, rfl, hsave⟩

theorem currentTenantKeyMap_of_unset (hunset : host.Unset) (file : Option (List ℕ)) :
    host.currentTenantKeyMap file = tenantKeyMap [host.tenantKeys file] := by
  unfold currentTenantKeyMap
  obtain h | h := hunset "GPUCALL_TENANT_API_KEYS" <;> rw [h] <;> rfl

theorem formatTenantKeys_ne_empty {keys : Dict String} (h : keys.entries ≠ []) :
    formatTenantKeys keys ≠ "" := by
  have hsome : (keys.entries.insertionSort fun pair other => toLex pair ≤ toLex other) ≠ [] := by
    rw [← List.length_pos_iff, List.length_insertionSort, List.length_pos_iff]
    exact h
  obtain ⟨pair, rest, hsorted⟩ := List.exists_cons_of_ne_nil hsome
  rw [formatTenantKeys, hsorted, joinStr, ne_eq, ← String.toList_inj, String.toList_intercalate,
    List.map_cons, List.map_cons]
  intro hnil
  have hcolon : ':' ∈ (pair.1 ++ ":" ++ pair.2).toList := by simp
  cases rest with
  | nil =>
    rw [List.map_nil, List.map_nil, List.intercalate_singleton] at hnil
    rw [hnil] at hcolon
    cases hcolon
  | cons second rest =>
    rw [List.map_cons, List.map_cons, List.intercalate_cons_cons] at hnil
    have hmem : ':' ∈ "".toList :=
      hnil ▸ List.mem_append_left _ (List.mem_append_left _ hcolon)
    cases hmem

theorem set_entries_ne_nil (d : Dict α) (key : String) (value : α) : (d.set key value).entries ≠ [] :=
  List.ne_nil_of_mem (Dict.get?_eq_some.mp (Dict.get?_set_self d key value))

section

variable (h : host.createBootstrapTenantKey file random tenantName = .ok created)
  (hback : host.ReadsBack created.saved) (hunset : host.Unset)

include h hback

theorem storedProviders_dumped {provider : String} (hother : provider ≠ "auth") :
    Option.Rel (fun value value' => pyEq host.py value value' = true)
      ((host.storedProviders file).get? provider)
      ((host.storedProviders (host.dumped created.saved)).get? provider) := by
  obtain ⟨-, -, hsave⟩ := createBootstrapTenantKey_eq_ok h
  have hstored := rel_storedProviders_dumped hsave hback provider
  rwa [Dict.get?_set, if_neg hother] at hstored

include hunset

theorem get?_auth_dumped (key : String) :
    (host.auth (host.dumped created.saved)).get? key =
      (((host.auth file).set "tenant_keys" (formatTenantKeys
        ((parseBootstrapTenantKeys (host.tenantKeys file)).set tenantName created.token))).get? key).filter
          (· ≠ "") := by
  obtain ⟨-, -, hsave⟩ := createBootstrapTenantKey_eq_ok h
  obtain ⟨loaded, hloaded, hget⟩ := get?_loadCredentials_dumped hunset hsave hback
  rw [auth, hloaded, Option.getD_some, hget]

theorem tenantKeys_dumped : host.tenantKeys (host.dumped created.saved) = formatTenantKeys
    ((parseBootstrapTenantKeys (host.tenantKeys file)).set tenantName created.token) := by
  rw [tenantKeys, get?_auth_dumped h hback hunset, Dict.get?_set_self, Option.filter_some,
    if_pos (decide_eq_true (formatTenantKeys_ne_empty (set_entries_ne_nil _ _ _))), Option.getD_some]

theorem legacyApiKeys_dumped : host.legacyApiKeys (host.dumped created.saved) = host.legacyApiKeys file := by
  have hconfigured : ((host.auth (host.dumped created.saved)).get? "api_keys").getD "" =
      ((host.auth file).get? "api_keys").getD "" := by
    rw [get?_auth_dumped h hback hunset, Dict.get?_set, if_neg (by decide)]
    cases (host.auth file).get? "api_keys" with
    | none => rfl
    | some keys => by_cases hempty : keys = "" <;> simp [Option.filter_some, hempty]
  rw [legacyApiKeys, legacyApiKeys, hconfigured]

end

end CredentialsHost

theorem isListedName_of_map {raw key tenant : String} (h : (tenantKeyMap [raw]).get? key = some tenant) :
    IsListedName tenant :=
  (isListedPair_of_mem (mem_tenantKeyPairs_of_map h)).name

section

variable {raw tenantName token : String}

/-- The keys of the list with the new one. -/
theorem get?_tenantKeyMap_set (htoken : IsListedPair (tenantName, token)) (key tenant : String) :
    (tenantKeyMap [formatTenantKeys ((parseBootstrapTenantKeys raw).set tenantName token)]).get? key =
        some tenant ↔
      ((parseBootstrapTenantKeys raw).set tenantName token).get? tenant = some key ∧
        ∀ other, ((parseBootstrapTenantKeys raw).set tenantName token).get? other = some key →
          other ≤ tenant := by
  refine get?_tenantKeyMap_formatTenantKeys (CredentialsHost.set_entries_ne_nil _ _ _) ?_
  rintro ⟨tenant, key⟩ hpair
  have hget := Dict.get?_eq_some.mpr hpair
  rw [Dict.get?_set] at hget
  split at hget
  · rename_i heq
    cases hget
    exact heq ▸ htoken
  · exact isListedPair_of_mem (mem_tenantKeyPairs_of_parse hget)

variable (hnew : tenantName ∉ (parseBootstrapTenantKeys raw).keys)

include hnew

theorem ne_of_mem_tenantKeyPairs {tenant key : String} (h : (tenant, key) ∈ tenantKeyPairs raw) :
    tenant ≠ tenantName :=
  fun heq => hnew (heq ▸ mem_keys_parse h)

theorem survivesNewKey_of_kept (htoken : IsListedName tenantName → IsListedPair (tenantName, token))
    (hkept : ∀ key tenant, (tenantKeyMap [raw]).get? key = some tenant →
      (tenantKeyMap [formatTenantKeys ((parseBootstrapTenantKeys raw).set tenantName token)]).get? key =
        some tenant)
    (hadded : (tenantKeyMap [formatTenantKeys
      ((parseBootstrapTenantKeys raw).set tenantName token)]).get? token = some tenantName) :
    SurvivesNewKey raw tenantName token := by
  have hlisted := isListedName_of_map hadded
  have hpair := htoken hlisted
  refine ⟨hlisted, fun hmem => ?_, fun key tenant hkey => ?_⟩
  · obtain ⟨tenant, htenant⟩ := Dict.mem_keys.mp hmem
    have heq : some tenant = some tenantName := (hkept token tenant htenant).symm.trans hadded
    exact ne_of_mem_tenantKeyPairs hnew (mem_tenantKeyPairs_of_map htenant) (Option.some.inj heq)
  · have hne := ne_of_mem_tenantKeyPairs hnew (mem_tenantKeyPairs_of_map hkey)
    obtain ⟨hlast, hmax⟩ := (get?_tenantKeyMap_set hpair key tenant).mp (hkept key tenant hkey)
    rw [Dict.get?_set, if_neg hne] at hlast
    refine ⟨hlast, fun other hother => hmax other ?_⟩
    rwa [Dict.get?_set, if_neg (ne_of_mem_tenantKeyPairs hnew (mem_tenantKeyPairs_of_parse hother))]

theorem SurvivesNewKey.kept (h : SurvivesNewKey raw tenantName token)
    (htoken : IsListedPair (tenantName, token)) {key tenant : String}
    (hkey : (tenantKeyMap [raw]).get? key = some tenant) :
    (tenantKeyMap [formatTenantKeys ((parseBootstrapTenantKeys raw).set tenantName token)]).get? key =
      some tenant := by
  have hne := ne_of_mem_tenantKeyPairs hnew (mem_tenantKeyPairs_of_map hkey)
  obtain ⟨hlast, hmax⟩ := h.last key tenant hkey
  refine (get?_tenantKeyMap_set htoken key tenant).mpr ⟨?_, fun other hother => ?_⟩
  · rwa [Dict.get?_set, if_neg hne]
  · rw [Dict.get?_set] at hother
    split at hother
    · cases hother
      exact absurd (Dict.mem_keys.mpr ⟨tenant, hkey⟩) h.fresh
    · exact hmax other hother

omit hnew in
theorem SurvivesNewKey.added (h : SurvivesNewKey raw tenantName token)
    (htoken : IsListedPair (tenantName, token)) :
    (tenantKeyMap [formatTenantKeys ((parseBootstrapTenantKeys raw).set tenantName token)]).get? token =
      some tenantName := by
  refine (get?_tenantKeyMap_set htoken token tenantName).mpr
    ⟨Dict.get?_set_self _ _ _, fun other hother => ?_⟩
  rw [Dict.get?_set] at hother
  split at hother
  · rename_i heq
    exact heq.le
  · exact absurd (mem_keys_map (mem_tenantKeyPairs_of_parse hother)) h.fresh

end

/-- A new tenant key leaves everyone else's credentials alone exactly when the list of keys survives
being rewritten. -/
theorem revokesNobody_iff (host : CredentialsHost) (hunset : host.Unset) (file : Option (List ℕ))
    (random : UrlsafeText) (tenantName : String) (created : CreatedKey)
    (h : host.createBootstrapTenantKey file random tenantName = .ok created)
    (hback : host.ReadsBack created.saved) :
    host.RevokesNobody file (host.dumped created.saved) tenantName created.token ↔
      SurvivesNewKey (host.tenantKeys file) tenantName created.token := by
  obtain ⟨hnew, htoken, -⟩ := CredentialsHost.createBootstrapTenantKey_eq_ok h
  have hlisted : IsListedName tenantName → IsListedPair (tenantName, created.token) :=
    htoken ▸ random.isListedPair
  have hbefore := CredentialsHost.currentTenantKeyMap_of_unset hunset file
  have hafter := CredentialsHost.currentTenantKeyMap_of_unset hunset (host.dumped created.saved)
  rw [CredentialsHost.tenantKeys_dumped h hback hunset] at hafter
  constructor
  · intro hrevokes
    refine survivesNewKey_of_kept hnew hlisted ?_ ?_
    · have hkept := hrevokes.kept
      rwa [hbefore, hafter] at hkept
    · have hadded := hrevokes.added
      rwa [hafter] at hadded
  · intro hsurvives
    have hpair := hlisted hsurvives.listed
    refine ⟨?_, ?_, CredentialsHost.legacyApiKeys_dumped h hback hunset,
      fun provider => CredentialsHost.storedProviders_dumped h hback⟩
    · rw [hbefore, hafter]
      exact fun key tenant => hsurvives.kept hnew hpair
    · rw [hafter]
      exact hsurvives.added hpair

/-- The credentials file with nothing but a list of tenant keys. -/
def keyData (raw : String) : Dict Json where
  entries := [("providers", .obj [("auth", .obj [("tenant_keys", .str raw)])])]
  nodup := List.nodup_singleton _

def keyText (raw : String) : String := "providers:\n  auth:\n    tenant_keys: " ++ raw ++ "\n"

/-- A host without overrides on which the list `raw` becomes `raw'`. -/
def keyHost (raw raw' : String) : CredentialsHost where
  py := { repr := fun _ => "", numberEq := fun left right => left = right, sha256 := fun _ => "" }
  yaml := {
    toYaml := fun _ => "{}\n"
    load := fun text => .mapping (keyData (if text = keyText raw then raw else raw'))
    readText := fun bytes => some (if bytes = utf8 (keyText raw) then keyText raw else keyText raw')
    nul_notMem_toYaml := fun _ => by decide }
  dump := fun _ => keyText raw'
  getenv := fun _ => none
  overrides := []

def keyFile (raw : String) : Option (List ℕ) := some (utf8 (keyText raw))

/-- 32 bytes that are zero -/
def zeroToken : UrlsafeText := ⟨"AAAAAAAAAAAAAAAAAAAAAAAAAAAAAAAAAAAAAAAAAAA", by decide, by decide⟩

def zeroKey : String := "gpk_AAAAAAAAAAAAAAAAAAAAAAAAAAAAAAAAAAAAAAAAAAA"

def createdKey (tenantName raw' : String) : CreatedKey where
  token := zeroKey
  saved := keyData raw'
  record := {
    systemName := tenantName, scope := "tenant", token := zeroKey
    nonExpiringPolicyReason :=
      "trusted bootstrap key is operator-managed; rotate on caller ownership or exposure changes" }

theorem unset_keyHost (raw raw' : String) : (keyHost raw raw').Unset := fun _ => .inl rfl

theorem keyText_inj {raw raw' : String} : keyText raw = keyText raw' ↔ raw = raw' := by
  refine ⟨fun h => ?_, congrArg keyText⟩
  unfold keyText at h
  have hchars := congrArg String.toList h
  simp only [String.toList_append] at hchars
  rw [List.append_left_inj, List.append_right_inj] at hchars
  exact String.toList_inj.mp hchars

theorem readRoot_keyHost (raw raw' : String) :
    (keyHost raw raw').readRoot (utf8 (keyText raw)) = .mapping (keyData raw) ∧
      (keyHost raw raw').readRoot (utf8 (keyText raw')) = .mapping (keyData raw') := by
  have htext : utf8 (keyText raw') = utf8 (keyText raw) ↔ raw' = raw :=
    utf8_injective.eq_iff.trans keyText_inj
  constructor
  · simp [CredentialsHost.readRoot, keyHost]
  · by_cases heq : raw' = raw
    · simp [CredentialsHost.readRoot, keyHost, heq]
    · simp [CredentialsHost.readRoot, keyHost, htext, keyText_inj, heq]

theorem readsBack_keyHost (raw raw' tenantName : String) :
    (keyHost raw raw').ReadsBack (createdKey tenantName raw').saved := by
  refine ⟨keyData raw', (readRoot_keyHost raw raw').2, ?_⟩
  simp [createdKey, keyData, pyEq, pyEqFields]

theorem auth_keyHost (raw raw' : String) :
    ((keyHost raw raw').auth (keyFile raw)).entries = [("tenant_keys", raw)] := by
  simp only [CredentialsHost.auth, CredentialsHost.loadCredentials, CredentialsHost.storedProviders,
    keyFile, (readRoot_keyHost raw raw').1]
  rfl

theorem tenantKeys_keyHost (raw raw' : String) :
    (keyHost raw raw').tenantKeys (keyFile raw) = raw := by
  rw [CredentialsHost.tenantKeys, Dict.get?, auth_keyHost]
  rfl

theorem createBootstrapTenantKey_keyHost {raw raw' tenantName : String}
    (hnew : tenantName ∉ (parseBootstrapTenantKeys raw).keys) (hne : raw' ≠ "")
    (hlist : formatTenantKeys ((parseBootstrapTenantKeys raw).set tenantName zeroKey) = raw') :
    (keyHost raw raw').createBootstrapTenantKey (keyFile raw) zeroToken tenantName =
      .ok (createdKey tenantName raw') := by
  have hauth : (keyHost raw raw').auth (keyFile raw) = ⟨[("tenant_keys", raw)], List.nodup_singleton _⟩ :=
    Dict.ext_entries (auth_keyHost raw raw')
  have hsave : (keyHost raw raw').saveCredentials (keyFile raw) "auth"
      ((Dict.mk [("tenant_keys", raw)] (List.nodup_singleton _)).set "tenant_keys" raw') =
        .ok (keyData raw') := by
    simp only [CredentialsHost.saveCredentials, CredentialsHost.loadedData, keyFile,
      (readRoot_keyHost raw raw').1]
    have hsaved : CredentialsHost.savedValues
        ((Dict.mk [("tenant_keys", raw)] (List.nodup_singleton _)).set "tenant_keys" raw') =
          [("tenant_keys", .str raw')] := by
      simp [CredentialsHost.savedValues, Dict.set, Dict.keys, hne]
    unfold CredentialsHost.setProvider
    rw [hsaved]
    rfl
  unfold CredentialsHost.createBootstrapTenantKey
  rw [tenantKeys_keyHost, if_neg hnew, hauth]
  have htoken : "gpk_" ++ zeroToken.text = zeroKey := by decide
  simp only [htoken, hlist, hsave]
  rfl

def acmeHost : CredentialsHost := keyHost "acme:k1" ("acme:k1,beta:" ++ zeroKey)

theorem revokesNobody_iff_acme :
    acmeHost.RevokesNobody (keyFile "acme:k1")
        (acmeHost.dumped (createdKey "beta" ("acme:k1,beta:" ++ zeroKey)).saved) "beta" zeroKey ↔
      SurvivesNewKey (acmeHost.tenantKeys (keyFile "acme:k1")) "beta" zeroKey :=
  revokesNobody_iff acmeHost (unset_keyHost _ _) (keyFile "acme:k1") zeroToken "beta"
    (createdKey "beta" ("acme:k1,beta:" ++ zeroKey))
    (createBootstrapTenantKey_keyHost (by decide +kernel) (by decide) (by decide +kernel))
    (readsBack_keyHost _ _ _)

/-- A tenant that is rotating its key loses the one that it still uses. -/
theorem not_revokesNobody :
    ¬ ∀ (host : CredentialsHost), host.Unset → ∀ (file : Option (List ℕ)) (random : UrlsafeText)
      (tenantName : String) (created : CreatedKey),
      host.createBootstrapTenantKey file random tenantName = .ok created →
      host.ReadsBack created.saved →
      host.RevokesNobody file (host.dumped created.saved) tenantName created.token := by
  intro h
  have hcreated : (keyHost "acme:k1,acme:k2" ("acme:k2,beta:" ++ zeroKey)).createBootstrapTenantKey
      (keyFile "acme:k1,acme:k2") zeroToken "beta" = .ok (createdKey "beta" ("acme:k2,beta:" ++ zeroKey)) :=
    createBootstrapTenantKey_keyHost (by decide +kernel) (by decide) (by decide +kernel)
  have hback := readsBack_keyHost "acme:k1,acme:k2" ("acme:k2,beta:" ++ zeroKey) "beta"
  have hkept := (h _ (unset_keyHost _ _) _ zeroToken "beta" _ hcreated hback).kept "k1" "acme"
  rw [CredentialsHost.currentTenantKeyMap_of_unset (unset_keyHost _ _),
    CredentialsHost.currentTenantKeyMap_of_unset (unset_keyHost _ _), tenantKeys_keyHost,
    CredentialsHost.tenantKeys_dumped hcreated hback (unset_keyHost _ _), tenantKeys_keyHost] at hkept
  exact absurd (hkept (by decide +kernel)) (by decide +kernel)

end Gpucall
