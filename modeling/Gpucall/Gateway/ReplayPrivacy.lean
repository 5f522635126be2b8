import Gpucall.JsonDumps
import Gpucall.Routing.Environment
import Gpucall.Url
import Gpucall.Gateway.Idempotency

/-! Whose response an idempotency key gives back. The cache key joins five texts with colons, three of
them chosen by the caller, so it does not say where one ends and the next begins; the request hash
next to it fixes task, recipe and mode. A request is seen here as the helpers of `app_helpers.py` see
it, with whatever store calls it makes in whatever order. -/

namespace Gpucall

/-! ## Identities and keys -/

/-- What `idempotency_identity` reads: the API key of the request and the host of its client. -/
structure HttpCaller where
  apiKey : Option String
  host : Option String

/-- Whom `idempotency_identity` means to tell apart. -/
inductive IdempotencyIdentity where
  | api (key : String)
  | client (host : String)
  deriving DecidableEq

def HttpCaller.identity (caller : HttpCaller) : IdempotencyIdentity :=
  if truthyStr caller.apiKey then .api (caller.apiKey.getD "")
  else .client (caller.host.getD "unknown")

/-- `idempotency_identity`, where `sha256` gives the hexadecimal digest of a text. -/
def idempotencyIdentity (sha256 : String → String) (caller : HttpCaller) : String :=
  match caller.identity with
  | .api key => "api:" ++ sha256 key
  | .client host => "client:" ++ host

/-- A character of an IP address literal -/
def AddressChar (c : Char) : Prop := c ∈ "0123456789abcdefABCDEF:.".toList

instance (c : Char) : Decidable (AddressChar c) := inferInstanceAs (Decidable (c ∈ _))

/-- An IP address literal, with the zone that an IPv6 address may have. -/
structure AddressLiteral (host : String) : Prop where
  zoned : ∃ address zone, host.toList = address ++ zone ∧ (∀ c ∈ address, AddressChar c) ∧
    (zone = [] ∨ ∃ name, zone = '%' :: name ∧ ':' ∉ name)

/-- The caller has an API key or a client with an address. -/
def HttpCaller.Known (caller : HttpCaller) : Prop :=
  truthyStr caller.apiKey = true ∨ ∃ host, caller.host = some host ∧ AddressLiteral host

/-- The fields of a `TaskRequest` without its key. -/
def bodyFields : List String :=
  ["task", "mode", "recipe", "intent", "input_refs", "inline_inputs", "messages",
    "requested_tuple", "max_tokens", "temperature", "top_p", "stop", "seed", "presence_penalty",
    "frequency_penalty", "tools", "tool_choice", "functions", "function_call", "stream_options", "n",
    "timeout_seconds", "lease_ttl_seconds", "response_format", "artifact_export", "split_learning",
    "webhook_url", "metadata", "bypass_circuit_for_validation"]

/-- A `TaskRequest`, with the fields that are not read here as `model_dump(mode="json")` gives them. -/
structure KeyedRequest where
  task : String
  mode : ExecutionMode
  recipe : Option String := none
  idempotencyKey : Option String
  others : String → Json := fun _ => .null
  plain : ∀ name, (others name).PlainNumbers := by intro name; trivial

namespace KeyedRequest

variable (sha256 : String → String) (request : KeyedRequest)

/-- A field of `request.model_dump(mode="json")` -/
def value (name : String) : Json :=
  if name = "task" then .str request.task
  else if name = "mode" then .str request.mode.value
  else if name = "recipe" then request.recipe.elim .null .str
  else request.others name

def body : Json := .obj (bodyFields.map fun name => (name, request.value name))

/-- `idempotency_request_hash` -/
def requestHash : String := sha256 (String.ofList (request.body.dumps true))

/-- `idempotency_cache_key` -/
def cacheKey (identity : String) : String :=
  identity ++ ":" ++ request.task ++ ":" ++
    (if truthyStr request.recipe then request.recipe.getD "" else "auto") ++ ":" ++
    request.mode.value ++ ":" ++ request.idempotencyKey.getD "None"

/-- The bodies are equal, up to the order of keys inside of their fields. -/
def SameBody (request other : KeyedRequest) : Prop :=
  ∀ name ∈ bodyFields, (request.value name).dumps true = (other.value name).dumps true

end KeyedRequest

/-! ### Bodies -/

namespace KeyedRequest

variable {sha256 : String → String} {request other : KeyedRequest}

theorem plain_value (request : KeyedRequest) (name : String) : (request.value name).PlainNumbers := by
  unfold value
  split_ifs
  · trivial
  · trivial
  · cases request.recipe <;> trivial
  · exact request.plain name

/-- Hashes tell bodies apart. -/
theorem requestHash_eq_iff (hsha : Function.Injective sha256) :
    request.requestHash sha256 = other.requestHash sha256 ↔ request.SameBody other := by
  constructor
  · intro h
    have hdumps : request.body.dumps true = other.body.dumps true :=
      String.ofList_injective (hsha h)
    exact Json.dumps_obj_inj (fun name _ => request.plain_value name)
      (fun name _ => other.plain_value name) hdumps
  · intro h
    have hfields : bodyFields.map (fun name => (name, (request.value name).dumps true)) =
        bodyFields.map fun name => (name, (other.value name).dumps true) :=
      List.map_congr_left fun name hname => by rw [h name hname]
    unfold requestHash body
    rw [Json.dumps, Json.dumps, Json.dumpsFields_map, Json.dumpsFields_map, hfields]

/-- Equal bodies have one task, one mode and one recipe. -/
theorem SameBody.fields (h : request.SameBody other) :
    request.task = other.task ∧ request.mode = other.mode ∧ request.recipe = other.recipe := by
  have htask : (Json.str request.task).dumps true = (Json.str other.task).dumps true :=
    h "task" (by decide)
  have hmode : (Json.str request.mode.value).dumps true = (Json.str other.mode.value).dumps true :=
    h "mode" (by decide)
  have hrecipe : (request.recipe.elim .null Json.str).dumps true =
      (other.recipe.elim .null Json.str).dumps true := h "recipe" (by decide)
  rw [Json.dumps, Json.dumps] at htask hmode
  refine ⟨Json.dumpsString_inj htask, ?_, ?_⟩
  · have hvalue := Json.dumpsString_inj hmode
    cases hr : request.mode <;> cases ho : other.mode <;> rw [hr, ho] at hvalue <;>
      first | rfl | (exfalso; revert hvalue; decide)
  · cases hr : request.recipe with
    | none =>
      cases ho : other.recipe with
      | none => rfl
      | some recipe =>
        rw [hr, ho, Option.elim, Option.elim, Json.dumps, Json.dumps, Json.dumpsString] at hrecipe
        cases hrecipe
    | some recipe =>
      cases ho : other.recipe with
      | none =>
        rw [hr, ho, Option.elim, Option.elim, Json.dumps, Json.dumps, Json.dumpsString] at hrecipe
        cases hrecipe
      | some recipe' =>
        rw [hr, ho, Option.elim, Option.elim, Json.dumps, Json.dumps] at hrecipe
        rw [Json.dumpsString_inj hrecipe]

end KeyedRequest

/-! ### Keys

Of two cache keys with one text in their middle, the identity of one may be longer than that of the
other by a part that the middle starts with. That part is the end of a host, so it has only letters
that an address or the zone of one may have, while the middle holds a mode. -/

/-- How far a text, read from behind a colon or in the zone of an address, goes on like the end of a
host. -/
def hostRun : Bool → List Char → ℕ
  | _, [] => 0
  | inAddress, c :: rest =>
    if c = ':' then hostRun true rest + 1
    else if !inAddress then hostRun false rest + 1
    else if AddressChar c then hostRun true rest + 1
    else if c = '%' then hostRun false rest + 1
    else 0

theorem hostRun_colon (inAddress : Bool) (rest : List Char) :
    hostRun inAddress (':' :: rest) = hostRun true rest + 1 := by simp [hostRun]

theorem hostRun_address {address : List Char} (h : ∀ c ∈ address, AddressChar c) (rest : List Char) :
    hostRun true (address ++ rest) = address.length + hostRun true rest := by
  induction address with
  | nil => simp
  | cons c address ih =>
    have hc := h c List.mem_cons_self
    rw [List.cons_append, hostRun, ih fun e he => h e (List.mem_cons_of_mem _ he), List.length_cons]
    simp only [Bool.not_true, Bool.false_eq_true, if_false, hc, if_true, ite_self]
    omega

theorem hostRun_zone {zone : List Char} (h : ':' ∉ zone) (rest : List Char) :
    hostRun false (zone ++ rest) = zone.length + hostRun false rest := by
  induction zone with
  | nil => simp
  | cons c zone ih =>
    obtain ⟨hc, hzone⟩ := not_or.mp (List.mem_cons.not.mp h)
    rw [List.cons_append, hostRun, ih hzone, List.length_cons]
    simp only [if_neg (Ne.symm hc), Bool.not_false, if_true]
    omega

/-- A text that stops before its end stops there whatever comes behind it. -/
theorem hostRun_append {inAddress : Bool} {text : List Char}
    (h : hostRun inAddress text < text.length) (rest : List Char) :
    hostRun inAddress (text ++ rest) = hostRun inAddress text := by
  induction text generalizing inAddress with
  | nil => simp at h
  | cons c text ih =>
    rw [List.cons_append]
    unfold hostRun at h ⊢
    rw [List.length_cons] at h
    split_ifs at h ⊢ <;> first | rfl | rw [ih (by omega)]

theorem hostRun_mode (mode : ExecutionMode) (inAddress : Bool) (before : List Char) :
    hostRun inAddress (before ++ ':' :: mode.value.toList) <
      (before ++ ':' :: mode.value.toList).length := by
  induction before generalizing inAddress with
  | nil =>
    rw [List.nil_append, hostRun_colon, List.length_cons]
    exact Nat.succ_lt_succ (by cases mode <;> decide)
  | cons c before ih =>
    rw [List.cons_append, hostRun, List.length_cons]
    have htrue := ih true
    have hfalse := ih false
    split_ifs <;> omega

/-- The end of a host from a colon on, in front of another colon, is run over as a whole. -/
theorem AddressLiteral.hostRun {host : String} (h : AddressLiteral host) {front tail rest : List Char}
    (hsuffix : host.toList = front ++ ':' :: tail) :
    hostRun true (':' :: tail ++ ':' :: rest) =
      (':' :: tail).length + Gpucall.hostRun true (':' :: rest) := by
  obtain ⟨address, zone, hhost, haddress, hzone⟩ := h.zoned
  have hcolon : ':' ∉ zone := by
    rcases hzone with rfl | ⟨name, rfl, hname⟩
    · exact List.not_mem_nil
    · exact List.mem_cons.not.mpr (not_or.mpr ⟨by decide, hname⟩)
  rw [hhost] at hsuffix
  -- the colon stands in the address, since the zone has none
  obtain ⟨part, rfl, htail⟩ : ∃ part, address = front ++ part ∧ ':' :: tail = part ++ zone := by
    rcases List.append_eq_append_iff.mp hsuffix with ⟨part, -, hz⟩ | ⟨part, ha, ht⟩
    · exact absurd (hz ▸ List.mem_append_right part List.mem_cons_self) hcolon
    · exact ⟨part, ha, ht⟩
  have hpart : ∀ c ∈ part, AddressChar c := fun c hc => haddress c (List.mem_append_right _ hc)
  rw [htail, List.append_assoc, hostRun_address hpart, List.length_append]
  rcases hzone with rfl | ⟨name, rfl, hname⟩
  · simp
  · have hzone := hostRun_zone hname (':' :: rest)
    have hpercent : Gpucall.hostRun true ('%' :: (name ++ ':' :: rest)) =
        Gpucall.hostRun false (name ++ ':' :: rest) + 1 := by
      rw [Gpucall.hostRun]
      simp [show ¬AddressChar '%' by decide]
    rw [List.cons_append, hpercent, hzone, hostRun_colon, hostRun_colon, List.length_cons]
    omega

section

variable {sha256 : String → String} {a b : HttpCaller}

theorem HttpCaller.Known.host (h : b.Known) {host : String} (hclient : b.identity = .client host) :
    AddressLiteral host := by
  unfold HttpCaller.identity at hclient
  split at hclient
  · cases hclient
  next hapi =>
  rcases h with h | ⟨known, hhost, hliteral⟩
  · exact absurd h hapi
  · rw [hhost] at hclient
    cases hclient
    exact hliteral

theorem identity_toList (sha256 : String → String) (caller : HttpCaller) :
    (idempotencyIdentity sha256 caller).toList =
      match caller.identity with
      | .api key => "api:".toList ++ (sha256 key).toList
      | .client host => "client:".toList ++ host.toList := by
  unfold idempotencyIdentity
  split <;> exact String.toList_append

/-- An identity that goes on behind another one is of the same kind. -/
theorem identity_append_cases {more : List Char}
    (h : (idempotencyIdentity sha256 b).toList =
      (idempotencyIdentity sha256 a).toList ++ more) :
    (∃ keyA keyB, a.identity = .api keyA ∧ b.identity = .api keyB ∧
      (sha256 keyB).toList = (sha256 keyA).toList ++ more) ∨
    ∃ hostA hostB, a.identity = .client hostA ∧ b.identity = .client hostB ∧
      hostB.toList = hostA.toList ++ more := by
  rw [identity_toList, identity_toList] at h
  cases hia : a.identity with
  | api keyA =>
    cases hib : b.identity with
    | api keyB =>
      rw [hia, hib] at h
      rw [List.append_assoc, List.append_cancel_left_eq] at h
      exact .inl ⟨keyA, keyB, rfl, rfl, h⟩
    | client hostB =>
      rw [hia, hib] at h
      cases h
  | client hostA =>
    cases hib : b.identity with
    | api keyB =>
      rw [hia, hib] at h
      cases h
    | client hostB =>
      rw [hia, hib] at h
      rw [List.append_assoc, List.append_cancel_left_eq] at h
      exact .inr ⟨hostA, hostB, rfl, rfl, h⟩

/-- What one identity has beyond another one is the end of a host. -/
theorem hostRun_identity (hdigest : ∀ text, ':' ∉ (sha256 text).toList) (hb : b.Known)
    {tail : List Char}
    (h : (idempotencyIdentity sha256 b).toList =
      (idempotencyIdentity sha256 a).toList ++ ':' :: tail) (rest : List Char) :
    hostRun true (':' :: tail ++ ':' :: rest) =
      (':' :: tail).length + hostRun true (':' :: rest) := by
  rcases identity_append_cases h with ⟨_, keyB, -, -, hdigests⟩ | ⟨_, _, -, hib, hhosts⟩
  · exact absurd (hdigests ▸ List.mem_append_right _ List.mem_cons_self) (hdigest keyB)
  · exact (hb.host hib).hostRun hhosts

theorem identity_inj (hsha : Function.Injective sha256)
    (h : idempotencyIdentity sha256 a = idempotencyIdentity sha256 b) : a.identity = b.identity := by
  have hlist : (idempotencyIdentity sha256 b).toList =
      (idempotencyIdentity sha256 a).toList ++ [] := by
    rw [h, List.append_nil]
  rcases identity_append_cases hlist with
    ⟨_, _, hia, hib, hdigests⟩ | ⟨_, _, hia, hib, hhosts⟩
  · rw [List.append_nil] at hdigests
    rw [hia, hib, hsha (String.toList_inj.mp hdigests)]
  · rw [List.append_nil] at hhosts
    rw [hia, hib, String.toList_inj.mp hhosts]

/-- No identity is longer than another one by a part with which the keys go on, so they are equal. -/
theorem identity_append_eq (hdigest : ∀ text, ':' ∉ (sha256 text).toList) (hb : b.Known)
    {more before key key' : List Char} (mode : ExecutionMode)
    (hidentity : (idempotencyIdentity sha256 b).toList =
      (idempotencyIdentity sha256 a).toList ++ more)
    (h : ':' :: before ++ ':' :: mode.value.toList ++ key =
      more ++ (':' :: before ++ ':' :: mode.value.toList ++ key')) :
    (idempotencyIdentity sha256 b).toList = (idempotencyIdentity sha256 a).toList ∧ key = key' := by
  cases more with
  | nil =>
    rw [List.append_nil] at hidentity
    rw [List.nil_append] at h
    exact ⟨hidentity, List.append_cancel_left h⟩
  | cons c tail =>
    obtain rfl : c = ':' := (List.cons.inj h).1.symm
    have hrun := hostRun_mode mode true (':' :: before)
    have hleft := hostRun_append hrun key
    have hright := hostRun_append hrun key'
    rw [h] at hleft
    have hmore := hostRun_identity hdigest hb hidentity (before ++ ':' :: mode.value.toList ++ key')
    have hshape : ':' :: before ++ ':' :: mode.value.toList ++ key' =
        ':' :: (before ++ ':' :: mode.value.toList ++ key') := rfl
    rw [hshape] at hleft hright
    rw [hmore, hright, List.length_cons] at hleft
    omega

end

theorem cacheKey_toList (request : KeyedRequest) (identity : String) :
    ∃ before, before = request.task.toList ++ ':' ::
        (if truthyStr request.recipe then request.recipe.getD "" else "auto").toList ∧
      (request.cacheKey identity).toList = identity.toList ++
        (':' :: before ++ ':' :: request.mode.value.toList ++
          ':' :: (request.idempotencyKey.getD "None").toList) := by
  refine ⟨_, rfl, ?_⟩
  have hcolon : ":".toList = [':'] := rfl
  simp only [KeyedRequest.cacheKey, String.toList_append, hcolon, List.append_assoc,
    List.cons_append, List.nil_append]

theorem idempotencyKey_eq {key key' : Option String} (hkey : truthyStr key = true)
    (hkey' : truthyStr key' = true) (h : key.getD "None" = key'.getD "None") : key = key' := by
  cases key with
  | none => cases hkey
  | some k =>
    cases key' with
    | none => cases hkey'
    | some k' => exact congrArg some h

/-- Requests with equal bodies share a cache key only if they come from one identity with one key. -/
theorem cacheKey_separates {sha256 : String → String} {a b : HttpCaller}
    {request other : KeyedRequest} (hsha : Function.Injective sha256)
    (hdigest : ∀ text, ':' ∉ (sha256 text).toList) (ha : a.Known) (hb : b.Known)
    (hkey : truthyStr request.idempotencyKey = true) (hkey' : truthyStr other.idempotencyKey = true)
    (hbody : request.SameBody other)
    (h : request.cacheKey (idempotencyIdentity sha256 a) =
      other.cacheKey (idempotencyIdentity sha256 b)) :
    a.identity = b.identity ∧ request.idempotencyKey = other.idempotencyKey := by
  obtain ⟨htask, hmode, hrecipe⟩ := hbody.fields
  obtain ⟨before, hbefore, hlist⟩ := cacheKey_toList request (idempotencyIdentity sha256 a)
  obtain ⟨before', hbefore', hlist'⟩ := cacheKey_toList other (idempotencyIdentity sha256 b)
  obtain rfl : before = before' := by rw [hbefore, hbefore', htask, hrecipe]
  rw [h, hlist', ← hmode] at hlist
  have hsame : (idempotencyIdentity sha256 a).toList = (idempotencyIdentity sha256 b).toList ∧
      ':' :: (request.idempotencyKey.getD "None").toList =
        ':' :: (other.idempotencyKey.getD "None").toList := by
    rcases List.append_eq_append_iff.mp hlist with ⟨more, hidentity, htail⟩ | ⟨more, hidentity, htail⟩
    · obtain ⟨hidentity, hkeys⟩ := identity_append_eq hdigest ha request.mode hidentity htail
      exact ⟨hidentity, hkeys.symm⟩
    · obtain ⟨hidentity, hkeys⟩ := identity_append_eq hdigest hb request.mode hidentity htail
      exact ⟨hidentity.symm, hkeys⟩
  exact ⟨identity_inj hsha (String.toList_inj.mp hsame.1),
    idempotencyKey_eq hkey hkey' (String.toList_inj.mp (List.cons.inj hsame.2).2)⟩

/-! ## Histories -/

/-- What `idempotency_lookup` comes to: nothing, a request that is under way, the stored response, or
the exception with status 409. -/
inductive LookupReply where
  | absent
  | pending
  | replay (response : IdempotentResponse)
  | conflict

/-- `idempotency_lookup` of a request with a key, after `cache.get` -/
def lookupReply (requestHash : String) :
    Option (String × IdempotentResponse × IdempotencyStatus) → LookupReply
  | none => .absent
  | some (cachedHash, response, status) =>
    if cachedHash ≠ requestHash then .conflict
    else
      match status with
      | .pending => .pending
      | .completed => .replay response

theorem lookupReply_completed (requestHash : String) (response : IdempotentResponse) :
    lookupReply requestHash (some (requestHash, response, .completed)) = .replay response :=
  if_neg (not_not.mpr rfl)

theorem lookupReply_conflict {requestHash cachedHash : String} (h : cachedHash ≠ requestHash)
    (response : IdempotentResponse) (status : IdempotencyStatus) :
    lookupReply requestHash (some (cachedHash, response, status)) = .conflict :=
  if_pos h

/-- A call on the store that one of the helpers makes for a request. -/
structure StoreUse where
  caller : HttpCaller
  request : KeyedRequest
  event : StoreEvent

namespace StoreUse

variable (sha256 : String → String) (u : StoreUse)

def cacheKey : String := u.request.cacheKey (idempotencyIdentity sha256 u.caller)

def requestHash : String := u.request.requestHash sha256

/-- Without a key the helpers leave the store alone, and with one they pass it the cache key and the
hash of the request. -/
def Made : Prop :=
  truthyStr u.request.idempotencyKey = true ∧
    match u.event.op with
    | .get key _ _ => key = u.cacheKey sha256
    | .reserve key hash _ | .set key hash _ _ | .release key hash =>
      key = u.cacheKey sha256 ∧ hash = u.requestHash sha256
    | .execute | .refund => False

/-- The outcome of a lookup -/
def Replies (reply : LookupReply) : Prop :=
  match u.event.op, u.event.outcome with
  | .get .., .ok found => lookupReply (u.requestHash sha256) found = reply
  | _, _ => False

/-- `idempotency_store` has returned. -/
def Stores (response : IdempotentResponse) : Prop :=
  match u.event.op, u.event.outcome with
  | .set _ _ stored _, .ok _ => stored = response
  | _, _ => False

/-- The two come from one identity with one idempotency key. -/
def SameKey (v : StoreUse) : Prop :=
  v.caller.identity = u.caller.identity ∧ v.request.idempotencyKey = u.request.idempotencyKey

end StoreUse

/-- The calls on one store, the last one first. -/
inductive StoreHistory (sha256 : String → String) : List StoreUse → IdempotencyTable → Prop where
  | start : StoreHistory sha256 [] {}
  | call {uses : List StoreUse} {t t' : IdempotencyTable} {u : StoreUse} (now : ℚ)
      (past : StoreHistory sha256 uses t) (made : u.Made sha256) (known : u.caller.Known)
      (step : storeStep now t u.event t') : StoreHistory sha256 (u :: uses) t'

/-- Where the rows come from. -/
structure Provenance (sha256 : String → String) (uses : List StoreUse) (t : IdempotencyTable) :
    Prop where
  written : ∀ row ∈ t.rows, ∃ v ∈ uses, v.caller.Known ∧
    truthyStr v.request.idempotencyKey = true ∧ v.cacheKey sha256 = row.key ∧
    v.requestHash sha256 = row.requestHash
  stored : ∀ row ∈ t.rows, row.idempotencyStatus = .completed → ∃ v ∈ uses, v.caller.Known ∧
    truthyStr v.request.idempotencyKey = true ∧ v.cacheKey sha256 = row.key ∧
    v.requestHash sha256 = row.requestHash ∧ v.Stores (row.response.getD {})

/-! ### What a call writes -/

section

variable {now : ℚ} {t t' : IdempotencyTable} {e : StoreEvent} {row : IdempotencyRow}

theorem IdempotencyTable.Pruned.mem {ttlSeconds : Option ℚ} {maxEntries : ℕ}
    (h : IdempotencyTable.Pruned now ttlSeconds maxEntries t t') (hrow : row ∈ t'.rows) :
    row ∈ t.rows := by
  obtain ⟨-, kept, rfl, -⟩ := h
  exact (IdempotencyTable.mem_keep.mp (IdempotencyTable.mem_keep.mp hrow).1).1

theorem IdempotencyTable.mem_insertNew {new : IdempotencyRow} (hrow : row ∈ (t.insertNew new).2.rows) :
    row ∈ t.rows ∨ row = new := by
  unfold IdempotencyTable.insertNew at hrow
  split at hrow
  · exact .inl hrow
  · exact (List.mem_append.mp hrow).imp_right List.mem_singleton.mp

/-- `set` leaves the rows as they are or writes the response under its key and hash. -/
theorem IdempotencyTable.mem_complete {key requestHash : String} {response : IdempotentResponse}
    (hrow : row ∈ (t.complete now key requestHash response).rows) :
    row ∈ t.rows ∨ row.key = key ∧ row.requestHash = requestHash ∧ row.response = some response := by
  unfold IdempotencyTable.complete at hrow
  split at hrow
  · rcases mem_insertNew hrow with h | rfl
    · exact .inl h
    · exact .inr ⟨rfl, rfl, rfl⟩
  next found hfound =>
  split at hrow
  · next hpending =>
    obtain ⟨old, hold, rfl⟩ := List.mem_map.mp hrow
    split
    · next hkey =>
      have hfind := IdempotencyTable.find_eq_some_iff.mpr ⟨hold, hkey⟩
      rw [hfound] at hfind
      cases hfind
      simp only [Bool.and_eq_true, decide_eq_true_eq] at hpending
      exact .inr ⟨rfl, hpending.2, rfl⟩
    · exact .inl hold
  · exact .inl hrow

/-- A row is an old one, or the pending one of a reservation, or has the response of a `set`. -/
theorem storeStep_row (h : storeStep now t e t') (hrow : row ∈ t'.rows) :
    row ∈ t.rows ∨
    (∃ key hash maxEntries reserved, e = ⟨.reserve key hash maxEntries, .ok reserved⟩ ∧
      row.key = key ∧ row.requestHash = hash ∧ row.Pending) ∨
    ∃ key hash response maxEntries, e = ⟨.set key hash response maxEntries, .ok ()⟩ ∧
      row.key = key ∧ row.requestHash = hash ∧ row.response = some response := by
  obtain ⟨op, r⟩ := e
  cases op with
  | get key ttlSeconds maxEntries =>
    cases r with
    | error exc =>
      obtain rfl : t' = t := h
      exact .inl hrow
    | ok found =>
      obtain ⟨pruned, hpruned, h⟩ := h
      refine .inl (hpruned.mem ?_)
      split at h
      · exact h.2 ▸ hrow
      · split at h
        · exact (IdempotencyTable.mem_keep.mp (h.2 ▸ hrow)).1
        · exact h.2 ▸ hrow
  | reserve key hash maxEntries =>
    cases r with
    | error exc =>
      obtain rfl : t' = t := h
      exact .inl hrow
    | ok reserved =>
      rcases IdempotencyTable.mem_insertNew (h.2.mem hrow) with hold | rfl
      · exact .inl hold
      · exact .inr (.inl ⟨_, _, _, _, rfl, rfl, rfl, rfl⟩)
  | execute | refund =>
    obtain rfl : t' = t := by cases r <;> exact h
    exact .inl hrow
  | set key hash response maxEntries =>
    cases r with
    | error exc =>
      obtain rfl : t' = t := h
      exact .inl hrow
    | ok u =>
      refine (IdempotencyTable.mem_complete (IdempotencyTable.Pruned.mem h hrow)).imp_right ?_
      intro hwritten
      exact .inr ⟨_, _, _, _, rfl, hwritten⟩
  | release key hash =>
    cases r with
    | error exc =>
      obtain rfl : t' = t := h
      exact .inl hrow
    | ok u =>
      obtain rfl : t' = t.free key hash := h
      exact .inl (IdempotencyTable.mem_keep.mp hrow).1

end

namespace Provenance

variable {sha256 : String → String} {uses : List StoreUse} {t t' : IdempotencyTable} {u : StoreUse}
  {now : ℚ}

theorem step (h : Provenance sha256 uses t) (made : u.Made sha256) (known : u.caller.Known)
    (hstep : storeStep now t u.event t') : Provenance sha256 (u :: uses) t' := by
  obtain ⟨hkey, hmade⟩ := made
  constructor
  · intro row hrow
    rcases storeStep_row hstep hrow with hold | ⟨key, hash, _, _, he, rfl, rfl, -⟩ |
      ⟨key, hash, _, _, he, rfl, rfl, -⟩
    · obtain ⟨v, hv, hrest⟩ := h.written row hold
      exact ⟨v, List.mem_cons_of_mem _ hv, hrest⟩
    · rw [he] at hmade
      exact ⟨u, List.mem_cons_self, known, hkey, hmade.1.symm, hmade.2.symm⟩
    · rw [he] at hmade
      exact ⟨u, List.mem_cons_self, known, hkey, hmade.1.symm, hmade.2.symm⟩
  · intro row hrow hcompleted
    rcases storeStep_row hstep hrow with hold | ⟨-, -, -, -, -, -, -, hpending⟩ |
      ⟨key, hash, response, _, he, rfl, rfl, hresponse⟩
    · obtain ⟨v, hv, hrest⟩ := h.stored row hold hcompleted
      exact ⟨v, List.mem_cons_of_mem _ hv, hrest⟩
    · exact absurd (hcompleted.symm.trans hpending) (by decide)
    · rw [he] at hmade
      refine ⟨u, List.mem_cons_self, known, hkey, hmade.1.symm, hmade.2.symm, ?_⟩
      rw [StoreUse.Stores, he, hresponse]
      rfl

theorem of_history (h : StoreHistory sha256 uses t) : Provenance sha256 uses t := by
  induction h with
  | start =>
    exact ⟨fun _ hrow => absurd hrow List.not_mem_nil, fun _ hrow => absurd hrow List.not_mem_nil⟩
  | call now past made known step ih => exact ih.step made known step

end Provenance

/-! ## What a lookup may say -/

section

variable {sha256 : String → String} {u : StoreUse} {uses : List StoreUse} {t t' : IdempotencyTable}
  {now : ℚ}

/-- A lookup that finds something has found a row under its key. -/
theorem StoreUse.Replies.row (hmade : u.Made sha256) (hstep : storeStep now t u.event t')
    {reply : LookupReply} (hreply : u.Replies sha256 reply) :
    reply = .absent ∨ ∃ row ∈ t.rows, row.key = u.cacheKey sha256 ∧
      lookupReply (u.requestHash sha256)
        (some (row.requestHash, row.response.getD {}, row.idempotencyStatus)) = reply := by
  obtain ⟨caller, request, op, r⟩ := u
  cases op with
  | get key ttlSeconds maxEntries =>
    cases r with
    | error exc => exact hreply.elim
    | ok found =>
      obtain ⟨pruned, hpruned, hstep⟩ := hstep
      split at hstep
      · obtain ⟨rfl, -⟩ := hstep
        exact .inl hreply.symm
      next row hfound =>
      split at hstep
      · obtain ⟨rfl, -⟩ := hstep
        exact .inl hreply.symm
      · obtain ⟨rfl, -⟩ := hstep
        obtain ⟨hrow, hkey⟩ := IdempotencyTable.find_eq_some_iff.mp hfound
        exact .inr ⟨row, hpruned.mem hrow, hkey.trans hmade.2, hreply⟩
  | _ => exact hreply.elim

/-- The other calls of the run that share the cache key of a lookup are of its identity and its
idempotency key. -/
def Separated (sha256 : String → String) (uses : List StoreUse) (u : StoreUse) : Prop :=
  ∀ v ∈ uses, v.cacheKey sha256 = u.cacheKey sha256 → u.SameKey v

/-- **Idempotent replay.** A response that a lookup gives back was stored by an earlier request from
the same identity with the same key and an equal body; and if no earlier call shares the cache key
without sharing identity and key, a lookup raises the conflict only over another body of its own
key. -/
theorem replay_private (sha256 : String → String) (uses : List StoreUse) (u : StoreUse)
    (t : IdempotencyTable) (hsha : Function.Injective sha256)
    (hdigest : ∀ text, ':' ∉ (sha256 text).toList) (h : StoreHistory sha256 (u :: uses) t) :
    (∀ response, u.Replies sha256 (.replay response) →
      ∃ v ∈ uses, u.SameKey v ∧ v.request.SameBody u.request ∧ v.Stores response) ∧
    (Separated sha256 uses u → u.Replies sha256 .conflict →
      ∃ v ∈ uses, u.SameKey v ∧ ¬v.request.SameBody u.request) := by
  cases h with
  | call now past made known step =>
  have hprovenance := Provenance.of_history past
  constructor
  · intro response hreply
    rcases hreply.row made step with habsent | ⟨row, hrow, hkey, hrowreply⟩
    · cases habsent
    simp only [lookupReply] at hrowreply
    split at hrowreply
    · cases hrowreply
    next hhash =>
    split at hrowreply
    · cases hrowreply
    next hcompleted =>
    obtain ⟨v, hv, hknown, hvkey, hcache, hvhash, hstores⟩ := hprovenance.stored row hrow hcompleted
    have hbody : v.request.SameBody u.request := (KeyedRequest.requestHash_eq_iff hsha).mp
      (hvhash.trans (not_not.mp hhash))
    refine ⟨v, hv, ?_, hbody, LookupReply.replay.inj hrowreply ▸ hstores⟩
    exact cacheKey_separates hsha hdigest hknown known hvkey made.1 hbody (hcache.trans hkey)
  · intro hseparated hreply
    rcases hreply.row made step with habsent | ⟨row, hrow, hkey, hrowreply⟩
    · cases habsent
    obtain ⟨v, hv, -, -, hcache, hvhash⟩ := hprovenance.written row hrow
    refine ⟨v, hv, hseparated v hv (hcache.trans hkey), fun hbody => ?_⟩
    have hhash : row.requestHash = u.requestHash sha256 :=
      hvhash.symm.trans ((KeyedRequest.requestHash_eq_iff hsha).mpr hbody)
    simp only [lookupReply, hhash, ne_eq, not_true_eq_false, if_false] at hrowreply
    split at hrowreply <;> cases hrowreply

end

/-! ## Two requests of one client -/

/-- A digest that collides nowhere: every character escaped. -/
def escapedDigest (text : String) : String :=
  String.ofList (text.toList.flatMap (percentEncode fun _ => false))

theorem escapedDigest_injective : Function.Injective escapedDigest := by
  have hback (text : List Char) : unquote (text.flatMap (percentEncode fun _ => false)) = text := by
    unfold unquote
    induction text with
    | nil => rfl
    | cons c text ih =>
      rw [List.flatMap_cons, unquoteFrom_percentEncode (s := .ready) trivial rfl, ih]
      rfl
  intro s t h
  have hlist := String.ofList_injective h
  rw [← String.toList_inj, ← hback s.toList, hlist, hback]

theorem colon_not_mem_escapedDigest (text : String) : ':' ∉ (escapedDigest text).toList := by
  rw [escapedDigest, String.toList_ofList, List.mem_flatMap]
  rintro ⟨c, -, hc⟩
  rcases mem_percentEncode hc with ⟨-, h⟩ | h | h
  · cases h
  · cases h
  · cases h

theorem IdempotencyTable.pruned_self {now : ℚ} {maxEntries : ℕ} {t : IdempotencyTable}
    (h : t.rows.length ≤ maxEntries) : Pruned now none maxEntries t t := by
  have hkeep : t.keep (fun _ => true) = t := by
    cases t
    simp [keep]
  have hexpire : t.expire now none = t := hkeep
  rw [Pruned, hexpire]
  exact ⟨(min_eq_right h).symm, fun _ => true, hkeep.symm, fun _ _ _ _ _ h => by cases h⟩

/-- A client on the documentation network, without an API key. -/
def aClient : HttpCaller where
  apiKey := none
  host := some "192.0.2.1"

theorem aClient_known : aClient.Known :=
  .inr ⟨"192.0.2.1", rfl, ⟨"192.0.2.1".toList, [], by simp, by decide, .inl rfl⟩⟩

def wideRequest : KeyedRequest where
  task := "infer"
  mode := .sync
  recipe := some "a:sync:b"
  idempotencyKey := some "k"

def narrowRequest : KeyedRequest where
  task := "infer"
  mode := .sync
  recipe := some "a"
  idempotencyKey := some "b:sync:k"

section

variable (request : KeyedRequest)

/-- The row of a request that has reserved its key. -/
def reservedRow : IdempotencyRow where
  key := request.cacheKey (idempotencyIdentity escapedDigest aClient)
  createdAt := 0
  requestHash := request.requestHash escapedDigest
  idempotencyStatus := .pending

def reservedTable : IdempotencyTable where
  rows := [reservedRow request]
  nodup := List.nodup_singleton _

/-- The request reserves its key. -/
def reserveUse : StoreUse where
  caller := aClient
  request := request
  event := ⟨.reserve (request.cacheKey (idempotencyIdentity escapedDigest aClient))
    (request.requestHash escapedDigest) 10, .ok true⟩

/-- The request looks its key up and finds a row. -/
def lookupUse (row : IdempotencyRow) : StoreUse where
  caller := aClient
  request := request
  event := ⟨.get (request.cacheKey (idempotencyIdentity escapedDigest aClient)) none 10,
    .ok (some (row.requestHash, row.response.getD {}, row.idempotencyStatus))⟩

variable {request}

theorem history_reserve (hkey : truthyStr request.idempotencyKey = true) :
    StoreHistory escapedDigest [reserveUse request] (reservedTable request) :=
  .call 0 .start ⟨hkey, rfl, rfl⟩ aClient_known ⟨rfl,
    IdempotencyTable.pruned_self (show 1 ≤ 10 by decide)⟩

/-- A lookup that finds a row of the table. -/
theorem history_lookup {uses : List StoreUse} {t : IdempotencyTable} {row : IdempotencyRow}
    (past : StoreHistory escapedDigest uses t) (hkey : truthyStr request.idempotencyKey = true)
    (hlength : t.rows.length ≤ 10) (hrow : row ∈ t.rows)
    (hcache : row.key = request.cacheKey (idempotencyIdentity escapedDigest aClient)) :
    StoreHistory escapedDigest (lookupUse request row :: uses) t := by
  refine .call 0 past ⟨hkey, rfl⟩ aClient_known ⟨t, IdempotencyTable.pruned_self hlength, ?_⟩
  rw [IdempotencyTable.find_eq_some_iff.mpr ⟨hrow, hcache⟩]
  exact (if_neg (by simp)).mpr ⟨rfl, rfl⟩

variable (request) in
/-- The row after the response is stored. -/
def completedRow : IdempotencyRow :=
  { reservedRow request with response := some { status := 200 }, idempotencyStatus := .completed }

variable (request) in
def completedTable : IdempotencyTable where
  rows := [completedRow request]
  nodup := List.nodup_singleton _

variable (request) in
def storeUse : StoreUse where
  caller := aClient
  request := request
  event := ⟨.set (request.cacheKey (idempotencyIdentity escapedDigest aClient))
    (request.requestHash escapedDigest) { status := 200 } 10, .ok ()⟩

theorem history_store (hkey : truthyStr request.idempotencyKey = true) :
    StoreHistory escapedDigest [storeUse request, reserveUse request] (completedTable request) := by
  have hfind : (reservedTable request).find (reservedRow request).key = some (reservedRow request) :=
    IdempotencyTable.find_eq_some_iff.mpr ⟨List.mem_singleton_self _, rfl⟩
  have hcomplete : (reservedTable request).complete 0 (reservedRow request).key
      (reservedRow request).requestHash { status := 200 } = completedTable request := by
    unfold IdempotencyTable.complete
    rw [hfind]
    simp [reservedRow, reservedTable, completedTable, completedRow, IdempotencyTable.update]
  refine .call 0 (history_reserve hkey) ⟨hkey, rfl, rfl⟩ aClient_known ?_
  change IdempotencyTable.Pruned 0 none 10 ((reservedTable request).complete 0
    (reservedRow request).key (reservedRow request).requestHash { status := 200 }) _
  rw [hcomplete]
  exact IdempotencyTable.pruned_self (show 1 ≤ 10 by decide)

end

/-- A request that is sent again gets its response back, as it was stored. -/
theorem replay_private_again :
    (lookupUse narrowRequest (completedRow narrowRequest)).Replies escapedDigest
        (.replay { status := 200 }) ∧
      ∃ v ∈ [storeUse narrowRequest, reserveUse narrowRequest],
        (lookupUse narrowRequest (completedRow narrowRequest)).SameKey v ∧
        v.request.SameBody narrowRequest ∧ v.Stores { status := 200 } := by
  have hreply : (lookupUse narrowRequest (completedRow narrowRequest)).Replies escapedDigest
      (.replay { status := 200 }) := lookupReply_completed _ _
  exact ⟨hreply, (replay_private escapedDigest [storeUse narrowRequest, reserveUse narrowRequest]
    (lookupUse narrowRequest (completedRow narrowRequest)) (completedTable narrowRequest)
    escapedDigest_injective colon_not_mem_escapedDigest
    (history_lookup (history_store rfl) rfl (show 1 ≤ 10 by decide) (List.mem_singleton_self _)
      rfl)).1 _ hreply⟩

/-- Replay is private and exact, conflicts included. -/
def ReplayExact (sha256 : String → String) : Prop :=
  ∀ (uses : List StoreUse) (u : StoreUse) (t : IdempotencyTable), StoreHistory sha256 (u :: uses) t →
    (∀ response, u.Replies sha256 (.replay response) →
      ∃ v ∈ uses, u.SameKey v ∧ v.request.SameBody u.request ∧ v.Stores response) ∧
    (u.Replies sha256 .conflict → ∃ v ∈ uses, u.SameKey v ∧ ¬v.request.SameBody u.request)

/-- The two requests have one cache key and different idempotency keys. -/
theorem not_replayExact : ¬ ∀ sha256 : String → String, Function.Injective sha256 →
    (∀ text, ':' ∉ (sha256 text).toList) → ReplayExact sha256 := by
  intro h
  have hshared : (reservedRow wideRequest).key =
      narrowRequest.cacheKey (idempotencyIdentity escapedDigest aClient) := by decide +kernel
  have hdifferent : wideRequest.requestHash escapedDigest ≠
      narrowRequest.requestHash escapedDigest := by
    intro heq
    have hbody := (KeyedRequest.requestHash_eq_iff escapedDigest_injective).mp heq
    exact absurd hbody.fields.2.2 (by decide)
  have hconflict : (lookupUse narrowRequest (reservedRow wideRequest)).Replies escapedDigest
      .conflict := lookupReply_conflict hdifferent _ _
  obtain ⟨v, hv, ⟨-, hkey⟩, -⟩ := (h escapedDigest escapedDigest_injective
    colon_not_mem_escapedDigest _ _ _ (history_lookup (history_reserve rfl) rfl
      (show 1 ≤ 10 by decide) (List.mem_singleton_self _) hshared)).2 hconflict
  rw [List.mem_singleton.mp hv] at hkey
  exact absurd hkey (by decide)

end Gpucall
