import Gpucall.Lib.OptionList
import Gpucall.ObjectStore
import Gpucall.Text

/-! The tenant that a caller's objects are kept under: `tenant_key_map`, `tenant_identity` and
`object_tenant_prefix`, and what the two presign handlers give to callers of different tenants. -/

namespace Gpucall

/-! ## Tenants and callers -/

/-- A tenant, with the prefix that is configured for its objects. -/
structure TenantObjectSpec extends TenantSpec where
  objectPrefix : Option String := none

/-- What the authentication leaves in the state of a request. -/
structure ObjectCaller where
  tenantId : Option String
  apiKey : Option String

structure HttpException where
  statusCode : ℕ
  detail : String
  deriving DecidableEq

/-- `tenant_id, key = item.split(":", 1)`, without the items that name no tenant or no key -/
def tenantKey (item : String) : Option (String × String) :=
  if strip item = "" || ':' ∉ item.toList then none
  else
    let tenantId := strip (String.ofList (item.toList.takeWhile (· ≠ ':')))
    let key := strip (String.ofList ((item.toList.dropWhile (· ≠ ':')).drop 1))
    if tenantId ≠ "" && key ≠ "" then some (tenantId, key) else none

/-- `tenant_key_map`, from its sources -/
def tenantKeyMap (sources : List String) : Dict String :=
  let items := sources.flatMap fun raw => (raw.toList.splitOn ',').map String.ofList
  (items.filterMap tenantKey).foldl (fun mapping pair => mapping.set pair.2 pair.1) {}

/-- A name that `tenant_key_map` can produce. -/
def IsTenantName (name : String) : Prop :=
  ∃ sources key, (tenantKeyMap sources).get? key = some name

/-- `tenant_identity`, where `sha256` gives the hexadecimal digest of a text. -/
def tenantIdentity (sha256 : String → String) (caller : ObjectCaller) : String :=
  if truthyStr caller.tenantId then caller.tenantId.getD ""
  else if truthyStr caller.apiKey then
    "key-" ++ String.ofList ((sha256 (caller.apiKey.getD "")).toList.take 16)
  else "anonymous"

/-- `safe_tenant_object_prefix` -/
def safeTenantObjectPrefix (objectPrefix : String) : Except HttpException String :=
  if startswith objectPrefix "/" || pathName objectPrefix ≠ objectPrefix ||
      objectPrefix ∈ ["", ".", ".."] then
    .error ⟨500, "invalid tenant object prefix"⟩
  else .ok objectPrefix

/-- The configured prefix, as it stands in keys. -/
def ObjectStore.folder (store : ObjectStore) : String :=
  if stripSlashes store.config.keyPrefix = "" then ""
  else stripSlashes store.config.keyPrefix ++ "/"

/-- What follows the configured prefix in the keys of a tenant. -/
def tenantFolder (name : String) : String := "tenants/" ++ name ++ "/"

/-- The gateway, as far as its object handlers read it. -/
structure ObjectGateway where
  store : ObjectStore
  tenants : Dict TenantObjectSpec
  /-- `GPUCALL_ALLOW_ANONYMOUS_OBJECTS` is set to a true value. -/
  allowAnonymousObjects : Bool
  sha256 : String → String

namespace ObjectGateway

variable (gateway : ObjectGateway)

def tenantName (caller : ObjectCaller) : String := tenantIdentity gateway.sha256 caller

/-- The prefix that is configured for a tenant, or for the default one when the tenant is not. -/
def objectPrefix (name : String) : Option String :=
  ((gateway.tenants.get? name).or (gateway.tenants.get? "default")).bind
    TenantObjectSpec.objectPrefix

/-- `object_tenant_prefix` -/
def objectTenantPrefix (caller : ObjectCaller) : Except HttpException (Option String) :=
  let name := gateway.tenantName caller
  if name = "anonymous" then
    if gateway.allowAnonymousObjects then .ok none
    else .error ⟨401, "object store access requires authenticated tenant"⟩
  else if truthyStr (gateway.objectPrefix name) then
    (safeTenantObjectPrefix ((gateway.objectPrefix name).getD "")).map some
  else .ok (some name)

/-- The handlers of `/v2/objects/presign-put` and `/v2/results/presign-put`. -/
def presignPut (caller : ObjectCaller) (uuid : UuidHex) (expiresAt : DateTime)
    (request : PresignPutRequest) : Except HttpException PresignResponse := do
  return gateway.store.presignPut uuid expiresAt request (← gateway.objectTenantPrefix caller)

/-- The handler of `/v2/objects/presign-get`. -/
def presignGet (caller : ObjectCaller) (now expiresAt : DateTime) (ref : DataRef) :
    Except HttpException PresignResponse := do
  (gateway.store.presignGet now expiresAt ref (← gateway.objectTenantPrefix caller)).mapError
    fun detail => ⟨400, detail⟩

/-! ## What callers may see -/

/-- A key that an upload of the caller was signed for. -/
def Issues (caller : ObjectCaller) (key : String) : Prop :=
  ∃ uuid expiresAt request put,
    gateway.presignPut caller uuid expiresAt request = .ok put ∧ put.signed.key = key

/-- A download by the reference is signed for the caller. -/
def Accepts (caller : ObjectCaller) (ref : DataRef) : Prop :=
  ∃ now expiresAt get, gateway.presignGet caller now expiresAt ref = .ok get

/-- No reference to a key of the one caller is accepted for the other one. -/
def KeptFrom (owner reader : ObjectCaller) : Prop :=
  ∀ ref bucket key, ObjectStore.bucketKey ref = .ok (bucket, key) → gateway.Issues owner key →
    ¬gateway.Accepts reader ref

/-- Every key that is accepted for the caller is one of its own tenant. -/
def OnlyOwn (caller : ObjectCaller) : Prop :=
  ∀ ref, gateway.Accepts caller ref → ∃ bucket key, ObjectStore.bucketKey ref = .ok (bucket, key) ∧
    startswith key (gateway.store.folder ++ tenantFolder (gateway.tenantName caller)) = true

/-- A name that is a folder of its own: one path component, and not that of callers who are let in
without a name. -/
structure OwnFolder (name : String) : Prop where
  no_slash : '/' ∉ name.toList
  not_dot : name ≠ "."
  not_anonymous : name = "anonymous" → gateway.allowAnonymousObjects = false

end ObjectGateway

/-! ## Names and paths -/

theorem not_mem_of_mem_splitOn {c : Char} {part text : List Char} (h : part ∈ text.splitOn c) :
    c ∉ part := by
  rw [List.splitOn] at h
  induction text generalizing part with
  | nil =>
    rw [List.splitOnP_nil, List.mem_singleton] at h
    simp [h]
  | cons x text ih =>
    rw [List.splitOnP_cons_eq_if_modifyHead] at h
    split at h
    · obtain rfl | h := List.mem_cons.mp h
      · exact List.not_mem_nil
      · exact ih h
    · rename_i hx
      cases hsplit : List.splitOnP (· == c) text with
      | nil => simp [hsplit] at h
      | cons first parts =>
        rw [hsplit, List.modifyHead_cons, List.mem_cons] at h
        obtain rfl | h := h
        · have hne : x ≠ c := by simpa using hx
          have hfirst : c ∉ first := ih (hsplit ▸ List.mem_cons_self)
          simp [hne.symm, hfirst]
        · exact ih (hsplit ▸ List.mem_cons_of_mem _ h)

theorem slash_not_mem_pathName (path : String) : '/' ∉ (pathName path).toList := by
  rw [pathName, String.toList_ofList]
  cases hparts : ((path.toList.splitOn '/').filter fun part => part ∉ [[], ['.']]) with
  | nil => simp
  | cons part parts =>
    have hmem : (part :: parts).getLastD [] ∈ part :: parts := by
      rw [List.getLastD_cons]
      exact List.getLastD_mem_cons ..
    rw [← hparts] at hmem ⊢
    exact not_mem_of_mem_splitOn (List.mem_filter.mp hmem).1

/-- `safe_tenant` of a name that is one component is the name itself, and only of such a one. -/
theorem pathName_eq_self {name : String} (hne : name ≠ "") :
    pathName name = name ↔ '/' ∉ name.toList ∧ name ≠ "." := by
  constructor
  · intro h
    refine ⟨h ▸ slash_not_mem_pathName name, ?_⟩
    rintro rfl
    exact absurd h (by decide)
  · rintro ⟨hslash, hdot⟩
    exact ObjectStore.pathName_of_component hne hslash hdot

theorem IsTenantName.nonempty {name : String} (h : IsTenantName name) : name ≠ "" := by
  obtain ⟨sources, key, h⟩ := h
  rw [tenantKeyMap] at h
  have hpairs {item : String} {pair : String × String} (hpair : tenantKey item = some pair) :
      pair.1 ≠ "" := by
    rw [tenantKey] at hpair
    split at hpair
    · cases hpair
    · simp only [Option.ite_none_right_eq_some, Bool.and_eq_true, decide_eq_true_eq,
        Option.some.injEq] at hpair
      exact hpair.2 ▸ hpair.1.1
  generalize hitems : (sources.flatMap fun raw =>
    (raw.toList.splitOn ',').map String.ofList) = items at h
  clear hitems
  induction items using List.reverseRecOn with
  | nil => cases h
  | append_singleton items item ih =>
    rw [List.filterMap_append, List.foldl_append] at h
    cases hpair : tenantKey item with
    | none => exact ih (by simpa [hpair] using h)
    | some pair =>
      simp only [List.filterMap_cons, hpair, List.filterMap_nil, List.foldl_cons,
        List.foldl_nil] at h
      by_cases hkey : key = pair.2
      · subst hkey
        rw [Dict.get?_set_self] at h
        exact Option.some.inj h ▸ hpairs hpair
      · exact ih ((Dict.get?_set_of_ne hkey).mp h)

/-! ## References -/

namespace ObjectStore

variable {store : ObjectStore}

/-- A reference to a key, with every character escaped. -/
def refTo (store : ObjectStore) (key : String) : DataRef where
  uri := String.ofList (s3Uri store.config.bucket.toList
    (key.toList.flatMap (percentEncode fun _ => false)))

theorem unquote_escaped (text : List Char) :
    unquote (text.flatMap (percentEncode fun _ => false)) = text := by
  rw [unquote]
  induction text with
  | nil => rfl
  | cons c text ih =>
    rw [List.flatMap_cons, unquoteFrom_percentEncode (s := .ready) trivial rfl, ih]
    rfl

theorem escaped_char {text : List Char} {c : Char}
    (h : c ∈ text.flatMap (percentEncode fun _ => false)) : c = '%' ∨ (hexValue c).isSome := by
  obtain ⟨x, -, hc⟩ := List.mem_flatMap.mp h
  obtain ⟨-, hlegal⟩ | hsign | hhex := mem_percentEncode hc
  · cases hlegal
  · exact .inl hsign
  · exact .inr hhex

/-- Every key is that of some reference. -/
theorem bucketKey_refTo (store : ObjectStore) (key : String) :
    bucketKey (store.refTo key) = .ok (store.config.bucket, key) := by
  set text := key.toList.flatMap (percentEncode fun _ => false) with htext
  have hnot {c : Char} (hc : c ≠ '%' ∧ hexValue c = none) : c ∉ text := by
    intro hmem
    obtain hsign | hhex := escaped_char hmem
    · exact hc.1 hsign
    · rw [hc.2] at hhex
      cases hhex
  have hprintable : ∀ c ∈ text, 32 < c.toNat := by
    intro c hmem
    by_contra hcontrol
    obtain rfl | hhex := escaped_char hmem
    · exact hcontrol (by decide)
    · have h1 : ¬48 ≤ c.toNat := by omega
      have h2 : ¬65 ≤ c.toNat := by omega
      have h3 : ¬97 ≤ c.toNat := by omega
      simp [hexValue, h1, h2, h3] at hhex
  have hslash : text.dropWhile (· = '/') = text := by
    cases htext' : text with
    | nil => rfl
    | cons c rest =>
      have hc : c ≠ '/' := by
        rintro rfl
        exact hnot (c := '/') (by decide) (htext' ▸ List.mem_cons_self)
      simp [hc]
  rw [bucketKey, refTo, String.toList_ofList, ← htext,
    urlparse_s3Uri store.config.bucket_name hprintable,
    (cutPath_eq_self _).mpr ⟨hnot (by decide), hnot (by decide)⟩]
  have hkey : unquote text = key.toList := unquote_escaped key.toList
  simp only [List.dropWhile_cons, decide_true, if_true, hslash, hkey]
  simp

theorem throw_bind {α β : Type} (text : String) (f : α → Except String β) :
    (throw text >>= f) = .error text := rfl

theorem ite_error_eq_ok {α : Type} {p : Prop} [Decidable p] {text : String} {a : α}
    {result : Except String α} :
    (if p then .error text else result) = .ok a ↔ ¬p ∧ result = .ok a := by
  by_cases hp : p <;> simp [hp]

theorem folder_tenantFolder (store : ObjectStore) (tenant : String) :
    (if stripSlashes store.config.keyPrefix = "" then "tenants/" ++ tenant ++ "/"
      else stripSlashes store.config.keyPrefix ++ "/tenants/" ++ tenant ++ "/") =
      store.folder ++ tenantFolder tenant := by
  rw [folder, tenantFolder]
  split <;> simp [← String.toList_inj]

theorem startswith_folder (store : ObjectStore) (key : String) :
    ¬(decide (stripSlashes store.config.keyPrefix ≠ "") &&
        !startswith key (stripSlashes store.config.keyPrefix ++ "/")) = true ↔
      startswith key store.folder = true := by
  rw [folder]
  by_cases hbare : stripSlashes store.config.keyPrefix = ""
  · simp [hbare, startswith]
  · simp [hbare]

/-- When `_validate_ref` lets a reference through. -/
theorem validateRef_eq_ok {now : DateTime} {ref : DataRef} {tenantPrefix : Option String} :
    store.validateRef now ref tenantPrefix = .ok () ↔
      ref.expiresAt.any (· ≤ now) = false ∧ ∃ key,
        bucketKey ref = .ok (store.config.bucket, key) ∧ startswith key store.folder = true ∧
        ∀ tenant ∈ safeTenant tenantPrefix,
          startswith key (store.folder ++ tenantFolder tenant) = true := by
  rw [validateRef, throw_bind, ite_error_eq_ok, Bool.not_eq_true]
  refine and_congr_right fun _ => ?_
  cases hkey : bucketKey ref with
  | error text => simp [bind, Except.bind]
  | ok pair =>
    obtain ⟨bucket, key⟩ := pair
    simp only [Fallible.ok_bind, throw_bind, ite_error_eq_ok, startswith_folder,
      folder_tenantFolder]
    rw [not_not]
    constructor
    · rintro ⟨rfl, hfolder, htenant⟩
      refine ⟨key, rfl, hfolder, fun tenant hsafe => ?_⟩
      rw [Option.mem_def.mp hsafe] at htenant
      by_contra hnot
      simp only [Bool.not_eq_true] at hnot
      simp [hnot, throw, throwThe, MonadExceptOf.throw] at htenant
    · rintro ⟨_, heq, hfolder, htenant⟩
      obtain ⟨rfl, rfl⟩ := Prod.mk.inj (Except.ok.inj heq)
      refine ⟨rfl, hfolder, ?_⟩
      cases hsafe : safeTenant tenantPrefix with
      | none => rfl
      | some tenant => simp [htenant tenant hsafe, pure, Except.pure]

theorem presignGet_ok {now expiresAt : DateTime} {ref : DataRef} {tenantPrefix : Option String} :
    (∃ get, store.presignGet now expiresAt ref tenantPrefix = .ok get) ↔
      store.validateRef now ref tenantPrefix = .ok () := by
  rw [presignGet]
  cases hvalid : store.validateRef now ref tenantPrefix with
  | error text => simp [bind, Except.bind]
  | ok =>
    obtain ⟨-, key, hkey, -⟩ := validateRef_eq_ok.mp hvalid
    simp [hkey, bind, Except.bind, pure, Except.pure]

end ObjectStore

/-! ## One caller -/

namespace ObjectGateway

variable {gateway : ObjectGateway} {caller : ObjectCaller} {ref : DataRef} {key : String}

theorem accepts_iff : gateway.Accepts caller ref ↔
    ∃ tenantPrefix, gateway.objectTenantPrefix caller = .ok tenantPrefix ∧
      ∃ now, gateway.store.validateRef now ref tenantPrefix = .ok () := by
  simp only [Accepts, presignGet]
  cases gateway.objectTenantPrefix caller with
  | error exc => simp [bind, Except.bind]
  | ok tenantPrefix =>
    simp only [bind, Except.bind, Except.ok.injEq, exists_eq_left']
    refine exists_congr fun now => ?_
    constructor
    · rintro ⟨expiresAt, get, hget⟩
      cases hstore : gateway.store.presignGet now expiresAt ref tenantPrefix with
      | error text => rw [hstore] at hget; cases hget
      | ok get => exact ObjectStore.presignGet_ok.mp ⟨get, hstore⟩
    · intro hvalid
      have hok : ∃ get, gateway.store.presignGet now now ref tenantPrefix = .ok get :=
        ObjectStore.presignGet_ok.mpr hvalid
      obtain ⟨get, hget⟩ := hok
      exact ⟨now, get, by rw [hget]; rfl⟩

theorem issues_iff : gateway.Issues caller key ↔
    ∃ tenantPrefix, gateway.objectTenantPrefix caller = .ok tenantPrefix ∧
      ∃ uuid name, key = gateway.store.keyFor uuid name tenantPrefix := by
  simp only [Issues, presignPut]
  cases gateway.objectTenantPrefix caller with
  | error exc => simp [bind, Except.bind]
  | ok tenantPrefix =>
    simp only [bind, Except.bind, pure, Except.pure, Except.ok.injEq, exists_eq_left']
    constructor
    · rintro ⟨uuid, expiresAt, request, hkey⟩
      exact ⟨uuid, request.name, hkey.symm.trans (ObjectStore.presignPut_key ..)⟩
    · rintro ⟨uuid, name, hkey⟩
      exact ⟨uuid, { year := 1970, month := 1, day := 1 }, { name := name, bytes := 1, sha256 := "" },
        (ObjectStore.presignPut_key ..).trans hkey.symm⟩

/-- Neither the tenant nor the default one has a prefix of its own. -/
def Plain (gateway : ObjectGateway) (caller : ObjectCaller) : Prop :=
  truthyStr (gateway.objectPrefix (gateway.tenantName caller)) = false

theorem objectTenantPrefix_of_plain (hplain : gateway.Plain caller) :
    gateway.objectTenantPrefix caller =
      if gateway.tenantName caller = "anonymous" then
        if gateway.allowAnonymousObjects then .ok none
        else .error ⟨401, "object store access requires authenticated tenant"⟩
      else .ok (some (gateway.tenantName caller)) := by
  rw [Plain] at hplain
  simp only [objectTenantPrefix, hplain, Bool.false_eq_true, if_false]

theorem safeTenant_some {name : String} (hne : name ≠ "") :
    ObjectStore.safeTenant (some name) = (some (pathName name)).filter (· ≠ "") := by
  unfold ObjectStore.safeTenant
  split
  · contradiction
  · next heq => exact absurd (Option.some.inj heq) hne
  · next heq => rw [Option.some.inj heq]

theorem startswith_append_iff (stem text tail : String) :
    startswith (stem ++ text) (stem ++ tail) = startswith text tail := by
  rw [Bool.eq_iff_iff]
  simp [startswith, List.isPrefixOf_iff_prefix]

theorem startswith_append_self (stem text : String) : startswith (stem ++ text) stem = true := by
  simp [startswith, List.isPrefixOf_iff_prefix]

/-- The folder of a tenant begins a folder only of one component when it is the same. -/
theorem eq_of_startswith_tenantFolder {name other : String} (rest : String) (hother : '/' ∉ other.toList)
    (hname : '/' ∉ name.toList)
    (h : startswith (tenantFolder other ++ rest) (tenantFolder name) = true) : name = other := by
  rw [startswith, List.isPrefixOf_iff_prefix] at h
  obtain ⟨tail, h⟩ := h
  simp only [tenantFolder, String.toList_append, List.append_assoc, List.append_cancel_left_eq] at h
  have hcut {text : List Char} (hslash : '/' ∉ text) (rest : List Char) :
      (text ++ ("/".toList ++ rest)).takeWhile (· ≠ '/') = text := by
    rw [List.takeWhile_append_of_pos fun c hc => ?_]
    · simp
    · exact decide_eq_true fun heq => hslash (heq ▸ hc)
  have := congrArg (List.takeWhile fun c => decide (c ≠ '/')) h
  rw [hcut hname, hcut hother] at this
  exact String.toList_inj.mp this

theorem not_mem_of_startswith {name other : String} (hother : '/' ∉ other.toList)
    (h : startswith (tenantFolder other) (tenantFolder name) = true) : '/' ∉ name.toList := by
  rw [startswith, List.isPrefixOf_iff_prefix] at h
  have hcount := h.sublist.count_le '/'
  simp only [tenantFolder, String.toList_append, List.count_append,
    List.count_eq_zero_of_not_mem hother] at hcount
  exact List.count_eq_zero.mp (by omega)

theorem accepts_refTo {tenantPrefix : Option String} (text : String)
    (hnamed : gateway.objectTenantPrefix caller = .ok tenantPrefix)
    (htenant : ∀ tenant ∈ ObjectStore.safeTenant tenantPrefix,
      startswith text (tenantFolder tenant) = true) :
    gateway.Accepts caller (gateway.store.refTo (gateway.store.folder ++ text)) := by
  refine accepts_iff.mpr ⟨tenantPrefix, hnamed, { year := 1970, month := 1, day := 1 }, ?_⟩
  refine ObjectStore.validateRef_eq_ok.mpr
    ⟨rfl, _, ObjectStore.bucketKey_refTo .., startswith_append_self .., fun tenant hsafe => ?_⟩
  rw [startswith_append_iff]
  exact htenant tenant hsafe

/-- A tenant that is a folder of its own has a prefix that is its name, if it is let in at all. -/
theorem OwnFolder.safeTenant {tenantPrefix : Option String}
    (hown : gateway.OwnFolder (gateway.tenantName caller)) (hne : gateway.tenantName caller ≠ "")
    (hplain : gateway.Plain caller) (hnamed : gateway.objectTenantPrefix caller = .ok tenantPrefix) :
    ObjectStore.safeTenant tenantPrefix = some (gateway.tenantName caller) := by
  rw [objectTenantPrefix_of_plain hplain] at hnamed
  split at hnamed
  · rename_i hname
    rw [hown.not_anonymous hname] at hnamed
    cases hnamed
  · obtain rfl := Except.ok.inj hnamed
    rw [safeTenant_some hne, (pathName_eq_self hne).mpr ⟨hown.no_slash, hown.not_dot⟩]
    simp [hne]

/-- Where only the tenant's own keys are accepted, an accepted text is one of the tenant. -/
theorem OnlyOwn.startswith_tenantFolder {tenantPrefix : Option String} (hown : gateway.OnlyOwn caller)
    (text : String) (hnamed : gateway.objectTenantPrefix caller = .ok tenantPrefix)
    (htenant : ∀ tenant ∈ ObjectStore.safeTenant tenantPrefix,
      startswith text (tenantFolder tenant) = true) :
    startswith text (tenantFolder (gateway.tenantName caller)) = true := by
  obtain ⟨bucket, key, hkey, hstarts⟩ := hown _ (accepts_refTo text hnamed htenant)
  rw [ObjectStore.bucketKey_refTo] at hkey
  obtain ⟨rfl, rfl⟩ := Prod.mk.inj (Except.ok.inj hkey)
  rwa [startswith_append_iff] at hstarts

/-- An object outside of the folders of the tenants is accepted of whoever has no tenant prefix. -/
theorem OnlyOwn.safeTenant_ne_none {tenantPrefix : Option String} (hown : gateway.OnlyOwn caller)
    (hnamed : gateway.objectTenantPrefix caller = .ok tenantPrefix) :
    ObjectStore.safeTenant tenantPrefix ≠ none := by
  intro hnone
  have hstarts := hown.startswith_tenantFolder "object" hnamed (by simp [hnone])
  simp [startswith, tenantFolder, List.isPrefixOf] at hstarts

theorem OnlyOwn.ownFolder (hown : gateway.OnlyOwn caller) (hne : gateway.tenantName caller ≠ "")
    (hplain : gateway.Plain caller) : gateway.OwnFolder (gateway.tenantName caller) := by
  have hnamed := objectTenantPrefix_of_plain hplain
  have hanonymous : gateway.tenantName caller = "anonymous" →
      gateway.allowAnonymousObjects = false := by
    intro hname
    by_contra hallow
    rw [Bool.not_eq_false] at hallow
    rw [if_pos hname, if_pos hallow] at hnamed
    exact hown.safeTenant_ne_none hnamed rfl
  by_cases hname : gateway.tenantName caller = "anonymous"
  · exact ⟨hname ▸ by decide, hname ▸ by decide, hanonymous⟩
  rw [if_neg hname] at hnamed
  -- the folder the tenant's name is reduced to is accepted, so it is the tenant's own
  have hfolder := hown.startswith_tenantFolder (tenantFolder (pathName (gateway.tenantName caller)))
    hnamed fun tenant htenant => by
      rw [safeTenant_some hne, Option.mem_def, Option.filter_eq_some_iff] at htenant
      obtain rfl := Option.some.inj htenant.1
      simp [startswith]
  have hslash := slash_not_mem_pathName (gateway.tenantName caller)
  have hself : pathName (gateway.tenantName caller) = gateway.tenantName caller :=
    (eq_of_startswith_tenantFolder "" hslash (not_mem_of_startswith hslash hfolder)
      (by rwa [String.append_empty])).symm
  obtain ⟨hslash, hdot⟩ := (pathName_eq_self hne).mp hself
  exact ⟨hslash, hdot, hanonymous⟩

theorem OwnFolder.onlyOwn (hown : gateway.OwnFolder (gateway.tenantName caller))
    (hne : gateway.tenantName caller ≠ "") (hplain : gateway.Plain caller) :
    gateway.OnlyOwn caller := by
  intro ref haccepts
  obtain ⟨tenantPrefix, hnamed, now, hvalid⟩ := accepts_iff.mp haccepts
  obtain ⟨-, key, hkey, -, htenant⟩ := ObjectStore.validateRef_eq_ok.mp hvalid
  exact ⟨_, key, hkey, htenant _ (hown.safeTenant hne hplain hnamed)⟩

/-- What is accepted is kept under the tenant exactly when its name is a folder of its own. -/
theorem onlyOwn_iff (hne : gateway.tenantName caller ≠ "") (hplain : gateway.Plain caller) :
    gateway.OnlyOwn caller ↔ gateway.OwnFolder (gateway.tenantName caller) :=
  ⟨fun hown => hown.ownFolder hne hplain, fun hown => hown.onlyOwn hne hplain⟩

/-! ## Two callers -/

theorem keptFrom_of_ownFolder {a b : ObjectCaller} (ha : gateway.OwnFolder (gateway.tenantName a))
    (hb : gateway.OwnFolder (gateway.tenantName b)) (hne : gateway.tenantName a ≠ "")
    (hother : gateway.tenantName b ≠ gateway.tenantName a) (hplain : gateway.Plain a)
    (honly : gateway.OnlyOwn b) : gateway.KeptFrom a b := by
  intro ref bucket key hkey hissues haccepts
  obtain ⟨tenantPrefix, htenant, uuid, name, hissued⟩ := issues_iff.mp hissues
  obtain ⟨bucket', key', hkey', hstarts⟩ := honly ref haccepts
  rw [hkey] at hkey'
  obtain ⟨-, rfl⟩ := Prod.mk.inj (Except.ok.inj hkey')
  rw [hissued, ObjectStore.keyFor_eq_append, ha.safeTenant hne hplain htenant, ← ObjectStore.folder,
    Option.map_some, Option.getD_some, ← tenantFolder, String.append_assoc, String.append_assoc,
    String.append_assoc, startswith_append_iff] at hstarts
  exact hother (eq_of_startswith_tenantFolder _ ha.no_slash hb.no_slash hstarts)

/-- Two tenants are kept apart, and each to its own folder, exactly when both names are folders. -/
theorem tenants_apart_iff (gateway : ObjectGateway) (a b : ObjectCaller)
    (ha : IsTenantName (gateway.tenantName a)) (hb : IsTenantName (gateway.tenantName b))
    (hne : gateway.tenantName a ≠ gateway.tenantName b) (hplain_a : gateway.Plain a)
    (hplain_b : gateway.Plain b) :
    (gateway.KeptFrom a b ∧ gateway.KeptFrom b a ∧ gateway.OnlyOwn a ∧ gateway.OnlyOwn b) ↔
      gateway.OwnFolder (gateway.tenantName a) ∧ gateway.OwnFolder (gateway.tenantName b) := by
  have honly_a := onlyOwn_iff ha.nonempty hplain_a
  have honly_b := onlyOwn_iff hb.nonempty hplain_b
  constructor
  · rintro ⟨-, -, hown_a, hown_b⟩
    exact ⟨honly_a.mp hown_a, honly_b.mp hown_b⟩
  · rintro ⟨hown_a, hown_b⟩
    have hown_a' := honly_a.mpr hown_a
    have hown_b' := honly_b.mpr hown_b
    exact ⟨keptFrom_of_ownFolder hown_a hown_b ha.nonempty hne.symm hplain_a hown_b',
      keptFrom_of_ownFolder hown_b hown_a hb.nonempty hne hplain_b hown_a', hown_a', hown_b'⟩

/-- A gateway without configured tenants, and a caller whose key is mapped to a tenant. -/
def bareGateway : ObjectGateway where
  store := ObjectStore.acmeStore
  tenants := {}
  allowAnonymousObjects := false
  sha256 text := text

def keyHolder (tenantId apiKey : String) : ObjectCaller := ⟨some tenantId, some apiKey⟩

theorem tenants_apart_acme :
    bareGateway.KeptFrom (keyHolder "acme" "k1") (keyHolder "globex" "k2") ∧
      bareGateway.KeptFrom (keyHolder "globex" "k2") (keyHolder "acme" "k1") ∧
      bareGateway.OnlyOwn (keyHolder "acme" "k1") ∧ bareGateway.OnlyOwn (keyHolder "globex" "k2") :=
  (tenants_apart_iff bareGateway (keyHolder "acme" "k1") (keyHolder "globex" "k2")
    ⟨["acme:k1,globex:k2"], "k1", by decide +kernel⟩ ⟨["acme:k1,globex:k2"], "k2", by decide +kernel⟩
    (by decide) rfl rfl).mpr
    ⟨⟨by decide, by decide, by decide⟩, ⟨by decide, by decide, by decide⟩⟩

/-- The names `eu/team` and `us/team` end in one component. -/
theorem not_tenants_apart :
    ¬∀ (gateway : ObjectGateway) (a b : ObjectCaller), IsTenantName (gateway.tenantName a) →
      IsTenantName (gateway.tenantName b) → gateway.tenantName a ≠ gateway.tenantName b →
      gateway.Plain a → gateway.Plain b →
      gateway.KeptFrom a b ∧ gateway.KeptFrom b a ∧ gateway.OnlyOwn a ∧ gateway.OnlyOwn b := by
  intro hall
  obtain ⟨hkept, -⟩ := hall bareGateway (keyHolder "eu/team" "k1") (keyHolder "us/team" "k2")
    ⟨["eu/team:k1,us/team:k2"], "k1", by decide +kernel⟩
    ⟨["eu/team:k1,us/team:k2"], "k2", by decide +kernel⟩ (by decide) rfl rfl
  set key := ObjectStore.acmeStore.keyFor ObjectStore.someUuid "report.txt" (some "eu/team") with hkey
  have htext : key = bareGateway.store.folder ++ ("tenants/team/" ++
      ObjectStore.someUuid.text ++ "/report.txt") := by decide +kernel
  refine hkept (bareGateway.store.refTo key) "bucket" key (ObjectStore.bucketKey_refTo ..)
    (issues_iff.mpr ⟨some "eu/team", rfl, ObjectStore.someUuid, "report.txt", rfl⟩) ?_
  rw [htext]
  have htenant : bareGateway.objectTenantPrefix (keyHolder "us/team" "k2") = .ok (some "us/team") :=
    rfl
  refine accepts_refTo _ htenant fun tenant hsafe => ?_
  have hteam : ObjectStore.safeTenant (some "us/team") = some "team" := by decide +kernel
  rw [hteam] at hsafe
  obtain rfl := Option.some.inj hsafe
  decide +kernel

end ObjectGateway

end Gpucall
