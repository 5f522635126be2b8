import Mathlib.Data.List.TakeWhile
import Gpucall.Domain
import Gpucall.Url

/-! `object_store.py`: presigned uploads and downloads. The key of an upload goes into the reference as
it is, and is read back from the reference with `urlparse` and `unquote`. -/

namespace Gpucall

/-! ## The URLs of pydantic -/

/-- The characters of bucket names. -/
def bucketChar (c : Char) : Bool := c.isAlphanum || c ∈ ['-', '.', '_']

def s3Uri (bucket rest : List Char) : List Char := 's' :: '3' :: ':' :: '/' :: '/' :: bucket ++ '/' :: rest

/-- pydantic's `AnyUrl`: it keeps the scheme and the authority, percent-encodes what may not stand in
the path of a URL, and keeps the rest. -/
structure AnyUrl where
  /-- `str(AnyUrl(text))` -/
  str : String → String
  legal : Char → Bool
  str_s3Uri : ∀ bucket rest, (∀ c ∈ bucket, bucketChar c) →
    str (String.ofList (s3Uri bucket rest)) =
      String.ofList (s3Uri bucket (rest.flatMap (percentEncode legal)))
  legal_delimiters : ∀ c ∈ ['%', '?', '#', '/'], legal c = true
  legal_hex : ∀ c, (hexValue c).isSome → legal c = true
  illegal_controls : ∀ c, c.toNat ≤ 32 → legal c = false

/-- `uuid4().hex` -/
structure UuidHex where
  text : String
  length_eq : text.toList.length = 32
  hex : ∀ c ∈ text.toList, (hexValue c).isSome

/-! ## The store -/

structure ObjectStoreConfig where
  bucket : String
  region : Option String := none
  endpoint : Option String := none
  keyPrefix : String := "gpucall"
  bucket_name : ∀ c ∈ bucket.toList, bucketChar c := by decide

structure PresignPutRequest where
  name : String
  bytes : ℕ+
  sha256 : String
  contentType : String := "application/octet-stream"

/-- What `generate_presigned_url` is asked to sign. -/
structure SignRequest where
  operation : String
  bucket : String
  key : String
  contentType : Option String := none

structure PresignResponse where
  signed : SignRequest
  url : String
  dataRef : DataRef

/-- The S3 client, `AnyUrl`, and the configuration. -/
structure ObjectStore where
  config : ObjectStoreConfig
  generatePresignedUrl : SignRequest → String
  anyUrl : AnyUrl

namespace ObjectStore

variable (store : ObjectStore)

/-- The tenant that the keys of a call are kept under. -/
def safeTenant (tenantPrefix : Option String) : Option String :=
  match tenantPrefix with
  | none | some "" => none
  | some tenantPrefix => some (pathName tenantPrefix) |>.filter (· ≠ "")

/-- `PurePosixPath(name).name or "object"` -/
def cleanName (name : String) : String := if pathName name = "" then "object" else pathName name

/-- `_key_for` -/
def keyFor (uuid : UuidHex) (name : String) (tenantPrefix : Option String) : String :=
  let keyPrefix := stripSlashes store.config.keyPrefix
  joinStr "/" <|
    (if keyPrefix = "" then [] else [keyPrefix]) ++
      ((safeTenant tenantPrefix).map fun tenant => ["tenants", tenant]).getD [] ++
      [uuid.text, cleanName name]

/-- `presign_put`, with the instant at which the reference expires. -/
def presignPut (uuid : UuidHex) (expiresAt : DateTime) (request : PresignPutRequest)
    (tenantPrefix : Option String) : PresignResponse :=
  let key := store.keyFor uuid request.name tenantPrefix
  let signed : SignRequest := {
    operation := "put_object"
    bucket := store.config.bucket
    key := key
    contentType := some request.contentType }
  { signed := signed
    url := store.generatePresignedUrl signed
    dataRef := {
      uri := store.anyUrl.str ("s3://" ++ store.config.bucket ++ "/" ++ key)
      sha256 := some request.sha256
      bytes := some request.bytes
      expiresAt := some expiresAt
      contentType := some request.contentType
      endpointUrl := store.config.endpoint
      region := store.config.region } }

/-- `_bucket_key` -/
def bucketKey (ref : DataRef) : Except String (String × String) :=
  let parsed := urlparse ref.uri.toList
  if parsed.scheme ≠ ['s', '3'] then .error "data_ref must use s3://"
  else .ok (String.ofList parsed.netloc,
    String.ofList (unquote (parsed.path.dropWhile (· = '/'))))

/-- `_validate_ref` -/
def validateRef (now : DateTime) (ref : DataRef) (tenantPrefix : Option String) :
    Except String Unit := do
  if ref.expiresAt.any (· ≤ now) then throw "data_ref is expired"
  let (bucket, key) ← bucketKey ref
  if bucket ≠ store.config.bucket then throw "data_ref bucket is not allowed"
  let keyPrefix := stripSlashes store.config.keyPrefix
  if keyPrefix ≠ "" && !startswith key (keyPrefix ++ "/") then
    throw "data_ref key is outside configured prefix"
  if let some tenant := safeTenant tenantPrefix then
    let tenantKey :=
      if keyPrefix = "" then "tenants/" ++ tenant ++ "/"
      else keyPrefix ++ "/tenants/" ++ tenant ++ "/"
    if !startswith key tenantKey then throw "data_ref key is outside tenant object prefix"

/-- `presign_get`, with the instant at which the new reference expires. -/
def presignGet (now expiresAt : DateTime) (ref : DataRef) (tenantPrefix : Option String) :
    Except String PresignResponse := do
  store.validateRef now ref tenantPrefix
  let (bucket, key) ← bucketKey ref
  let signed : SignRequest := { operation := "get_object", bucket, key }
  let url := store.generatePresignedUrl signed
  return {
    signed
    url
    dataRef := { ref with
      uri := store.anyUrl.str url
      expiresAt := some expiresAt
      gatewayPresigned := true } }

end ObjectStore

/-! ## Reading the reference -/

/-- What `urlparse` takes as the path. -/
def cutPath (text : List Char) : List Char := (text.takeWhile (· ≠ '#')).takeWhile (· ≠ '?')

theorem cutPath_isPrefixOf (text : List Char) : cutPath text <+: text :=
  (List.takeWhile_prefix _).trans (List.takeWhile_prefix _)

theorem cutPath_eq_self (text : List Char) : cutPath text = text ↔ '?' ∉ text ∧ '#' ∉ text := by
  constructor
  · intro h
    constructor
    · intro hmem
      rw [← h] at hmem
      simpa using List.mem_takeWhile_imp hmem
    · intro hmem
      rw [← h] at hmem
      simpa using List.mem_takeWhile_imp ((List.takeWhile_prefix _).subset hmem)
  · rintro ⟨hquery, hfragment⟩
    have hcut {delimiter : Char} (h : delimiter ∉ text) : text.takeWhile (· ≠ delimiter) = text := by
      refine List.takeWhile_eq_self_iff.mpr fun c hc => decide_eq_true ?_
      rintro rfl
      exact h hc
    rw [cutPath, hcut hfragment, hcut hquery]

theorem bucketChar_printable (h : bucketChar c) : 32 < c.toNat ∧ c ∉ ['/', '?', '#'] := by
  constructor
  · simp only [bucketChar, Bool.or_eq_true, Utf8.isAlphanum_iff, decide_eq_true_eq, List.mem_cons,
      List.not_mem_nil, or_false] at h
    rcases h with h | rfl | rfl | rfl
    · omega
    · decide
    · decide
    · decide
  · intro hdelimiter
    simp only [List.mem_cons, List.not_mem_nil, or_false] at hdelimiter
    rcases hdelimiter with rfl | rfl | rfl
    · exact absurd h (by decide)
    · exact absurd h (by decide)
    · exact absurd h (by decide)

theorem urlparse_s3Uri {bucket text : List Char} (hbucket : ∀ c ∈ bucket, bucketChar c)
    (htext : ∀ c ∈ text, 32 < c.toNat) :
    urlparse (s3Uri bucket text) =
      { scheme := ['s', '3'], netloc := bucket, path := '/' :: cutPath text } := by
  have hprintable : ∀ c ∈ bucket ++ '/' :: text, c ∉ ['\t', '\r', '\n'] := by
    intro c hc hspace
    have hc : 32 < c.toNat := by
      rcases List.mem_append.mp hc with hc | hc
      · exact (bucketChar_printable (hbucket c hc)).1
      · rcases List.mem_cons.mp hc with rfl | hc
        · decide
        · exact htext c hc
    revert hc
    simp only [List.mem_cons, List.not_mem_nil, or_false] at hspace
    rcases hspace with rfl | rfl | rfl <;> decide
  have hfilter : (bucket ++ '/' :: text).filter (fun c => c ∉ ['\t', '\r', '\n']) =
      bucket ++ '/' :: text :=
    List.filter_eq_self.mpr fun c hc => decide_eq_true (hprintable c hc)
  have hspan : (bucket ++ '/' :: text).span (fun c => c ∉ ['/', '?', '#']) = (bucket, '/' :: text) := by
    have hpos : ∀ c ∈ bucket, decide (c ∉ ['/', '?', '#']) = true := fun c hc =>
      decide_eq_true (bucketChar_printable (hbucket c hc)).2
    rw [List.span_eq_takeWhile_dropWhile, List.takeWhile_append_of_pos hpos,
      List.dropWhile_append_of_pos hpos]
    simp
  have hurl : ((s3Uri bucket text).dropWhile fun c => decide (c.toNat ≤ 32)).filter
      (fun c => c ∉ ['\t', '\r', '\n']) = s3Uri bucket text := by
    change 's' :: '3' :: ':' :: '/' :: '/' ::
      (bucket ++ '/' :: text).filter (fun c => c ∉ ['\t', '\r', '\n']) = _
    rw [hfilter]
    rfl
  have hscheme : (s3Uri bucket text).takeWhile (fun c => decide (c ≠ ':')) = ['s', '3'] := rfl
  have hfound : (decide (['s', '3'].length < (s3Uri bucket text).length) &&
      ['s', '3'].head?.any Char.isAlpha && ['s', '3'].all schemeChar) = true := by
    have hlength : ['s', '3'].length < (s3Uri bucket text).length := by
      change 2 < (bucket ++ '/' :: text).length + 1 + 1 + 1 + 1 + 1
      omega
    rw [decide_eq_true hlength]
    decide
  have hrest : (s3Uri bucket text).drop (['s', '3'].length + 1) =
      '/' :: '/' :: (bucket ++ '/' :: text) := rfl
  simp only [urlparse, hurl, hscheme, hfound, if_true, hrest, List.take_succ_cons, List.take_zero,
    List.drop_succ_cons, List.drop_zero, hspan]
  rfl

namespace ObjectStore

variable {store : ObjectStore}

theorem percentEncode_printable {url : AnyUrl} {text : List Char} :
    ∀ c ∈ text.flatMap (percentEncode url.legal), 32 < c.toNat := by
  intro x hx
  obtain ⟨c, -, hx⟩ := List.mem_flatMap.mp hx
  rcases mem_percentEncode hx with ⟨rfl, hlegal⟩ | rfl | hhex
  · by_contra hcontrol
    exact Bool.noConfusion (hlegal.symm.trans (url.illegal_controls x (not_lt.mp hcontrol)))
  · decide
  · by_contra hcontrol
    exact Bool.noConfusion
      ((url.legal_hex x hhex).symm.trans (url.illegal_controls x (not_lt.mp hcontrol)))

theorem cutPath_percentEncode (url : AnyUrl) (text : List Char) :
    cutPath (text.flatMap (percentEncode url.legal)) =
      (cutPath text).flatMap (percentEncode url.legal) := by
  rw [cutPath, takeWhile_percentEncode (url.legal_delimiters '#' (by decide)) (by decide) (by decide),
    takeWhile_percentEncode (url.legal_delimiters '?' (by decide)) (by decide) (by decide), cutPath]

/-- The key that is read from a reference to a key. -/
theorem bucketKey_s3Uri {ref : DataRef} {key : List Char} (hkey : key.head? ≠ some '/')
    (href : ref.uri = store.anyUrl.str (String.ofList (s3Uri store.config.bucket.toList key))) :
    bucketKey ref = .ok (store.config.bucket,
      String.ofList (unquote ((cutPath key).flatMap (percentEncode store.anyUrl.legal)))) := by
  have hslash : ((cutPath key).flatMap (percentEncode store.anyUrl.legal)).dropWhile (· = '/') =
      (cutPath key).flatMap (percentEncode store.anyUrl.legal) := by
    cases hcut : cutPath key with
    | nil => rfl
    | cons c rest =>
      have hc : c ≠ '/' := by
        rintro rfl
        obtain ⟨tail, htail⟩ := cutPath_isPrefixOf key
        exact hkey (by rw [← htail, hcut]; rfl)
      cases hlegal : store.anyUrl.legal c with
      | true => simp [percentEncode_legal hlegal, hc]
      | false =>
        obtain ⟨tail, htail⟩ := percentEncode_illegal hlegal
        simp [htail]
  rw [store.anyUrl.str_s3Uri _ _ store.config.bucket_name] at href
  rw [bucketKey, href, String.toList_ofList,
    urlparse_s3Uri store.config.bucket_name percentEncode_printable, cutPath_percentEncode]
  simp [hslash]

/-- Nothing in the text reads as a query, a fragment or an escape. -/
def Readable (text : String) : Prop :=
  '?' ∉ text.toList ∧ '#' ∉ text.toList ∧ hasEscape text.toList = false

instance : Decidable (Readable text) := inferInstanceAs (Decidable (_ ∧ _ ∧ _))

theorem unquote_cutPath_iff (url : AnyUrl) (key : String) :
    String.ofList (unquote ((cutPath key.toList).flatMap (percentEncode url.legal))) = key ↔
      Readable key := by
  have hpercent := url.legal_delimiters '%' (by decide)
  constructor
  · intro h
    have htext : unquoteFrom .ready ((cutPath key.toList).flatMap (percentEncode url.legal)) =
        key.toList := by
      simpa [unquote] using congrArg String.toList h
    have hlength := unquote_length_le hpercent url.legal_hex (s := .ready) trivial (cutPath key.toList)
    have hready : (Utf8.finish .ready).length = 0 := rfl
    have hle := (cutPath_isPrefixOf key.toList).length_le
    rw [htext, hready] at hlength
    have hcut : cutPath key.toList = key.toList :=
      (cutPath_isPrefixOf key.toList).eq_of_length (by split at hlength <;> omega)
    rw [hcut] at hlength
    obtain ⟨hquery, hfragment⟩ := (cutPath_eq_self _).mp hcut
    refine ⟨hquery, hfragment, ?_⟩
    by_contra hescape
    rw [if_pos (by simpa using hescape)] at hlength
    omega
  · rintro ⟨hquery, hfragment, hescape⟩
    rw [(cutPath_eq_self _).mpr ⟨hquery, hfragment⟩, unquote,
      unquote_of_no_escape url.legal_hex (s := .ready) trivial hescape]
    exact String.ofList_toList

/-! ## The key -/

/-- A single path component that is not a dot or two. -/
structure IsComponent (tenant : String) : Prop where
  nonempty : tenant ≠ ""
  no_slash : '/' ∉ tenant.toList
  not_dot : tenant ≠ "."
  not_dots : tenant ≠ ".."

theorem pathName_of_component {name : String} (hne : name ≠ "") (hslash : '/' ∉ name.toList)
    (hdot : name ≠ ".") : pathName name = name := by
  have hlist : name.toList ∉ [[], ['.']] := by
    simp only [List.mem_cons, List.not_mem_nil, or_false, not_or]
    exact ⟨fun heq => hne (String.toList_inj.mp heq), fun heq => hdot (String.toList_inj.mp heq)⟩
  have hfilter : ([name.toList].filter fun part => part ∉ [[], ['.']]) = [name.toList] :=
    List.filter_eq_self.mpr (by simpa using hlist)
  rw [pathName, List.splitOn_eq_singleton hslash, hfilter]
  exact String.ofList_toList

theorem IsComponent.pathName_eq (h : IsComponent tenant) : pathName tenant = tenant :=
  pathName_of_component h.nonempty h.no_slash h.not_dot

theorem IsComponent.safeTenant_eq (h : IsComponent tenant) : safeTenant (some tenant) = some tenant := by
  unfold safeTenant
  split
  · contradiction
  · next heq => exact absurd (Option.some.inj heq) h.nonempty
  · next heq =>
    obtain rfl := Option.some.inj heq
    rw [h.pathName_eq]
    simp [h.nonempty]

theorem keyFor_eq_append (uuid : UuidHex) (name : String) (tenantPrefix : Option String) :
    store.keyFor uuid name tenantPrefix =
      (if stripSlashes store.config.keyPrefix = "" then ""
        else stripSlashes store.config.keyPrefix ++ "/") ++
        ((safeTenant tenantPrefix).map fun tenant => "tenants/" ++ tenant ++ "/").getD "" ++
        uuid.text ++ "/" ++ cleanName name := by
  apply String.toList_inj.mp
  cases hsafe : safeTenant tenantPrefix <;>
  by_cases hbare : stripSlashes store.config.keyPrefix = "" <;>
  simp [keyFor, hsafe, joinStr, hbare]

theorem keyFor_eq (h : IsComponent tenant) (uuid : UuidHex) (name : String) :
    store.keyFor uuid name (some tenant) =
      (if stripSlashes store.config.keyPrefix = "" then ""
        else stripSlashes store.config.keyPrefix ++ "/") ++
        "tenants/" ++ tenant ++ "/" ++ uuid.text ++ "/" ++ cleanName name := by
  rw [keyFor_eq_append, h.safeTenant_eq]
  simp [String.append_assoc]

/-- A slash belongs to no query, fragment or escape. -/
theorem readable_slash (left right : String) :
    Readable (left ++ "/" ++ right) ↔ Readable left ∧ Readable right := by
  have hescape : hasEscape (left ++ "/" ++ right).toList =
      (hasEscape left.toList || hasEscape right.toList) := by
    have h : hasEscape (left.toList ++ '/' :: right.toList) = _ :=
      hasEscape_append (by decide) (by decide) left.toList
    simpa using h
  have hmem {c : Char} (hc : c ∉ "/".toList) :
      c ∉ (left ++ "/" ++ right).toList ↔ c ∉ left.toList ∧ c ∉ right.toList := by
    simp only [String.toList_append, List.mem_append, not_or, hc, not_false_eq_true, and_true]
  rw [Readable, hmem (by decide), hmem (by decide), hescape, Bool.or_eq_false_iff]
  unfold Readable
  tauto

theorem readable_uuid (uuid : UuidHex) : Readable uuid.text := by
  have hne {c : Char} (hc : hexValue c = none) : c ∉ uuid.text.toList := by
    intro hmem
    have := uuid.hex c hmem
    simp [hc] at this
  exact ⟨hne (by decide), hne (by decide), hasEscape_of_no_percent (hne (by decide))⟩

theorem readable_cleanName (name : String) : Readable (cleanName name) ↔ Readable (pathName name) := by
  unfold cleanName
  split
  · next h =>
    rw [h]
    exact ⟨fun _ => by decide, fun _ => by decide⟩
  · rfl

theorem readable_keyFor (h : IsComponent tenant) (uuid : UuidHex) (name : String) :
    Readable (store.keyFor uuid name (some tenant)) ↔
      Readable (stripSlashes store.config.keyPrefix) ∧ Readable tenant ∧ Readable (pathName name) := by
  have htenants : Readable "tenants" := by decide
  have hempty : Readable "" := by decide
  rw [keyFor_eq h, readable_slash, readable_slash, readable_cleanName]
  by_cases hbare : stripSlashes store.config.keyPrefix = ""
  · have heq : "" ++ "tenants/" ++ tenant = "tenants" ++ "/" ++ tenant := by simp
    rw [if_pos hbare, heq, readable_slash, hbare]
    constructor
    · rintro ⟨⟨⟨-, htenant⟩, -⟩, hname⟩
      exact ⟨hempty, htenant, hname⟩
    · rintro ⟨-, htenant, hname⟩
      exact ⟨⟨⟨htenants, htenant⟩, readable_uuid uuid⟩, hname⟩
  · have heq : stripSlashes store.config.keyPrefix ++ "/" ++ "tenants/" ++ tenant =
        stripSlashes store.config.keyPrefix ++ "/" ++ "tenants" ++ "/" ++ tenant := by
      simp [String.append_assoc]
    rw [if_neg hbare, heq, readable_slash, readable_slash]
    constructor
    · rintro ⟨⟨⟨⟨hkey, -⟩, htenant⟩, -⟩, hname⟩
      exact ⟨hkey, htenant, hname⟩
    · rintro ⟨hkey, htenant, hname⟩
      exact ⟨⟨⟨⟨hkey, htenants⟩, htenant⟩, readable_uuid uuid⟩, hname⟩

theorem stripSlashes_head (s : String) : (stripSlashes s).toList.head? ≠ some '/' := by
  rw [stripSlashes, String.toList_ofList]
  intro h
  have hbare : ((s.toList.dropWhile (· = '/')).reverse.dropWhile (· = '/')).reverse <+:
      s.toList.dropWhile (· = '/') := by
    rw [← List.reverse_suffix, List.reverse_reverse]
    exact List.dropWhile_suffix _
  obtain ⟨tail, htail⟩ := hbare
  have hhead := List.head?_dropWhile_not (fun c => decide (c = '/')) s.toList
  rw [← htail, List.head?_append, h] at hhead
  simp at hhead

theorem keyFor_head (h : IsComponent tenant) (uuid : UuidHex) (name : String) :
    (store.keyFor uuid name (some tenant)).toList.head? ≠ some '/' := by
  rw [keyFor_eq h]
  by_cases hbare : stripSlashes store.config.keyPrefix = ""
  · simp [hbare]
  · have hne : (stripSlashes store.config.keyPrefix).toList ≠ [] := fun heq =>
      hbare (String.toList_inj.mp heq)
    obtain ⟨c, rest, heq⟩ := List.exists_cons_of_ne_nil hne
    have hhead := stripSlashes_head store.config.keyPrefix
    rw [heq] at hhead
    simpa [hbare, heq] using hhead

/-! ## Uploads that can be read back -/

/-- The reference of an upload leads to the object that was signed for upload, and is accepted. -/
structure ReadsBack (store : ObjectStore) (tenant : String) (now expiresAgain : DateTime)
    (put : PresignResponse) : Prop where
  resolves : bucketKey put.dataRef = .ok (put.signed.bucket, put.signed.key)
  accepted : ∃ get, store.presignGet now expiresAgain put.dataRef (some tenant) = .ok get ∧
    get.signed.bucket = put.signed.bucket ∧ get.signed.key = put.signed.key

theorem keyFor_startswith (store : ObjectStore) (h : IsComponent tenant) (uuid : UuidHex) (name : String) :
    startswith (store.keyFor uuid name (some tenant))
      (if stripSlashes store.config.keyPrefix = "" then "tenants/" ++ tenant ++ "/"
        else stripSlashes store.config.keyPrefix ++ "/tenants/" ++ tenant ++ "/") = true := by
  rw [keyFor_eq h]
  by_cases hbare : stripSlashes store.config.keyPrefix = ""
  · simp [hbare, startswith, List.isPrefixOf_iff_prefix]
  · simp [hbare, startswith, List.isPrefixOf_iff_prefix]

theorem validateRef_ok {ref : DataRef} {expiresAt now : DateTime} (h : IsComponent tenant)
    (hnow : now < expiresAt) (hexpires : ref.expiresAt = some expiresAt)
    (hkey : bucketKey ref = .ok (store.config.bucket, store.keyFor uuid name (some tenant))) :
    store.validateRef now ref (some tenant) = .ok () := by
  have hexpired : ref.expiresAt.any (fun t => decide (t ≤ now)) = false := by
    simpa [hexpires] using hnow
  have htenant := keyFor_startswith store h uuid name
  have hsafe := h.safeTenant_eq
  generalize store.keyFor uuid name (some tenant) = key at hkey htenant
  by_cases hbare : stripSlashes store.config.keyPrefix = ""
  · simp only [hbare, if_true] at htenant
    simp [validateRef, hexpired, hkey, hbare, hsafe, htenant, bind, Except.bind, pure, Except.pure]
  · simp only [hbare, if_false] at htenant
    have hstem : startswith key (stripSlashes store.config.keyPrefix ++ "/") = true := by
      rw [startswith, List.isPrefixOf_iff_prefix] at htenant ⊢
      refine List.IsPrefix.trans ?_ htenant
      simp [String.append_assoc]
    simp [validateRef, hexpired, hkey, hbare, hsafe, hstem, htenant, bind, Except.bind, pure,
      Except.pure]

theorem presignPut_key (store : ObjectStore) (uuid : UuidHex) (expiresAt : DateTime)
    (request : PresignPutRequest) (tenantPrefix : Option String) :
    (store.presignPut uuid expiresAt request tenantPrefix).signed.key =
      store.keyFor uuid request.name tenantPrefix := by
  simp only [presignPut]

theorem readsBack_iff_key {put : PresignResponse} {expiresAt now expiresAgain : DateTime}
    {key : String} (htenant : IsComponent tenant) (hnow : now < expiresAt)
    (hexpires : put.dataRef.expiresAt = some expiresAt)
    (hbucket : put.signed.bucket = store.config.bucket)
    (hkey : put.signed.key = store.keyFor uuid name (some tenant))
    (href : bucketKey put.dataRef = .ok (store.config.bucket, key)) :
    store.ReadsBack tenant now expiresAgain put ↔ key = store.keyFor uuid name (some tenant) := by
  constructor
  · intro h
    have heq := href.symm.trans h.resolves
    rw [← hkey]
    exact (Prod.mk.inj (Except.ok.inj heq)).2
  · rintro rfl
    have hvalid := validateRef_ok htenant hnow hexpires href
    constructor
    · rw [href, hbucket, hkey]
    · rw [hbucket, hkey]
      simp [presignGet, hvalid, href, bind, Except.bind, pure, Except.pure]

theorem readsBack_iff_readable {expiresAt now expiresAgain : DateTime} (htenant : IsComponent tenant)
    (hnow : now < expiresAt) (uuid : UuidHex) (request : PresignPutRequest) :
    store.ReadsBack tenant now expiresAgain
        (store.presignPut uuid expiresAt request (some tenant)) ↔
      Readable (store.keyFor uuid request.name (some tenant)) := by
  rw [← unquote_cutPath_iff store.anyUrl]
  refine readsBack_iff_key htenant hnow rfl rfl (presignPut_key store uuid expiresAt request (some tenant))
    (bucketKey_s3Uri (keyFor_head htenant uuid request.name) (congrArg store.anyUrl.str ?_))
  apply String.toList_inj.mp
  simp [s3Uri]

/-- An upload can be read back exactly when neither the prefix of the store nor the tenant nor the
name of the object has a question mark, a number sign, or a percent sign before two hex digits. -/
theorem readsBack_iff (store : ObjectStore) (uuid : UuidHex) (request : PresignPutRequest)
    (tenant : String) (expiresAt now expiresAgain : DateTime) (htenant : IsComponent tenant)
    (hnow : now < expiresAt) :
    store.ReadsBack tenant now expiresAgain
        (store.presignPut uuid expiresAt request (some tenant)) ↔
      Readable (stripSlashes store.config.keyPrefix) ∧ Readable tenant ∧
        Readable (pathName request.name) :=
  (readsBack_iff_readable htenant hnow uuid request).trans
    (readable_keyFor htenant uuid request.name)

/-! ## A bucket -/

/-- The characters of paths in RFC 3986, and the delimiters. -/
def rfcLegal (c : Char) : Bool :=
  c.isAlphanum || c ∈ "-._~!$&()*+,;=:@/%?#".toList || c.toNat = 39

def rfcStr (text : List Char) : List Char :=
  match text with
  | 's' :: '3' :: ':' :: '/' :: '/' :: rest =>
    's' :: '3' :: ':' :: '/' :: '/' :: rest.takeWhile (· ≠ '/') ++
      (rest.dropWhile (· ≠ '/')).flatMap (percentEncode rfcLegal)
  | _ => text

theorem hexValue_lt (h : (hexValue c).isSome) : c.toNat < 103 := by
  by_contra hc
  have h1 : ¬ c.toNat ≤ 57 := by omega
  have h2 : ¬ c.toNat ≤ 70 := by omega
  have h3 : ¬ c.toNat ≤ 102 := by omega
  simp [hexValue, h1, h2, h3] at h

theorem rfcLegal_hex (h : (hexValue c).isSome) : rfcLegal c = true := by
  have hall : ∀ n < 103, (hexValue (Char.ofNat n)).isSome → rfcLegal (Char.ofNat n) = true := by
    decide +kernel
  have hc := hall c.toNat (hexValue_lt h)
  rw [Char.ofNat_toNat] at hc
  exact hc h

theorem rfcLegal_control (h : c.toNat ≤ 32) : rfcLegal c = false := by
  have hall : ∀ n < 33, rfcLegal (Char.ofNat n) = false := by decide +kernel
  have hc := hall c.toNat (Nat.lt_succ_of_le h)
  rwa [Char.ofNat_toNat] at hc

def rfcUrl : AnyUrl where
  str text := String.ofList (rfcStr text.toList)
  legal := rfcLegal
  str_s3Uri bucket rest hbucket := by
    have hpos : ∀ c ∈ bucket, decide (c ≠ '/') = true := by
      intro c hc
      have := (bucketChar_printable (hbucket c hc)).2
      simp only [List.mem_cons, not_or] at this
      exact decide_eq_true this.1
    have htake : (bucket ++ '/' :: rest).takeWhile (fun c => decide (c ≠ '/')) = bucket := by
      rw [List.takeWhile_append_of_pos hpos]
      simp
    have hdrop : (bucket ++ '/' :: rest).dropWhile (fun c => decide (c ≠ '/')) = '/' :: rest := by
      rw [List.dropWhile_append_of_pos hpos]
      simp
    rw [String.toList_ofList]
    congr 1
    change 's' :: '3' :: ':' :: '/' :: '/' ::
      ((bucket ++ '/' :: rest).takeWhile (fun c => decide (c ≠ '/')) ++
        ((bucket ++ '/' :: rest).dropWhile (fun c => decide (c ≠ '/'))).flatMap
          (percentEncode rfcLegal)) = _
    rw [htake, hdrop]
    rfl
  legal_delimiters := by decide
  legal_hex _ := rfcLegal_hex
  illegal_controls _ := rfcLegal_control

def acmeStore : ObjectStore where
  config := { bucket := "bucket" }
  generatePresignedUrl signed := "https://bucket.example/" ++ signed.key
  anyUrl := rfcUrl

def someUuid : UuidHex where
  text := "0123456789abcdef0123456789abcdef"
  length_eq := by decide
  hex := by decide

def upload (name : String) : PresignPutRequest where
  name := name
  bytes := 4
  sha256 := "aaaaaaaaaaaaaaaaaaaaaaaaaaaaaaaaaaaaaaaaaaaaaaaaaaaaaaaaaaaaaaaa"

theorem acme_component : IsComponent "acme" where
  nonempty := by decide
  no_slash := by decide
  not_dot := by decide
  not_dots := by decide

theorem readsBack_iff_prompt :
    acmeStore.ReadsBack "acme" { year := 2026, month := 1, day := 1 }
      { year := 2026, month := 1, day := 3 }
      (acmeStore.presignPut someUuid { year := 2026, month := 1, day := 2 } (upload "in/100% a.txt")
        (some "acme")) :=
  (readsBack_iff acmeStore someUuid (upload "in/100% a.txt") "acme" _ _ _ acme_component
    (by decide)).mpr (by decide +kernel)

/-- What follows a number sign in the name is taken for a fragment. -/
theorem fragment_not_readsBack :
    ¬ acmeStore.ReadsBack "acme" { year := 2026, month := 1, day := 1 }
      { year := 2026, month := 1, day := 3 }
      (acmeStore.presignPut someUuid { year := 2026, month := 1, day := 2 } (upload "report#1.txt")
        (some "acme")) := by
  rw [readsBack_iff_readable acme_component (by decide), readable_keyFor acme_component]
  decide +kernel

end ObjectStore

end Gpucall
