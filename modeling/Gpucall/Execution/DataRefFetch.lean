import Gpucall.Dispatcher.Errors
import Gpucall.Lib.OptionList
import Gpucall.Text
import Gpucall.Url

/-! How workers fetch the object of a `DataRef`: `fetch_data_ref_bytes` of `worker_contracts/io.py` over HTTP
and from S3, and the loop of `local_dataref_worker.py`. -/

namespace Gpucall

/-! ## The worker library -/

/-- What the fetches depend on besides the reference: the limits, SHA-256 as hexadecimal digits, and what
the checks of URIs and hosts say. -/
structure FetchHost where
  sha256 : List ℕ → String
  decodeUtf8 : List ℕ → Option String
  lower : String → String
  /-- `GPUCALL_WORKER_MAX_REF_BYTES` -/
  workerMaxRefBytes : ℤ := 16777216
  /-- `max_dataref_bytes` of the local worker -/
  maxDatarefBytes : ℤ
  ambientS3Allowed : Bool := false
  /-- The message of `_validate_http_ref_uri` -/
  httpRefUriRefusal : String → Option String
  /-- The exception of `_validate_dataref_fetch_uri` -/
  datarefFetchUriRefusal : DataRef → Option TupleError

/-- A body that comes in pieces: `ready i` bytes are there for the read number `i`, at least one. -/
structure BodyStream where
  bytes : List ℕ
  ready : ℕ → ℕ

structure DataRefResponse where
  status : ℕ := 200
  body : List ℕ

/-- `_max_ref_bytes` -/
def maxRefBytes (configured : ℤ) (declared : Option ℤ) : Except String ℤ :=
  match declared with
  | none => .ok configured
  | some declared =>
    if declared < 0 then .error "data ref bytes must be non-negative" else .ok (min configured declared)

/-- `body.read(amount)`, with at most `ready` bytes -/
def readBytes (amount : ℤ) (ready : ℕ) (body : List ℕ) : List ℕ :=
  if amount < 0 then body else body.take (min amount.toNat ready)

theorem readBytes_isPrefix (amount : ℤ) (ready : ℕ) (body : List ℕ) : readBytes amount ready body <+: body := by
  unfold readBytes
  split
  · exact List.prefix_rfl
  · exact List.take_prefix _ _

def exceedsLimit (maxBytes : ℤ) : String := "data ref exceeds worker limit: " ++ toString maxBytes ++ " bytes"

/-- The loop of `_fetch_s3_ref_bytes` -/
def s3ReadLoop (maxBytes : ℤ) (ready : ℕ → ℕ) (i : ℕ) (rest : List ℕ) (chunks : List (List ℕ))
    (total : ℤ) : Except String (List ℕ) :=
  let chunk := readBytes (min (1024 * 1024) (maxBytes + 1 - total)) (max 1 (ready i)) rest
  if chunk = [] then .ok chunks.flatten
  else
    let total := total + chunk.length
    if maxBytes < total then .error (exceedsLimit maxBytes)
    else s3ReadLoop maxBytes ready (i + 1) (rest.drop chunk.length) (chunks ++ [chunk]) total
termination_by rest.length
decreasing_by
  rename_i hchunk _
  have hpos : 0 < chunk.length := List.length_pos_of_ne_nil hchunk
  have hle : chunk.length ≤ rest.length := (readBytes_isPrefix _ _ rest).length_le
  rw [List.length_drop]
  exact Nat.sub_lt (lt_of_lt_of_le hpos hle) hpos

/-- `_verify_ref_sha256` -/
def verifyRefSha256 (sha256 : List ℕ → String) (body : List ℕ) (ref : DataRef) : Except String Unit :=
  if truthyStr ref.sha256 && sha256 body ≠ ref.sha256.getD "" then .error "data ref sha256 mismatch"
  else .ok ()

namespace FetchHost

variable (host : FetchHost)

/-- The checks on a body that both branches of `fetch_data_ref_bytes` make. -/
def checkedBody (maxBytes : ℤ) (ref : DataRef) (body : List ℕ) : Except String (List ℕ) := do
  if maxBytes < body.length then throw (exceedsLimit maxBytes)
  verifyRefSha256 host.sha256 body ref
  return body

def declaredBytes (ref : DataRef) : Option ℤ := ref.bytes.map fun n : ℕ+ => ((n : ℕ) : ℤ)

/-- The HTTP branch of `fetch_data_ref_bytes`, once the URI has passed its checks. -/
def fetchHttpRefBytes (ref : DataRef) (response : DataRefResponse) : Except String (List ℕ) := do
  let maxBytes ← maxRefBytes host.workerMaxRefBytes (declaredBytes ref)
  if response.status ≠ 200 then
    throw ("data ref fetch failed with HTTP " ++ toString response.status)
  host.checkedBody maxBytes ref (readBytes (maxBytes + 1) response.body.length response.body)

/-- The S3 branch -/
def fetchS3RefBytes (ref : DataRef) (stream : BodyStream) : Except String (List ℕ) := do
  let maxBytes ← maxRefBytes host.workerMaxRefBytes (declaredBytes ref)
  let body ← s3ReadLoop maxBytes stream.ready 0 stream.bytes [] 0
  host.checkedBody maxBytes ref body

/-- `fetch_data_ref_bytes`, with what the one and the other kind of store answer. -/
def fetchDataRefBytes (ref : DataRef) (response : DataRefResponse) (stream : BodyStream) :
    Except String (List ℕ) :=
  let parsed := urlparse ref.uri.toList
  if parsed.scheme = "s3".toList then
    if !host.ambientS3Allowed then .error "s3 data refs require gateway-presigned worker capability"
    else if parsed.netloc = [] || parsed.path.dropWhile (· = '/') = [] then
      .error "s3 data ref must include bucket and key"
    else host.fetchS3RefBytes ref stream
  else if parsed.scheme ∉ ["http".toList, "https".toList] then
    .error ("unsupported data ref scheme: " ++ String.ofList parsed.scheme)
  else if !ref.gatewayPresigned then .error "http(s) data refs must be gateway-presigned"
  else
    match host.httpRefUriRefusal ref.uri with
    | some message => .error message
    | none => host.fetchHttpRefBytes ref response

/-! ## The local worker -/

/-- The chunks of a response, added up until they exceed the limit. -/
def datarefChunks (limit : ℤ) : List (List ℕ) → List (List ℕ) → ℤ → Except TupleError (List ℕ)
  | [], chunks, _ => .ok chunks.flatten
  | chunk :: rest, chunks, total =>
    if limit < total + chunk.length then
      .error ⟨"DataRef exceeds local worker byte limit", false, 413, none, none⟩
    else datarefChunks limit rest (chunks ++ [chunk]) (total + chunk.length)

/-- `_TEXT_CONTENT_TYPES` -/
def textContentTypes : List String := ["application/json", "application/ld+json", "application/x-ndjson",
  "application/xml", "application/yaml", "application/x-yaml"]

/-- `_base_content_type` -/
def baseContentType (lower : String → String) (contentType : String) : String :=
  lower (strip (splitFirst ';' contentType))

/-- `_is_text_content_type` -/
def isTextContentType (contentType : String) : Bool :=
  startswith contentType "text/" || contentType ∈ textContentTypes

/-- What the worker raises for a status other than 200. -/
def datarefStatusError (status : ℕ) : TupleError :=
  if status = 429 then ⟨"DataRef fetch rate limited", true, 429, none, none⟩
  else ⟨"DataRef fetch failed", 500 ≤ status, 502, none, none⟩

/-- The checks on a content that has been read. -/
def checkedContent (ref : DataRef) (content : List ℕ) : Except TupleError (List ℕ) :=
  if (declaredBytes ref).any ((content.length : ℤ) ≠ ·) then
    .error ⟨"DataRef byte length mismatch", false, 422, none, none⟩
  else if truthyStr ref.sha256 && host.sha256 content ≠ ref.sha256.getD "" then
    .error ⟨"DataRef sha256 mismatch", false, 422, none, none⟩
  else .ok content

/-- The content of one reference in `_fetch_dataref_texts`, once the URI has passed its checks. -/
def fetchDatarefContent (ref : DataRef) (status : ℕ) (chunks : List (List ℕ)) :
    Except TupleError (List ℕ) :=
  if (declaredBytes ref).any (host.maxDatarefBytes < ·) then
    .error ⟨"DataRef exceeds local worker byte limit", false, 413, none, none⟩
  else if status ≠ 200 then .error (datarefStatusError status)
  else
    match datarefChunks host.maxDatarefBytes chunks [] 0 with
    | .error e => .error e
    | .ok content => host.checkedContent ref content

/-- One reference in `_fetch_dataref_texts`; `contentType` is the one of the response. -/
def fetchDatarefText (ref : DataRef) (status : ℕ) (contentType : String) (chunks : List (List ℕ)) :
    Except TupleError String :=
  match host.datarefFetchUriRefusal ref with
  | some e => .error e
  | none =>
    match host.fetchDatarefContent ref status chunks with
    | .error e => .error e
    | .ok content =>
      if !isTextContentType (baseContentType host.lower
          (if truthyStr ref.contentType then ref.contentType.getD "" else contentType)) then
        .error ⟨"DataRef content type is not supported by local text worker", false, 415, none, none⟩
      else
        match host.decodeUtf8 content with
        | none => .error ⟨"DataRef is not valid UTF-8 text", false, 415, none, none⟩
        | some text => .ok text

/-! ## What the fetches have in common -/

/-- The digest of the body is the declared one. -/
def HasDigest (ref : DataRef) (body : List ℕ) : Prop :=
  ∀ digest, ref.sha256 = some digest → digest ≠ "" → host.sha256 body = digest

/-- What three fetches give is the same, and as declared. -/
structure EnforcesDeclared (ref : DataRef) (http s3 : Except String (List ℕ))
    (datarefs : Except TupleError (List ℕ)) : Prop where
  s3_iff : ∀ body, s3 = .ok body ↔ http = .ok body
  local_iff : ∀ body, datarefs = .ok body ↔ http = .ok body
  size : ∀ body n, http = .ok body → ref.bytes = some n → body.length = n
  digest : ∀ body, http = .ok body → host.HasDigest ref body

end FetchHost

/-! ## The loops -/

/-- The loop of the S3 branch reads the whole body, in whatever pieces it comes, or finds it too long. -/
theorem s3ReadLoop_eq {maxBytes total : ℤ} {ready : ℕ → ℕ} {i : ℕ} {rest : List ℕ}
    {chunks : List (List ℕ)} (htotal : total ≤ maxBytes) :
    s3ReadLoop maxBytes ready i rest chunks total =
      if maxBytes < total + rest.length then .error (exceedsLimit maxBytes)
      else .ok (chunks.flatten ++ rest) := by
  induction hlen : rest.length using Nat.strong_induction_on generalizing i rest chunks total with
  | _ len ih =>
    rw [s3ReadLoop]
    have hamount : ¬ min (1024 * 1024) (maxBytes + 1 - total) < 0 := by omega
    generalize hchunk : readBytes (min (1024 * 1024) (maxBytes + 1 - total)) (max 1 (ready i)) rest = chunk
    obtain ⟨tail, htail⟩ : chunk <+: rest := hchunk ▸ readBytes_isPrefix _ _ _
    have hlength : chunk.length + tail.length = len := by
      rw [← List.length_append, htail, hlen]
    dsimp only
    by_cases hnil : chunk = []
    · -- nothing comes only at the end of the body
      have hrest : rest = [] := by
        rw [readBytes, if_neg hamount, hnil, List.take_eq_nil_iff] at hchunk
        obtain hzero | hrest := hchunk
        · omega
        · exact hrest
      have hfits : ¬ maxBytes < total + (len : ℤ) := by
        rw [← hlen, hrest, List.length_nil]
        omega
      rw [if_pos hnil, if_neg hfits, hrest, List.append_nil]
    · have hpos : 0 < chunk.length := List.length_pos_of_ne_nil hnil
      rw [if_neg hnil]
      by_cases hexceeds : maxBytes < total + (chunk.length : ℤ)
      · have hwhole : maxBytes < total + (len : ℤ) := by omega
        rw [if_pos hexceeds, if_pos hwhole]
      · have hdrop : rest.drop chunk.length = tail := by
          rw [← htail, List.drop_left]
        have hrest := @ih tail.length (by omega) (total + chunk.length) (i + 1) tail (chunks ++ [chunk])
          (by omega) rfl
        have hiff : maxBytes < total + chunk.length + (tail.length : ℤ) ↔ maxBytes < total + (len : ℤ) := by
          omega
        rw [if_neg hexceeds, hdrop, hrest, List.flatten_append, List.flatten_singleton,
          List.append_assoc, htail]
        simp only [hiff]

/-! ## What is accepted -/

namespace FetchHost

variable {host : FetchHost} {ref : DataRef} {body : List ℕ}

theorem datarefChunks_eq {limit total : ℤ} {chunks acc : List (List ℕ)} (htotal : total ≤ limit) :
    datarefChunks limit chunks acc total =
      if limit < total + chunks.flatten.length then
        .error ⟨"DataRef exceeds local worker byte limit", false, 413, none, none⟩
      else .ok (acc.flatten ++ chunks.flatten) := by
  induction chunks generalizing acc total with
  | nil =>
    have hfits : ¬ limit < total + (([] : List (List ℕ)).flatten.length : ℤ) := by simpa using htotal
    rw [if_neg hfits, datarefChunks, List.flatten_nil, List.append_nil]
  | cons chunk rest ih =>
    have hlength : ((chunk :: rest).flatten.length : ℤ) = chunk.length + rest.flatten.length := by simp
    rw [datarefChunks, hlength]
    split
    · have hwhole : limit < total + (chunk.length + (rest.flatten.length : ℤ)) := by omega
      rw [if_pos hwhole]
    · rename_i hfits
      rw [ih (by omega), List.flatten_append, List.flatten_singleton, List.flatten_cons,
        List.append_assoc, add_assoc]

theorem verifyRefSha256_iff : verifyRefSha256 host.sha256 body ref = .ok () ↔ host.HasDigest ref body := by
  unfold verifyRefSha256 HasDigest truthyStr
  cases ref.sha256 with
  | none => simp
  | some digest => by_cases hempty : digest = "" <;> simp [hempty]

/-- A body is not longer than what is declared. -/
def WithinDeclared (ref : DataRef) (body : List ℕ) : Prop :=
  ∀ n, ref.bytes = some n → body.length ≤ n

theorem checkedBody_iff {maxBytes : ℤ} {content : List ℕ} :
    host.checkedBody maxBytes ref body = .ok content ↔
      content = body ∧ (body.length : ℤ) ≤ maxBytes ∧ host.HasDigest ref body := by
  rw [← verifyRefSha256_iff]
  unfold checkedBody
  by_cases hexceeds : maxBytes < (body.length : ℤ)
  · have hnot : ¬ (body.length : ℤ) ≤ maxBytes := by omega
    simp [hexceeds, hnot, throw, throwThe, MonadExceptOf.throw, bind, Except.bind]
  · have hle : (body.length : ℤ) ≤ maxBytes := by omega
    cases hverify : verifyRefSha256 host.sha256 body ref with
    | error e => simp [hexceeds, bind, Except.bind]
    | ok => simp [hexceeds, hle, bind, Except.bind, pure, Except.pure, eq_comm]

theorem maxRefBytes_declared (ref : DataRef) (hbody : (body.length : ℤ) ≤ host.workerMaxRefBytes) :
    ∃ maxBytes, maxRefBytes host.workerMaxRefBytes (declaredBytes ref) = .ok maxBytes ∧ 0 ≤ maxBytes ∧
      ((body.length : ℤ) ≤ maxBytes ↔ WithinDeclared ref body) := by
  unfold maxRefBytes declaredBytes WithinDeclared
  cases ref.bytes with
  | none => exact ⟨_, rfl, by omega, by simp [hbody]⟩
  | some n =>
    have hpos : 0 < (n : ℕ) := n.pos
    refine ⟨min host.workerMaxRefBytes (n : ℕ), ?_, by omega, ?_⟩
    · rw [Option.map_some]
      dsimp only
      rw [if_neg (by omega)]
    · rw [le_min_iff]
      simp [hbody]

/-- One read of one byte more than the limit tells a body within the limit from a longer one. -/
theorem readBytes_limit (body : List ℕ) {maxBytes : ℤ} (h : 0 ≤ maxBytes) :
    (readBytes (maxBytes + 1) body.length body = body ∨
      maxBytes < (readBytes (maxBytes + 1) body.length body).length ∧ maxBytes < body.length) := by
  rw [readBytes, if_neg (by omega)]
  by_cases hle : (body.length : ℤ) ≤ maxBytes
  · refine .inl (List.take_of_length_le ?_)
    omega
  · refine .inr ⟨?_, by omega⟩
    rw [List.length_take]
    omega

theorem fetchHttpRefBytes_iff (hbody : (body.length : ℤ) ≤ host.workerMaxRefBytes) {content : List ℕ} :
    host.fetchHttpRefBytes ref { body } = .ok content ↔
      content = body ∧ WithinDeclared ref body ∧ host.HasDigest ref body := by
  obtain ⟨maxBytes, hmax, hpos, hwithin⟩ := maxRefBytes_declared ref hbody
  have hfetch : host.fetchHttpRefBytes ref { body } =
      host.checkedBody maxBytes ref (readBytes (maxBytes + 1) body.length body) := by
    simp [fetchHttpRefBytes, hmax, bind, Except.bind]
  rw [hfetch, checkedBody_iff, ← hwithin]
  obtain hread | ⟨hread, hlong⟩ := readBytes_limit body hpos
  · rw [hread]
  · constructor
    · rintro ⟨-, hle, -⟩
      omega
    · rintro ⟨-, hle, -⟩
      omega

theorem fetchS3RefBytes_iff (hbody : (body.length : ℤ) ≤ host.workerMaxRefBytes) (ready : ℕ → ℕ)
    {content : List ℕ} : host.fetchS3RefBytes ref ⟨body, ready⟩ = .ok content ↔
      content = body ∧ WithinDeclared ref body ∧ host.HasDigest ref body := by
  obtain ⟨maxBytes, hmax, hpos, hwithin⟩ := maxRefBytes_declared ref hbody
  have hloop := @s3ReadLoop_eq maxBytes 0 ready 0 body [] hpos
  rw [zero_add, List.flatten_nil, List.nil_append] at hloop
  rw [fetchS3RefBytes, hmax]
  simp only [bind, Except.bind]
  rw [hloop, ← hwithin]
  by_cases hexceeds : maxBytes < (body.length : ℤ)
  · rw [if_pos hexceeds]
    constructor
    · rintro ⟨⟩
    · rintro ⟨-, hle, -⟩
      omega
  · rw [if_neg hexceeds]
    exact checkedBody_iff

theorem checkedContent_iff {content : List ℕ} :
    host.checkedContent ref body = .ok content ↔
      content = body ∧ (∀ n, ref.bytes = some n → body.length = n) ∧ host.HasDigest ref body := by
  have hsize : (declaredBytes ref).any ((body.length : ℤ) ≠ ·) = false ↔
      ∀ n, ref.bytes = some n → body.length = n := by
    unfold declaredBytes
    cases ref.bytes <;> simp
  have hdigest : (truthyStr ref.sha256 && decide (host.sha256 body ≠ ref.sha256.getD "")) = false ↔
      host.HasDigest ref body := by
    rw [← verifyRefSha256_iff, verifyRefSha256]
    split <;> simp_all
  rw [← hsize, ← hdigest, checkedContent]
  generalize (declaredBytes ref).any ((body.length : ℤ) ≠ ·) = size
  generalize (truthyStr ref.sha256 && decide (host.sha256 body ≠ ref.sha256.getD "")) = digest
  cases size <;> cases digest <;> simp [eq_comm]

theorem fetchDatarefContent_iff {chunks : List (List ℕ)}
    (hbody : (chunks.flatten.length : ℤ) ≤ host.maxDatarefBytes) {content : List ℕ} :
    host.fetchDatarefContent ref 200 chunks = .ok content ↔
      content = chunks.flatten ∧ (∀ n, ref.bytes = some n → chunks.flatten.length = n) ∧
        host.HasDigest ref chunks.flatten := by
  have hloop := @datarefChunks_eq host.maxDatarefBytes 0 chunks [] (by omega)
  rw [zero_add, if_neg (by omega), List.flatten_nil, List.nil_append] at hloop
  unfold fetchDatarefContent
  rw [hloop]
  split
  · -- what is declared is above the limit, and no body within the limit is that long
    rename_i hlimit
    refine iff_of_false (by rintro ⟨⟩) ?_
    rintro ⟨-, hsize, -⟩
    rw [declaredBytes, Option.any_map] at hlimit
    cases hbytes : ref.bytes with
    | none => simp [hbytes] at hlimit
    | some n =>
      have hexceeds : host.maxDatarefBytes < ((n : ℕ) : ℤ) := by simpa [hbytes] using hlimit
      rw [hsize n hbytes] at hbody
      omega
  · exact checkedContent_iff

theorem checkedBody_of_http {response : DataRefResponse} {content : List ℕ}
    (h : host.fetchHttpRefBytes ref response = .ok content) :
    ∃ maxBytes raw, maxRefBytes host.workerMaxRefBytes (declaredBytes ref) = .ok maxBytes ∧
      host.checkedBody maxBytes ref raw = .ok content := by
  obtain ⟨maxBytes, hmax, h⟩ := Fallible.bind_eq_ok.mp h
  split at h
  · cases h
  · exact ⟨maxBytes, _, hmax, h⟩

theorem checkedBody_of_s3 {stream : BodyStream} {content : List ℕ}
    (h : host.fetchS3RefBytes ref stream = .ok content) :
    ∃ maxBytes raw, maxRefBytes host.workerMaxRefBytes (declaredBytes ref) = .ok maxBytes ∧
      host.checkedBody maxBytes ref raw = .ok content := by
  obtain ⟨maxBytes, hmax, h⟩ := Fallible.bind_eq_ok.mp h
  obtain ⟨raw, -, h⟩ := Fallible.bind_eq_ok.mp h
  exact ⟨maxBytes, raw, hmax, h⟩

/-- What the library returns has the declared digest, but need not be as long as declared. -/
theorem fetchDataRefBytes_eq_ok {response : DataRefResponse} {stream : BodyStream} {content : List ℕ}
    (h : host.fetchDataRefBytes ref response stream = .ok content) :
    WithinDeclared ref content ∧ host.HasDigest ref content := by
  have hchecked : ∃ maxBytes raw, maxRefBytes host.workerMaxRefBytes (declaredBytes ref) = .ok maxBytes ∧
      host.checkedBody maxBytes ref raw = .ok content := by
    unfold fetchDataRefBytes at h
    dsimp only at h
    split_ifs at h
    · exact checkedBody_of_s3 h
    · split at h
      · cases h
      · exact checkedBody_of_http h
  obtain ⟨maxBytes, raw, hmax, hraw⟩ := hchecked
  obtain ⟨rfl, hle, hdigest⟩ := checkedBody_iff.mp hraw
  refine ⟨fun n hn => ?_, hdigest⟩
  have hpos : 0 < (n : ℕ) := n.pos
  rw [declaredBytes, hn, Option.map_some, maxRefBytes] at hmax
  split at hmax
  · cases hmax
  · cases hmax
    omega

/-- A text of the local worker is that of a content as declared. -/
theorem fetchDatarefText_eq_ok {status : ℕ} {contentType text : String} {chunks : List (List ℕ)}
    (h : host.fetchDatarefText ref status contentType chunks = .ok text) :
    ∃ content, host.decodeUtf8 content = some text ∧ (∀ n, ref.bytes = some n → content.length = n) ∧
      host.HasDigest ref content := by
  have hcontent : ∃ content, host.fetchDatarefContent ref status chunks = .ok content ∧
      host.decodeUtf8 content = some text := by
    unfold fetchDatarefText at h
    split at h
    · cases h
    · split at h
      · cases h
      · rename_i content hcontent
        generalize isTextContentType _ = supported at h
        cases supported with
        | false => cases h
        | true =>
          rw [Bool.not_true, if_neg Bool.false_ne_true] at h
          split at h
          · cases h
          · rename_i found hfound
            cases h
            exact ⟨content, hcontent, hfound⟩
  obtain ⟨content, hcontent, htext⟩ := hcontent
  have hchecked : ∃ raw, host.checkedContent ref raw = .ok content := by
    unfold fetchDatarefContent at hcontent
    split_ifs at hcontent
    split at hcontent
    · cases hcontent
    · exact ⟨_, hcontent⟩
  obtain ⟨raw, hraw⟩ := hchecked
  obtain ⟨rfl, hsize, hdigest⟩ := checkedContent_iff.mp hraw
  exact ⟨content, htext, hsize, hdigest⟩

/-- The three fetches give the same body, and as declared, exactly when the body is not a short one that
the digest lets pass. -/
theorem enforcesDeclared_iff (host : FetchHost) (ref : DataRef) (body : List ℕ) (ready : ℕ → ℕ)
    (chunks : List (List ℕ)) (hchunks : chunks.flatten = body)
    (hworker : (body.length : ℤ) ≤ host.workerMaxRefBytes)
    (hlocal : (body.length : ℤ) ≤ host.maxDatarefBytes) :
    host.EnforcesDeclared ref (host.fetchHttpRefBytes ref { body }) (host.fetchS3RefBytes ref ⟨body, ready⟩)
        (host.fetchDatarefContent ref 200 chunks) ↔
      ((∀ n, ref.bytes = some n → (n : ℕ) ≤ body.length) ∨ ¬ host.HasDigest ref body) := by
  subst hchunks
  generalize hbody : chunks.flatten = body at *
  have hdatarefs := @fetchDatarefContent_iff host ref chunks (hbody ▸ hlocal)
  rw [hbody] at hdatarefs
  constructor
  · intro h
    by_cases hdigest : host.HasDigest ref body
    · refine .inl fun n hn => ?_
      by_contra hshort
      have hwithin : WithinDeclared ref body := by
        intro m hm
        rw [hn] at hm
        cases hm
        omega
      have hsize := h.size body n ((fetchHttpRefBytes_iff hworker).mpr ⟨rfl, hwithin, hdigest⟩) hn
      omega
    · exact .inr hdigest
  · intro h
    have hsize (hdigest : host.HasDigest ref body) :
        WithinDeclared ref body ↔ ∀ n, ref.bytes = some n → body.length = n := by
      have hlong := h.resolve_right (not_not_intro hdigest)
      exact forall_congr' fun n => imp_congr_right fun hn =>
        ⟨fun hle => le_antisymm hle (hlong n hn), fun heq => heq.le⟩
    refine ⟨fun content => ?_, fun content => ?_, fun content n hcontent hn => ?_, fun content hcontent => ?_⟩
    · rw [fetchHttpRefBytes_iff hworker, fetchS3RefBytes_iff hworker]
    · rw [fetchHttpRefBytes_iff hworker, hdatarefs]
      exact and_congr_right fun _ => and_congr_left fun hdigest => (hsize hdigest).symm
    · obtain ⟨rfl, hwithin, hdigest⟩ := (fetchHttpRefBytes_iff hworker).mp hcontent
      exact (hsize hdigest).mp hwithin n hn
    · obtain ⟨rfl, -, hdigest⟩ := (fetchHttpRefBytes_iff hworker).mp hcontent
      exact hdigest

end FetchHost

/-- Three bytes where four are declared -/
def shortRef : DataRef where
  uri := "https://objects.example.com/a.txt"
  bytes := some 4
  gatewayPresigned := true

def abcHost : FetchHost where
  sha256 _ := "ba7816bf8f01cfea414140de5dae2223b00361a396177a9cb410ff61f20015ad"
  decodeUtf8 _ := some "abc"
  lower text := text
  maxDatarefBytes := 16777216
  httpRefUriRefusal _ := none
  datarefFetchUriRefusal _ := none

theorem enforcesDeclared_iff_short :
    abcHost.EnforcesDeclared shortRef (abcHost.fetchHttpRefBytes shortRef { body := [97, 98, 99] })
        (abcHost.fetchS3RefBytes shortRef ⟨[97, 98, 99], fun _ => 2⟩)
        (abcHost.fetchDatarefContent shortRef 200 [[97], [98, 99]]) ↔
      ((∀ n, shortRef.bytes = some n → (n : ℕ) ≤ [97, 98, 99].length) ∨
        ¬ abcHost.HasDigest shortRef [97, 98, 99]) :=
  FetchHost.enforcesDeclared_iff abcHost shortRef [97, 98, 99] (fun _ => 2) [[97], [98, 99]] rfl
    (by decide) (by decide)

theorem not_enforcesDeclared :
    ¬ ∀ (host : FetchHost) (ref : DataRef) (body : List ℕ) (ready : ℕ → ℕ) (chunks : List (List ℕ)),
      chunks.flatten = body → (body.length : ℤ) ≤ host.workerMaxRefBytes →
      (body.length : ℤ) ≤ host.maxDatarefBytes →
      host.EnforcesDeclared ref (host.fetchHttpRefBytes ref { body })
        (host.fetchS3RefBytes ref ⟨body, ready⟩) (host.fetchDatarefContent ref 200 chunks) := by
  intro h
  have henforces := h abcHost shortRef [97, 98, 99] (fun _ => 2) [[97], [98, 99]] rfl (by decide)
    (by decide)
  exact absurd (henforces.size [97, 98, 99] 4 rfl rfl) (by decide)

end Gpucall
