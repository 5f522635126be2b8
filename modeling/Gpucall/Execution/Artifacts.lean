import Gpucall.Domain
import Gpucall.Json
import Gpucall.Text
import Gpucall.Url

/-! `worker_contracts/artifacts.py`: a training worker seals the artifact it has made under a key of its
own and writes it to the bucket or the file that the operator has named. -/

namespace Gpucall

/-- HKDF with SHA-256, AES-GCM and hexadecimal SHA-256 digests; `decrypt` has nothing to return when
the tag does not match. -/
structure Crypto where
  hkdf (salt : Option (List ℕ)) (info master : List ℕ) : List ℕ
  encrypt (key nonce plaintext associated : List ℕ) : List ℕ
  decrypt (key nonce ciphertext associated : List ℕ) : Option (List ℕ)
  sha256 : List ℕ → String
  decrypt_encrypt : ∀ key nonce plaintext associated,
    decrypt key nonce (encrypt key nonce plaintext associated) associated = some plaintext
  length_encrypt : ∀ key nonce plaintext associated,
    (encrypt key nonce plaintext associated).length = plaintext.length + 16
  length_sha256 : ∀ body, (sha256 body).length = 64

/-! ## Payloads and manifests -/

/-- An `ArtifactExportSpec` that was validated: `latest` is refused as a version. -/
structure ArtifactExport extends ArtifactExportSpec where
  explicit : (strip version).toList.map Char.toLower ≠ "latest".toList := by decide

/-- What the worker sees of `split_learning`. -/
structure SplitLearningPayload where
  activationSha256 : Option String
  irreversibilityClaim : Option String
  /-- a number or null -/
  dpEpsilon : Json

/-- The fields of a plan payload that the export reads. -/
structure ArtifactPayload where
  recipe : Option String := none
  planId : Option String := none
  dataClassification : Option DataClassification := none
  governanceHash : Option String := none
  attestationEvidenceRefs : List String := []
  attestationEvidenceRef : Option String := none
  inputRefs : List DataRef := []
  splitLearning : Option SplitLearningPayload := none
  artifactExport : ArtifactExport

structure ArtifactManifest where
  artifactId : String
  artifactChainId : String
  version : String
  classification : DataClassification
  ciphertextUri : String
  ciphertextSha256 : String
  encryptionNonce : String
  keyId : String
  producerPlanHash : String
  attestationEvidenceRef : Option String
  parentArtifactIds : List String
  legalHold : Bool
  retentionUntil : Option String
  createdAt : String

/-! ## Where artifacts are kept -/

inductive Location where
  | file (path : String)
  | s3 (bucket key : String)
  deriving DecidableEq

abbrev BlobStore := Location → Option (List ℕ)

/-- `text.partition("/")`, without the separator -/
def partitionSlash (text : String) : String × String :=
  (String.ofList (text.toList.takeWhile (· ≠ '/')),
    String.ofList ((text.toList.dropWhile (· ≠ '/')).drop 1))

/-- The object or file of a URI, as both sides take it apart. -/
def blobLocation (otherScheme : String) (uri : String) : Except String Location :=
  if startswith uri "file://" then .ok (.file (removePrefix uri "file://"))
  else if startswith uri "s3://" then
    let (bucket, key) := partitionSlash (removePrefix uri "s3://")
    if bucket = "" || key = "" then .error "artifact s3 uri must be s3://bucket/key"
    else .ok (.s3 bucket key)
  else .error otherScheme

/-- The worker's environment: `GPUCALL_WORKER_ARTIFACT_URI`, `.._BUCKET` and `.._PREFIX`. -/
structure WorkerArtifactEnv where
  uri : Option String := none
  bucket : Option String := none
  keyPrefix : String := "gpucall/artifacts"

/-- The object key of an export to a bucket. -/
def objectKey (keyPrefix : String) (e : ArtifactExport) : String :=
  stripSlashes keyPrefix ++ "/" ++ e.artifactChainId ++ "/" ++ e.version ++ "/artifact.bin"

/-- The URI that `_write_artifact_ciphertext` writes to. -/
def artifactUri (w : WorkerArtifactEnv) (e : ArtifactExport) : Except String String :=
  match w.uri.filter (· ≠ "") with
  | some uri => .ok uri
  | none =>
    match w.bucket.filter (· ≠ "") with
    | none => .error
        "GPUCALL_WORKER_ARTIFACT_BUCKET or GPUCALL_WORKER_ARTIFACT_URI is required for artifact export"
    | some bucket => .ok ("s3://" ++ bucket ++ "/" ++ objectKey w.keyPrefix e)

/-- `_write_artifact_ciphertext` -/
def writeArtifactCiphertext (w : WorkerArtifactEnv) (e : ArtifactExport) (ciphertext : List ℕ)
    (store : BlobStore) : Except String (String × BlobStore) := do
  let uri ← artifactUri w e
  let location ← blobLocation "GPUCALL_WORKER_ARTIFACT_URI must be s3:// or file://" uri
  return (uri, Function.update store location (some ciphertext))

/-! ## The export -/

section

variable (crypto : Crypto)

/-- The salt of a plan hash: `plan_hash.encode("utf-8") or None` -/
def hkdfSalt (planHash : String) : Option (List ℕ) :=
  if planHash = "" then none else some (utf8 planHash)

def hkdfInfo (chainId version : String) : String := "gpucall-artifact:" ++ chainId ++ ":" ++ version

/-- `_artifact_dek` of a master key -/
def artifactDek (master : List ℕ) (payload : ArtifactPayload) (e : ArtifactExport) : List ℕ :=
  crypto.hkdf (hkdfSalt (payload.governanceHash.getD ""))
    (utf8 (hkdfInfo e.artifactChainId e.version)) master

/-- An optional string in a dump. -/
def optionalStr (value : Option String) : Json := (value.map Json.str).getD .null

/-- `json.dumps(.., sort_keys=True, separators=(",", ":")).encode("utf-8")` -/
def dumpedBytes (value : Json) : List ℕ := utf8 (String.ofList (value.dumps true))

/-- `_associated_data` -/
def associatedData (payload : ArtifactPayload) (e : ArtifactExport) : List ℕ :=
  dumpedBytes <| .obj [("plan_hash", optionalStr payload.governanceHash),
    ("artifact_chain_id", .str e.artifactChainId), ("version", .str e.version),
    ("key_id", .str e.keyId)]

/-- `_artifact_plaintext`, with the bodies of the inputs as they are fetched. -/
def artifactPlaintext (fetch : DataRef → Except String (List ℕ)) (payload : ArtifactPayload)
    (task : String) : Except String (List ℕ) := do
  let inputs ← payload.inputRefs.mapM fun ref => do
    let body ← fetch ref
    return Json.obj [("uri", .str ref.uri), ("sha256", .str (crypto.sha256 body)),
      ("bytes", .number (toString body.length)), ("content_type", optionalStr ref.contentType)]
  let summary : Json :=
    match payload.splitLearning with
    | none => .null
    | some split => .obj [("activation_sha256", optionalStr split.activationSha256),
        ("irreversibility_claim", optionalStr split.irreversibilityClaim),
        ("dp_epsilon", split.dpEpsilon)]
  return dumpedBytes <| .obj [("kind", .str "gpucall-chained-artifact"), ("task", .str task),
    ("recipe", optionalStr payload.recipe), ("plan_id", optionalStr payload.planId),
    ("inputs", .arr inputs), ("split_learning", summary)]

/-- `_attestation_ref` -/
def attestationRef (payload : ArtifactPayload) : Option String :=
  payload.attestationEvidenceRefs.head?.or payload.attestationEvidenceRef

/-- `secrets.token_bytes(12)` -/
structure Nonce where
  bytes : List ℕ
  length_eq : bytes.length = 12 := by decide

/-- `bytes.hex()` -/
def bytesHex (bytes : List ℕ) : String :=
  String.ofList (bytes.flatMap fun b => [Nat.digitChar (b / 16), Nat.digitChar (b % 16)])

/-- `_encrypted_artifact_export`: the manifest and the store after the blob has been written. -/
def encryptedArtifactExport (fetch : DataRef → Except String (List ℕ)) (w : WorkerArtifactEnv)
    (master : List ℕ) (nonce : Nonce) (createdAt : String) (payload : ArtifactPayload) (task : String)
    (store : BlobStore) : Except String (ArtifactManifest × BlobStore) := do
  let e := payload.artifactExport
  let key := artifactDek crypto master payload e
  let plaintext ← artifactPlaintext crypto fetch payload task
  let ciphertext := crypto.encrypt key nonce.bytes plaintext (associatedData payload e)
  let blob := nonce.bytes ++ ciphertext
  let digest := crypto.sha256 blob
  let (uri, store) ← writeArtifactCiphertext w e blob store
  return ({
    artifactId := crypto.sha256 (utf8 (e.artifactChainId ++ ":" ++ e.version ++ ":" ++ digest))
    artifactChainId := e.artifactChainId
    version := e.version
    classification := payload.dataClassification.getD .restricted
    ciphertextUri := uri
    ciphertextSha256 := digest
    encryptionNonce := bytesHex nonce.bytes
    keyId := e.keyId
    producerPlanHash := payload.governanceHash.getD ""
    attestationEvidenceRef := attestationRef payload
    parentArtifactIds := e.parentArtifactIds
    legalHold := e.legalHold
    retentionUntil := e.retentionUntil
    createdAt := createdAt }, store)

end

/-! ## Keys that collide -/

/-- Two ways to read a text with a separator in it: the second chain goes on where the first version
begins. -/
def Shifted (separator : Char) (e e' : ArtifactExport) : Prop :=
  ∃ middle : List Char, e'.artifactChainId.toList = e.artifactChainId.toList ++ separator :: middle ∧
    e.version.toList = middle ++ separator :: e'.version.toList

theorem append_cons_eq_append_cons {separator : α} {c c' v v' : List α} :
    c ++ separator :: v = c' ++ separator :: v' ↔ (c = c' ∧ v = v') ∨
      (∃ middle, c' = c ++ separator :: middle ∧ v = middle ++ separator :: v') ∨
      ∃ middle, c = c' ++ separator :: middle ∧ v' = middle ++ separator :: v := by
  rw [List.append_eq_append_iff]
  constructor
  · rintro (⟨tail, hc, hv⟩ | ⟨tail, hc, hv⟩)
    · cases tail with
      | nil => exact .inl ⟨by rw [hc, List.append_nil], (List.cons.inj hv).2⟩
      | cons x middle =>
        obtain ⟨rfl, rfl⟩ := List.cons.inj hv
        exact .inr (.inl ⟨middle, hc, rfl⟩)
    · cases tail with
      | nil => exact .inl ⟨by rw [hc, List.append_nil], (List.cons.inj hv).2.symm⟩
      | cons x middle =>
        obtain ⟨rfl, rfl⟩ := List.cons.inj hv
        exact .inr (.inr ⟨middle, hc, rfl⟩)
  · rintro (⟨rfl, rfl⟩ | ⟨middle, rfl, rfl⟩ | ⟨middle, rfl, rfl⟩)
    · exact .inl ⟨[], by simp, rfl⟩
    · exact .inl ⟨separator :: middle, rfl, rfl⟩
    · exact .inr ⟨separator :: middle, rfl, rfl⟩

/-- The bucket path of the environment. -/
structure BucketPath where
  bucket : String
  keyPrefix : String := "gpucall/artifacts"
  nonempty : bucket ≠ "" := by decide
  no_slash : '/' ∉ bucket.toList := by decide

def BucketPath.env (b : BucketPath) : WorkerArtifactEnv where
  bucket := some b.bucket
  keyPrefix := b.keyPrefix

theorem blobLocation_s3 {bucket key other : String} (hbucket : bucket ≠ "")
    (hslash : '/' ∉ bucket.toList) (hkey : key ≠ "") :
    blobLocation other ("s3://" ++ bucket ++ "/" ++ key) = .ok (.s3 bucket key) := by
  have htext : ("s3://" ++ bucket ++ "/" ++ key).toList =
      's' :: '3' :: ':' :: '/' :: '/' :: (bucket.toList ++ '/' :: key.toList) := by simp
  have hfile : startswith ("s3://" ++ bucket ++ "/" ++ key) "file://" = false := by
    rw [startswith, htext]
    rfl
  have hs3 : startswith ("s3://" ++ bucket ++ "/" ++ key) "s3://" = true := by
    rw [startswith, htext]
    rfl
  have hrest : (removePrefix ("s3://" ++ bucket ++ "/" ++ key) "s3://").toList =
      bucket.toList ++ '/' :: key.toList := by
    rw [removePrefix, if_pos hs3, htext, String.toList_ofList]
    rfl
  have hpos : ∀ c ∈ bucket.toList, decide (c ≠ '/') = true := by
    intro c hc
    refine decide_eq_true ?_
    rintro rfl
    exact hslash hc
  have hpartition : partitionSlash (removePrefix ("s3://" ++ bucket ++ "/" ++ key) "s3://") =
      (bucket, key) := by
    rw [partitionSlash, hrest, List.takeWhile_append_of_pos hpos, List.dropWhile_append_of_pos hpos]
    simp
  simp only [blobLocation, hfile, hs3, hpartition, hbucket, hkey, Bool.false_eq_true, if_false,
    if_true, decide_false, Bool.or_self]

theorem objectKey_ne_empty (keyPrefix : String) (e : ArtifactExport) : objectKey keyPrefix e ≠ "" := by
  intro h
  have h := congrArg String.toList h
  simp [objectKey] at h

theorem artifactUri_bucket (b : BucketPath) (e : ArtifactExport) :
    artifactUri b.env e = .ok ("s3://" ++ b.bucket ++ "/" ++ objectKey b.keyPrefix e) := by
  have hbucket : (some b.bucket).filter (· ≠ "") = some b.bucket := by
    simp [Option.filter, b.nonempty]
  simp only [artifactUri, BucketPath.env, Option.filter_none, hbucket]

theorem writeArtifactCiphertext_bucket (b : BucketPath) (e : ArtifactExport) (ciphertext : List ℕ)
    (store : BlobStore) :
    writeArtifactCiphertext b.env e ciphertext store =
      .ok ("s3://" ++ b.bucket ++ "/" ++ objectKey b.keyPrefix e,
        Function.update store (.s3 b.bucket (objectKey b.keyPrefix e)) (some ciphertext)) := by
  simp only [writeArtifactCiphertext, artifactUri_bucket, bind, Except.bind,
    blobLocation_s3 b.nonempty b.no_slash (objectKey_ne_empty _ e)]
  rfl

theorem objectKey_eq_iff (keyPrefix : String) (e e' : ArtifactExport) :
    objectKey keyPrefix e = objectKey keyPrefix e' ↔
      e.artifactChainId.toList ++ '/' :: e.version.toList =
        e'.artifactChainId.toList ++ '/' :: e'.version.toList := by
  rw [← String.toList_inj]
  have hkey (e : ArtifactExport) : (objectKey keyPrefix e).toList =
      (stripSlashes keyPrefix).toList ++ ['/'] ++
        (e.artifactChainId.toList ++ '/' :: e.version.toList) ++ "/artifact.bin".toList := by
    simp [objectKey]
  rw [hkey, hkey, List.append_left_inj, List.append_right_inj]

theorem hkdfInfo_eq_iff (c v c' v' : String) :
    hkdfInfo c v = hkdfInfo c' v' ↔
      c.toList ++ ':' :: v.toList = c'.toList ++ ':' :: v'.toList := by
  rw [← String.toList_inj]
  have hinfo (c v : String) : (hkdfInfo c v).toList =
      "gpucall-artifact:".toList ++ (c.toList ++ ':' :: v.toList) := by
    unfold hkdfInfo
    rw [String.toList_append, String.toList_append, String.toList_append, List.append_assoc,
      List.append_assoc]
    congr 2
  rw [hinfo, hinfo, List.append_right_inj]

/-- For two different artifacts, the text with a separator in it is the same exactly when one of them
is the other, shifted. -/
theorem joined_eq_iff {e e' : ArtifactExport}
    (h : (e.artifactChainId, e.version) ≠ (e'.artifactChainId, e'.version)) (separator : Char) :
    e.artifactChainId.toList ++ separator :: e.version.toList =
        e'.artifactChainId.toList ++ separator :: e'.version.toList ↔
      Shifted separator e e' ∨ Shifted separator e' e := by
  rw [append_cons_eq_append_cons]
  constructor
  · rintro (⟨hchain, hversion⟩ | hshifted)
    · exact absurd (Prod.ext (String.toList_inj.mp hchain) (String.toList_inj.mp hversion)) h
    · exact hshifted
  · exact .inr

/-- The two exports write to different objects, the second one leaves the ciphertext of the first one
alone, and their data keys are derived from different info strings. -/
structure Apart (b : BucketPath) (e e' : ArtifactExport) : Prop where
  writes : ∀ ciphertext ciphertext' store uri uri' store₁ store₂,
    writeArtifactCiphertext b.env e ciphertext store = .ok (uri, store₁) →
    writeArtifactCiphertext b.env e' ciphertext' store₁ = .ok (uri', store₂) →
    ∃ key key', uri = "s3://" ++ b.bucket ++ "/" ++ key ∧ uri' = "s3://" ++ b.bucket ++ "/" ++ key' ∧
      key ≠ key' ∧ store₂ (.s3 b.bucket key) = some ciphertext
  infos : hkdfInfo e.artifactChainId e.version ≠ hkdfInfo e'.artifactChainId e'.version

theorem apart_iff_ne {b : BucketPath} {e e' : ArtifactExport} :
    Apart b e e' ↔ objectKey b.keyPrefix e ≠ objectKey b.keyPrefix e' ∧
      hkdfInfo e.artifactChainId e.version ≠ hkdfInfo e'.artifactChainId e'.version := by
  constructor
  · intro h
    refine ⟨fun heq => ?_, h.infos⟩
    obtain ⟨key, key', hkey, hkey', hne, -⟩ := h.writes [] [] (fun _ => none) _ _ _ _
      (writeArtifactCiphertext_bucket b e _ _) (writeArtifactCiphertext_bucket b e' _ _)
    rw [heq, hkey'] at hkey
    have hcancel := congrArg String.toList hkey
    simp only [String.toList_append, List.append_assoc, List.append_cancel_left_eq] at hcancel
    exact hne (String.toList_inj.mp hcancel).symm
  · rintro ⟨hkeys, hinfos⟩
    refine ⟨fun ciphertext ciphertext' store uri uri' store₁ store₂ hwrite hwrite' => ?_, hinfos⟩
    rw [writeArtifactCiphertext_bucket] at hwrite hwrite'
    cases hwrite
    cases hwrite'
    refine ⟨_, _, rfl, rfl, hkeys, ?_⟩
    rw [Function.update_of_ne (fun heq => hkeys (Location.s3.inj heq).2), Function.update_self]

/-- Two different artifacts are kept apart exactly when neither is the other with a part of its name
shifted across the slash or across the colon. -/
theorem apart_iff (b : BucketPath) (e e' : ArtifactExport)
    (h : (e.artifactChainId, e.version) ≠ (e'.artifactChainId, e'.version)) :
    Apart b e e' ↔ ¬ Shifted '/' e e' ∧ ¬ Shifted '/' e' e ∧ ¬ Shifted ':' e e' ∧
      ¬ Shifted ':' e' e := by
  rw [apart_iff_ne, ne_eq, ne_eq, objectKey_eq_iff, hkdfInfo_eq_iff, joined_eq_iff h,
    joined_eq_iff h, not_or, not_or, and_assoc]

def firstVersion : ArtifactExport where
  artifactChainId := "chain-1"
  version := "0001"
  keyId := "tenant-key"

def secondVersion : ArtifactExport where
  artifactChainId := "chain-1"
  version := "0002"
  keyId := "tenant-key"

theorem not_shifted_of_length {e e' : ArtifactExport} (separator : Char)
    (h : e'.artifactChainId.toList.length ≤ e.artifactChainId.toList.length) :
    ¬ Shifted separator e e' := by
  rintro ⟨middle, hchain, -⟩
  have hlength := congrArg List.length hchain
  simp only [List.length_append, List.length_cons] at hlength
  omega

theorem apart_iff_versions : Apart { bucket := "artifacts" } firstVersion secondVersion :=
  (apart_iff { bucket := "artifacts" } firstVersion secondVersion (by decide)).mpr
    ⟨not_shifted_of_length _ (by decide), not_shifted_of_length _ (by decide),
      not_shifted_of_length _ (by decide), not_shifted_of_length _ (by decide)⟩

def teamLora : ArtifactExport where
  artifactChainId := "team/lora"
  version := "v1"
  keyId := "tenant-key"

def loraOfTeam : ArtifactExport where
  artifactChainId := "team"
  version := "lora/v1"
  keyId := "tenant-key"

/-- The slash of the chain id and the slash of the version give one object key. -/
theorem teamLora_not_apart :
    (teamLora.artifactChainId, teamLora.version) ≠ (loraOfTeam.artifactChainId, loraOfTeam.version) ∧
      ¬ Apart { bucket := "artifacts" } teamLora loraOfTeam := by
  refine ⟨by decide, fun h => ?_⟩
  have hkeys := (apart_iff_ne.mp h).1
  exact hkeys (by decide +kernel)

end Gpucall
