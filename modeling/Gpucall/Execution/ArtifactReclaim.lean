import Gpucall.Execution.Artifacts
import Gpucall.Lib.OptionList
import Gpucall.Routing.FailClosed
import Gpucall.ObjectStore

/-! `artifact_reclaim.py`: the operator fetches an exported artifact, checks it, and decrypts it with the
key and the associated data that the manifest names. -/

namespace Gpucall

/-! ## Manifests as JSON -/

/-- What pydantic does to the fields of a manifest: `AnyUrl`, which refuses what is no URL, and the
text of a datetime. -/
structure ManifestCodec where
  anyUrl : String → Option String
  datetime : String → String

/-- `ArtifactManifest.model_validate(manifest).model_dump(mode="json")` -/
def ManifestCodec.roundTrip (codec : ManifestCodec) (manifest : ArtifactManifest) :
    Option ArtifactManifest :=
  (codec.anyUrl manifest.ciphertextUri).map fun uri =>
    { manifest with
      ciphertextUri := uri
      retentionUntil := manifest.retentionUntil.map codec.datetime
      createdAt := codec.datetime manifest.createdAt }

/-! ## Reclaiming -/

structure Reclaimed where
  /-- what is written to the output path -/
  plaintext : List ℕ
  plaintextSha256 : String
  remoteDeleted : Bool
  remoteVerifiedAbsent : Option Bool

section

variable (env : Environment) (crypto : Crypto)

/-- `_enforce_bucket_scope` -/
def enforceBucketScope (allowedBuckets : Option (List String)) (uri : String) : Except String Unit :=
  if !startswith uri "s3://" then .ok ()
  else
    match allowedBuckets with
    | none => .ok ()
    | some allowed =>
      let bucket := (partitionSlash (removePrefix uri "s3://")).1
      if bucket ∈ allowed then .ok ()
      else .error ("artifact bucket " ++ env.repr bucket ++ " is outside the operator scope [" ++
        joinStr ", " ((allowed.insertionSort (· ≤ ·)).map env.repr) ++ "]; refusing to touch it")

/-- `_fetch_blob` -/
def fetchBlob (store : BlobStore) (uri : String) : Except String (Location × List ℕ) := do
  let location ← blobLocation "artifact uri must be s3:// or file://" uri
  match store location with
  | none => throw "NoSuchKey"
  | some blob => return (location, blob)

def reclaimSalt (manifest : ArtifactManifest) : Option (List ℕ) := hkdfSalt manifest.producerPlanHash

def reclaimInfo (manifest : ArtifactManifest) : String :=
  hkdfInfo manifest.artifactChainId manifest.version

def reclaimAssociated (manifest : ArtifactManifest) : List ℕ :=
  dumpedBytes <| .obj [
    ("plan_hash",
      if manifest.producerPlanHash = "" then .null else .str manifest.producerPlanHash),
    ("artifact_chain_id", .str manifest.artifactChainId), ("version", .str manifest.version),
    ("key_id", .str manifest.keyId)]

/-- `_decrypt` -/
def decryptArtifact (blob : List ℕ) (manifest : ArtifactManifest) (master : List ℕ) :
    Except String (List ℕ) :=
  let dek := crypto.hkdf (reclaimSalt manifest) (utf8 (reclaimInfo manifest)) master
  match crypto.decrypt dek (blob.take 12) (blob.drop 12) (reclaimAssociated manifest) with
  | none => .error "InvalidTag"
  | some plaintext => .ok plaintext

/-- `reclaim_artifact`: what is recovered, and the store afterwards. -/
def reclaimArtifact (manifest : ArtifactManifest) (master : List ℕ)
    (allowedBuckets : Option (List String)) (deleteRemote : Bool) (store : BlobStore) :
    Except String (Reclaimed × BlobStore) := do
  let uri := manifest.ciphertextUri
  let expected := manifest.ciphertextSha256
  if uri = "" || expected = "" || manifest.artifactChainId = "" || manifest.version = "" then
    throw "manifest requires ciphertext_uri, ciphertext_sha256, artifact_chain_id, and version"
  enforceBucketScope env allowedBuckets uri
  let (location, blob) ← fetchBlob store uri
  let actual := crypto.sha256 blob
  if actual ≠ expected then
    throw ("ciphertext sha256 mismatch: expected " ++ expected ++ ", fetched " ++ actual)
  if blob.length ≤ 12 then throw "ciphertext blob is too short to contain a nonce"
  let plaintext ← decryptArtifact crypto blob manifest master
  let kept := if deleteRemote then Function.update store location none else store
  return ({
    plaintext
    plaintextSha256 := crypto.sha256 plaintext
    remoteDeleted := deleteRemote
    remoteVerifiedAbsent := if deleteRemote then some (kept location).isNone else none }, kept)

end

/-! ## URIs and locations -/

theorem removePrefix_append {s stem : String} (h : startswith s stem = true) :
    stem ++ removePrefix s stem = s := by
  rw [startswith, List.isPrefixOf_iff_prefix] at h
  obtain ⟨rest, hrest⟩ := h
  apply String.toList_inj.mp
  rw [removePrefix, if_pos (by rw [startswith, List.isPrefixOf_iff_prefix]; exact ⟨rest, hrest⟩),
    String.toList_append, String.toList_ofList, ← hrest, List.drop_left]

theorem partitionSlash_append {text : String} (h : (partitionSlash text).2 ≠ "") :
    (partitionSlash text).1 ++ "/" ++ (partitionSlash text).2 = text := by
  apply String.toList_inj.mp
  have hsplit := List.takeWhile_append_dropWhile (p := fun c => decide (c ≠ '/')) (l := text.toList)
  cases hdrop : text.toList.dropWhile (fun c => decide (c ≠ '/')) with
  | nil =>
    refine absurd ?_ h
    rw [partitionSlash, hdrop]
    rfl
  | cons c rest =>
    have hc := List.head?_dropWhile_not (fun c => decide (c ≠ '/')) text.toList
    rw [hdrop] at hc hsplit
    have hslash : c = '/' := by simpa using hc
    simp only [partitionSlash, hdrop, String.toList_append, String.toList_ofList]
    rw [← hslash.symm] at hsplit
    simpa using hsplit

/-- The URI of a location. -/
def Location.uri : Location → String
  | .file path => "file://" ++ path
  | .s3 bucket key => "s3://" ++ bucket ++ "/" ++ key

/-- A location is the location of one URI. -/
theorem uri_of_blobLocation {other uri : String} {location : Location}
    (h : blobLocation other uri = .ok location) : location.uri = uri := by
  unfold blobLocation at h
  split at h
  · next hfile =>
    cases h
    exact removePrefix_append hfile
  split at h
  · next hs3 =>
    dsimp only at h
    split at h
    · cases h
    · next hne =>
      cases h
      simp only [Bool.or_eq_true, decide_eq_true_eq, not_or] at hne
      have hrest := partitionSlash_append hne.2
      calc "s3://" ++ (partitionSlash (removePrefix uri "s3://")).1 ++ "/" ++
            (partitionSlash (removePrefix uri "s3://")).2
          = "s3://" ++ ((partitionSlash (removePrefix uri "s3://")).1 ++ "/" ++
            (partitionSlash (removePrefix uri "s3://")).2) := by simp only [String.append_assoc]
        _ = "s3://" ++ removePrefix uri "s3://" := by rw [hrest]
        _ = uri := removePrefix_append hs3
  · cases h

theorem blobLocation_ne_empty {other : String} {location : Location} :
    blobLocation other "" ≠ .ok location := by
  intro h
  have huri := congrArg String.toList (uri_of_blobLocation h)
  cases location with
  | file path => simp [Location.uri] at huri
  | s3 bucket key => simp [Location.uri] at huri

/-- Both sides take a URI apart in the same way. -/
theorem blobLocation_other {other other' uri : String} {location : Location}
    (h : blobLocation other uri = .ok location) : blobLocation other' uri = .ok location := by
  unfold blobLocation at h ⊢
  split
  · next hfile =>
    rw [if_pos hfile] at h
    exact h
  · next hfile =>
    rw [if_neg hfile] at h
    split
    · next hs3 =>
      rw [if_pos hs3] at h
      exact h
    · next hs3 =>
      rw [if_neg hs3] at h
      cases h

/-! ## What the export leaves behind -/

section

variable {env : Environment} {crypto : Crypto} {fetch : DataRef → Except String (List ℕ)}
  {w : WorkerArtifactEnv} {master : List ℕ} {nonce : Nonce} {payload : ArtifactPayload}
  {task : String} {store : BlobStore} {manifest : ArtifactManifest} {plaintext : List ℕ}
  {uri : String} {location : Location}

/-- The blob that the export writes. -/
def exportedBlob (crypto : Crypto) (master : List ℕ) (nonce : Nonce) (payload : ArtifactPayload)
    (plaintext : List ℕ) : List ℕ :=
  nonce.bytes ++ crypto.encrypt (artifactDek crypto master payload payload.artifactExport) nonce.bytes
    plaintext (associatedData payload payload.artifactExport)

/-- The fields of a manifest that a reclaim reads, except for the URI. -/
structure Describes (crypto : Crypto) (payload : ArtifactPayload) (blob : List ℕ)
    (manifest : ArtifactManifest) : Prop where
  chain : manifest.artifactChainId = payload.artifactExport.artifactChainId
  version : manifest.version = payload.artifactExport.version
  key : manifest.keyId = payload.artifactExport.keyId
  planHash : manifest.producerPlanHash = payload.governanceHash.getD ""
  sha256 : manifest.ciphertextSha256 = crypto.sha256 blob

theorem encryptedArtifactExport_eq (master : List ℕ) (nonce : Nonce) (createdAt : String)
    (hplaintext : artifactPlaintext crypto fetch payload task = .ok plaintext)
    (huri : artifactUri w payload.artifactExport = .ok uri)
    (hlocation : blobLocation "GPUCALL_WORKER_ARTIFACT_URI must be s3:// or file://" uri =
      .ok location) (store : BlobStore) :
    ∃ manifest, encryptedArtifactExport crypto fetch w master nonce createdAt payload task store =
        .ok (manifest, Function.update store location
          (some (exportedBlob crypto master nonce payload plaintext))) ∧
      manifest.ciphertextUri = uri ∧
      Describes crypto payload (exportedBlob crypto master nonce payload plaintext) manifest := by
  simp only [encryptedArtifactExport, hplaintext, writeArtifactCiphertext, huri, hlocation, bind,
    Except.bind, pure, Except.pure]
  exact ⟨_, rfl, rfl, ⟨rfl, rfl, rfl, rfl, rfl⟩⟩

theorem reclaimAssociated_eq {blob : List ℕ} (h : Describes crypto payload blob manifest)
    (hhash : payload.governanceHash ≠ some "") :
    reclaimAssociated manifest = associatedData payload payload.artifactExport := by
  have hplan : (if manifest.producerPlanHash = "" then Json.null
      else .str manifest.producerPlanHash) = optionalStr payload.governanceHash := by
    rw [h.planHash]
    cases hvalue : payload.governanceHash with
    | none => rfl
    | some hash =>
      have hne : hash ≠ "" := by
        rintro rfl
        exact hhash hvalue
      simp [optionalStr, hne]
  rw [reclaimAssociated, associatedData, hplan, h.chain, h.version, h.key]

theorem decryptArtifact_exportedBlob
    (h : Describes crypto payload (exportedBlob crypto master nonce payload plaintext) manifest)
    (hhash : payload.governanceHash ≠ some "") :
    decryptArtifact crypto (exportedBlob crypto master nonce payload plaintext) manifest master =
      .ok plaintext := by
  have hnonce : (exportedBlob crypto master nonce payload plaintext).take 12 = nonce.bytes :=
    List.take_left' nonce.length_eq
  have hrest : (exportedBlob crypto master nonce payload plaintext).drop 12 = _ :=
    List.drop_left' nonce.length_eq
  have hdek : crypto.hkdf (reclaimSalt manifest) (utf8 (reclaimInfo manifest)) master =
      artifactDek crypto master payload payload.artifactExport := by
    rw [reclaimSalt, reclaimInfo, artifactDek, h.planHash, h.chain, h.version]
  rw [decryptArtifact, hnonce, hrest, hdek, reclaimAssociated_eq h hhash, crypto.decrypt_encrypt]

/-- The operator derives what the worker derived, and recovers what the worker sealed. -/
structure Reclaims (env : Environment) (crypto : Crypto) (master : List ℕ) (payload : ArtifactPayload)
    (plaintext : List ℕ) (allowedBuckets : Option (List String)) (deleteRemote : Bool)
    (manifest : ArtifactManifest) (store : BlobStore) : Prop where
  salt : reclaimSalt manifest = hkdfSalt (payload.governanceHash.getD "")
  info : reclaimInfo manifest =
    hkdfInfo payload.artifactExport.artifactChainId payload.artifactExport.version
  associated : reclaimAssociated manifest = associatedData payload payload.artifactExport
  recovers : ∃ reclaimed store', reclaimArtifact env crypto manifest master allowedBuckets deleteRemote
    store = .ok (reclaimed, store') ∧ reclaimed.plaintext = plaintext

variable {allowedBuckets : Option (List String)} {deleteRemote : Bool}

theorem reclaims_of_describes
    (h : Describes crypto payload (exportedBlob crypto master nonce payload plaintext) manifest)
    (hhash : payload.governanceHash ≠ some "")
    (hchain : payload.artifactExport.artifactChainId ≠ "")
    (hversion : payload.artifactExport.version ≠ "")
    (hlocation : blobLocation "artifact uri must be s3:// or file://" manifest.ciphertextUri =
      .ok location)
    (hscope : enforceBucketScope env allowedBuckets manifest.ciphertextUri = .ok ())
    (hstore : store location = some (exportedBlob crypto master nonce payload plaintext)) :
    Reclaims env crypto master payload plaintext allowedBuckets deleteRemote manifest store := by
  refine ⟨by rw [reclaimSalt, h.planHash], by rw [reclaimInfo, h.chain, h.version],
    reclaimAssociated_eq h hhash, ?_⟩
  have huri : manifest.ciphertextUri ≠ "" := by
    intro heq
    rw [heq] at hlocation
    exact blobLocation_ne_empty hlocation
  have hsha256 : manifest.ciphertextSha256 ≠ "" := by
    intro heq
    have hlength := crypto.length_sha256 (exportedBlob crypto master nonce payload plaintext)
    rw [← h.sha256, heq] at hlength
    exact absurd hlength (by decide)
  have hfetch : fetchBlob store manifest.ciphertextUri =
      .ok (location, exportedBlob crypto master nonce payload plaintext) := by
    simp [fetchBlob, hlocation, hstore, bind, Except.bind, pure, Except.pure]
  have hlength : ¬ (exportedBlob crypto master nonce payload plaintext).length ≤ 12 := by
    rw [exportedBlob, List.length_append, nonce.length_eq, crypto.length_encrypt]
    omega
  have hchain : manifest.artifactChainId ≠ "" := h.chain ▸ hchain
  have hversion : manifest.version ≠ "" := h.version ▸ hversion
  simp only [reclaimArtifact, huri, hsha256, hchain, hversion, hscope, hfetch, ← h.sha256, hlength,
    decryptArtifact_exportedBlob h hhash, decide_false, Bool.or_self, Bool.false_eq_true, if_false,
    ne_eq, not_true_eq_false, bind, Except.bind, pure, Except.pure]
  exact ⟨_, _, rfl, rfl⟩

theorem fetchBlob_of_reclaims
    (h : Reclaims env crypto master payload plaintext allowedBuckets deleteRemote manifest store) :
    ∃ location blob, blobLocation "artifact uri must be s3:// or file://" manifest.ciphertextUri =
      .ok location ∧ store location = some blob := by
  obtain ⟨reclaimed, store', hreclaim, -⟩ := h.recovers
  obtain ⟨fetched, hfetch⟩ : ∃ fetched, fetchBlob store manifest.ciphertextUri = .ok fetched := by
    cases hfetch : fetchBlob store manifest.ciphertextUri with
    | ok fetched => exact ⟨fetched, rfl⟩
    | error e =>
      simp only [reclaimArtifact, hfetch, bind, Except.bind, throw, throwThe,
        MonadExceptOf.throw] at hreclaim
      split at hreclaim
      · contradiction
      split at hreclaim
      · contradiction
      · contradiction
  obtain ⟨location, hlocation, hfetch⟩ := Fallible.bind_eq_ok.mp hfetch
  split at hfetch
  · contradiction
  next blob hblob =>
  exact ⟨location, blob, hlocation, hblob⟩

variable {codec : ManifestCodec} {manifest' : ArtifactManifest}

theorem roundTrip_describes {blob : List ℕ} (h : Describes crypto payload blob manifest)
    (hround : codec.roundTrip manifest = some manifest') : Describes crypto payload blob manifest' := by
  obtain ⟨uri, -, rfl⟩ := Option.map_eq_some_iff.mp hround
  exact ⟨h.chain, h.version, h.key, h.planHash, h.sha256⟩

theorem roundTrip_uri (hround : codec.roundTrip manifest = some manifest') :
    codec.anyUrl manifest.ciphertextUri = some manifest'.ciphertextUri := by
  obtain ⟨uri, huri, rfl⟩ := Option.map_eq_some_iff.mp hround
  exact huri

/-- From a store that holds nothing but the export, only its own URI leads to it. -/
theorem uri_of_reclaims {blob : List ℕ} {other : String}
    (hlocation : blobLocation other uri = .ok location)
    (h : Reclaims env crypto master payload plaintext allowedBuckets deleteRemote manifest
      (Function.update (fun _ => none) location (some blob))) : manifest.ciphertextUri = uri := by
  obtain ⟨found, blob', hfound, hstore⟩ := fetchBlob_of_reclaims h
  have hsame : found = location := by
    by_contra hne
    rw [Function.update_of_ne hne] at hstore
    contradiction
  rw [← uri_of_blobLocation hfound, hsame, uri_of_blobLocation hlocation]

/-- **Reclaim undoes export.** From the manifest as it is returned the operator derives the same salt,
info and associated data, and recovers the plaintext; from the manifest after a round trip through JSON
exactly when `AnyUrl` leaves the URI of the artifact as it is. -/
theorem reclaim_undoes_export_iff (env : Environment) (crypto : Crypto) (codec : ManifestCodec)
    (fetch : DataRef → Except String (List ℕ)) (w : WorkerArtifactEnv) (master : List ℕ)
    (nonce : Nonce) (createdAt : String) (payload : ArtifactPayload) (task : String)
    (allowedBuckets : Option (List String)) (deleteRemote : Bool) (plaintext : List ℕ) (uri : String)
    (location : Location) (hhash : payload.governanceHash ≠ some "")
    (hchain : payload.artifactExport.artifactChainId ≠ "")
    (hversion : payload.artifactExport.version ≠ "")
    (hplaintext : artifactPlaintext crypto fetch payload task = .ok plaintext)
    (huri : artifactUri w payload.artifactExport = .ok uri)
    (hlocation : blobLocation "GPUCALL_WORKER_ARTIFACT_URI must be s3:// or file://" uri =
      .ok location)
    (hscope : enforceBucketScope env allowedBuckets uri = .ok ()) :
    (∀ store manifest store₁,
      encryptedArtifactExport crypto fetch w master nonce createdAt payload task store =
        .ok (manifest, store₁) →
      Reclaims env crypto master payload plaintext allowedBuckets deleteRemote manifest store₁ ∧
      ∃ manifest', codec.roundTrip manifest = some manifest' ∧
        Reclaims env crypto master payload plaintext allowedBuckets deleteRemote manifest' store₁) ↔
      codec.anyUrl uri = some uri := by
  have hexport := encryptedArtifactExport_eq master nonce createdAt hplaintext huri hlocation
  constructor
  · intro h
    obtain ⟨manifest, hmanifest, hmuri, -⟩ := hexport fun _ => none
    obtain ⟨-, manifest', hround, hreclaims⟩ := h _ _ _ hmanifest
    have huri' := roundTrip_uri hround
    rwa [hmuri, uri_of_reclaims hlocation hreclaims] at huri'
  · intro hkeeps store manifest store₁ hrun
    obtain ⟨manifest, hmanifest, hmuri, hdescribes⟩ := hexport store
    obtain ⟨rfl, rfl⟩ := Prod.mk.inj (Except.ok.inj (hmanifest.symm.trans hrun))
    have hreclaims {manifest : ArtifactManifest} (hmuri : manifest.ciphertextUri = uri)
        (h : Describes crypto payload (exportedBlob crypto master nonce payload plaintext) manifest) :
        Reclaims env crypto master payload plaintext allowedBuckets deleteRemote manifest
          (Function.update store location
            (some (exportedBlob crypto master nonce payload plaintext))) :=
      reclaims_of_describes h hhash hchain hversion (hmuri ▸ blobLocation_other hlocation)
        (hmuri ▸ hscope) (Function.update_self ..)
    refine ⟨hreclaims hmuri hdescribes, ?_⟩
    obtain ⟨manifest', hround⟩ : ∃ manifest', codec.roundTrip manifest = some manifest' :=
      ⟨_, by rw [ManifestCodec.roundTrip, hmuri, hkeeps]; rfl⟩
    have hmuri' := roundTrip_uri hround
    rw [hmuri, hkeeps] at hmuri'
    exact ⟨manifest', hround, hreclaims (Option.some.inj hmuri').symm
      (roundTrip_describes hdescribes hround)⟩

end

/-! ## A chain with a space in its name -/

/-- A stand-in for the primitives: the tag is a checksum of the key, the nonce and the associated data. -/
def checksumCrypto : Crypto where
  hkdf salt info master := salt.getD [] ++ info ++ master
  encrypt key nonce plaintext associated :=
    plaintext ++ List.replicate 16 ((key ++ nonce ++ associated).sum % 256)
  decrypt key nonce ciphertext associated :=
    if ciphertext.drop (ciphertext.length - 16) =
        List.replicate 16 ((key ++ nonce ++ associated).sum % 256) then
      some (ciphertext.take (ciphertext.length - 16))
    else none
  sha256 body := String.ofList (List.replicate 64 (Nat.digitChar (body.sum % 16)))
  decrypt_encrypt key nonce plaintext associated := by simp
  length_encrypt key nonce plaintext associated := by simp
  length_sha256 body := by simp

def urlCodec : ManifestCodec where
  anyUrl text := some (ObjectStore.rfcUrl.str text)
  datetime text := text

def trainPayload (chainId : String) : ArtifactPayload where
  recipe := some "train-lora-draft"
  planId := some "plan-123"
  governanceHash := some "gh-abc"
  artifactExport := { artifactChainId := chainId, version := "v1", keyId := "operator-master-1"
                      explicit := teamLora.explicit }

def artifactBucket : BucketPath where
  bucket := "artifacts"

def zeroNonce : Nonce where
  bytes := List.replicate 12 0

/-- The claim for a training payload that is exported to the bucket. -/
def TrainReclaims (chainId : String) (plaintext : List ℕ) : Prop :=
  ∀ store manifest store₁,
    encryptedArtifactExport checksumCrypto (fun _ => .error "") artifactBucket.env [17] zeroNonce
      "2026-01-01T00:00:00+00:00" (trainPayload chainId) "train" store = .ok (manifest, store₁) →
    Reclaims GovernanceCompiler.modalEnvironment checksumCrypto [17] (trainPayload chainId) plaintext
      none false manifest store₁ ∧
    ∃ manifest', urlCodec.roundTrip manifest = some manifest' ∧
      Reclaims GovernanceCompiler.modalEnvironment checksumCrypto [17] (trainPayload chainId) plaintext
        none false manifest' store₁

theorem blobLocation_bucket (b : BucketPath) (e : ArtifactExport) (other : String) :
    blobLocation other ("s3://" ++ b.bucket ++ "/" ++ objectKey b.keyPrefix e) =
      .ok (.s3 b.bucket (objectKey b.keyPrefix e)) :=
  blobLocation_s3 b.nonempty b.no_slash (objectKey_ne_empty _ e)

theorem reclaim_undoes_export_iff_lora :
    ∃ plaintext, artifactPlaintext checksumCrypto (fun _ => .error "") (trainPayload "lora-chain-1")
        "train" = .ok plaintext ∧ TrainReclaims "lora-chain-1" plaintext := by
  refine ⟨_, rfl, ?_⟩
  exact (reclaim_undoes_export_iff _ _ _ _ _ _ _ _ _ _ none false _ _ _ (by decide) (by decide)
    (by decide) rfl (artifactUri_bucket _ _) (blobLocation_bucket _ _ _) rfl).mpr (by decide +kernel)

/-- `AnyUrl` writes the space as an escape, and there is no object of that name. -/
theorem myModel_not_reclaims :
    ∃ plaintext, artifactPlaintext checksumCrypto (fun _ => .error "") (trainPayload "my model")
        "train" = .ok plaintext ∧ ¬ TrainReclaims "my model" plaintext := by
  refine ⟨_, rfl, fun h => ?_⟩
  have hlocation := blobLocation_bucket artifactBucket (trainPayload "my model").artifactExport
  have hplaintext : artifactPlaintext checksumCrypto (fun _ => .error "") (trainPayload "my model")
      "train" = .ok _ := rfl
  obtain ⟨manifest, hmanifest, huri, -⟩ := encryptedArtifactExport_eq [17] zeroNonce
    "2026-01-01T00:00:00+00:00" hplaintext (artifactUri_bucket artifactBucket _) (hlocation _)
    fun _ => none
  obtain ⟨-, manifest', hround, hreclaims⟩ := h _ _ _ hmanifest
  have hkept := roundTrip_uri hround
  rw [huri, uri_of_reclaims (hlocation "") hreclaims] at hkept
  revert hkept
  decide +kernel

end Gpucall
