import Gpucall.Lib.Hex
import Gpucall.Lib.OptionList
import Gpucall.Text

/-! The master key of the artifacts, as the operator reads it in `artifact_reclaim.py` and the worker in
`worker_contracts/artifacts.py`. Both take the blanks off the file before they look at its length, so a raw key
may lose a byte; the worker has removed its file by then. -/

namespace Gpucall

/-- The files that can be read -/
abbrev KeyFiles := String → Option (List UInt8)

inductive KeyError where
  | osError
  | runtime (message : String)

/-- `bytes.fromhex` of a text, which is given by its ASCII bytes -/
def fromHexAscii (bytes : List UInt8) : Option (List UInt8) :=
  if bytes.all (· < 128) then Bytes.fromHex bytes else none

/-- What either side makes of the bytes of a key file -/
def keyOfContent (content : List UInt8) : Option (List UInt8) :=
  let raw := Bytes.strip content
  let key := if raw.length = 64 then (fromHexAscii raw).getD raw else raw
  if key.length ≠ 32 then none else some key

/-- The path that the operator gives, or that the environment has for `GPUCALL_ARTIFACT_DEK_FILE` -/
def reclaimKeyPath (dekFile environ : Option String) : String :=
  strip ((dekFile.filter (· ≠ "")).getD (environ.getD ""))

/-- `load_reclaim_master_key` -/
def loadReclaimMasterKey (dekFile environ : Option String) (files : KeyFiles) :
    Except KeyError (List UInt8) :=
  let path := reclaimKeyPath dekFile environ
  if path = "" then .error (.runtime "artifact reclamation requires --dek-file or GPUCALL_ARTIFACT_DEK_FILE")
  else
    match files path with
    | none => .error .osError
    | some content =>
      match keyOfContent content with
      | none => .error (.runtime "artifact master key must be a 32-byte AES-256 key (raw or hex)")
      | some key => .ok key

/-- The worker's environment: `GPUCALL_WORKER_ARTIFACT_DEK_FILE`, `GPUCALL_ALLOW_ARTIFACT_DEK_ENV` and
`GPUCALL_WORKER_ARTIFACT_DEK_HEX`. -/
structure WorkerKeyEnv where
  dekFile : String := ""
  allowDekEnv : String := ""
  dekHex : String := ""

def WorkerKeyEnv.path (environ : WorkerKeyEnv) : String := strip environ.dekFile

/-- `bytes.fromhex` of a text -/
def fromHexText (text : String) : Option (List UInt8) :=
  if text.toList.all (·.toNat < 128) then Bytes.fromHex (text.toList.map fun c => .ofNat c.toNat) else none

/-- `_artifact_dek_bytes`, with the files afterwards; where `os.unlink` fails the file stays. -/
def artifactDekBytes (environ : WorkerKeyEnv) (unlinkFails : String → Bool) (files : KeyFiles) :
    Except KeyError (List UInt8) × KeyFiles :=
  let path := environ.path
  if path ≠ "" then
    let left := if unlinkFails path then files else Function.update files path none
    match files path with
    | none => (.error .osError, left)
    | some content =>
      match keyOfContent content with
      | none => (.error (.runtime "GPUCALL_WORKER_ARTIFACT_DEK_FILE must contain a 32-byte AES-256 key"), left)
      | some key => (.ok key, left)
  else if (strip environ.allowDekEnv).toList.map Char.toLower ∉ ["1", "true", "yes", "on"].map String.toList then
    (.error (.runtime "GPUCALL_WORKER_ARTIFACT_DEK_HEX requires GPUCALL_ALLOW_ARTIFACT_DEK_ENV=1"), files)
  else if environ.dekHex = "" then
    (.error (.runtime ("GPUCALL_WORKER_ARTIFACT_DEK_FILE or GPUCALL_WORKER_ARTIFACT_DEK_HEX is required " ++
      "for artifact export")), files)
  else
    match fromHexText environ.dekHex with
    | none => (.error (.runtime "GPUCALL_WORKER_ARTIFACT_DEK_HEX must be hex"), files)
    | some key =>
      if key.length ≠ 32 then
        (.error (.runtime "GPUCALL_WORKER_ARTIFACT_DEK_HEX must encode a 32-byte AES-256 key"), files)
      else (.ok key, files)

/-! ## What a key file is good for -/

/-- The forms in which a file may have a key: the bytes, or two digits each, perhaps with a newline. -/
inductive StoredKey (key : List UInt8) : List UInt8 → Prop where
  | raw : StoredKey key key
  | hex (htext : Bytes.Spells text key) (hnewline : newline = [] ∨ newline = [10]) : StoredKey key (text ++ newline)

/-- A file with these bytes gives the key to both sides, and is not removed in vain. -/
structure ServesKey (key content : List UInt8) : Prop where
  operator : ∀ dekFile environ files, reclaimKeyPath dekFile environ ≠ "" →
    files (reclaimKeyPath dekFile environ) = some content → loadReclaimMasterKey dekFile environ files = .ok key
  worker : ∀ (environ : WorkerKeyEnv) unlinkFails files, environ.path ≠ "" →
    files environ.path = some content → (artifactDekBytes environ unlinkFails files).1 = .ok key
  agree : ∀ dekFile environ files (environ' : WorkerKeyEnv) unlinkFails files',
    reclaimKeyPath dekFile environ ≠ "" → environ'.path ≠ "" →
      files (reclaimKeyPath dekFile environ) = some content → files' environ'.path = some content →
        (loadReclaimMasterKey dekFile environ files).toOption =
          (artifactDekBytes environ' unlinkFails files').1.toOption
  kept : ∀ (environ : WorkerKeyEnv) unlinkFails files, environ.path ≠ "" → files environ.path = some content →
    (artifactDekBytes environ unlinkFails files).1.toOption = none →
      (artifactDekBytes environ unlinkFails files).2 environ.path = some content

variable {key content : List UInt8} {files : KeyFiles}

/-! ## One file -/

theorem loadReclaimMasterKey_toOption {dekFile environ : Option String} (hpath : reclaimKeyPath dekFile environ ≠ "")
    (hfile : files (reclaimKeyPath dekFile environ) = some content) :
    (loadReclaimMasterKey dekFile environ files).toOption = keyOfContent content := by
  rw [loadReclaimMasterKey, if_neg hpath, hfile]
  cases hkey : keyOfContent content <;> simp [hkey, Except.toOption]

theorem artifactDekBytes_toOption {environ : WorkerKeyEnv} (unlinkFails : String → Bool) (hpath : environ.path ≠ "")
    (hfile : files environ.path = some content) :
    (artifactDekBytes environ unlinkFails files).1.toOption = keyOfContent content := by
  rw [artifactDekBytes, if_pos hpath, hfile]
  cases hkey : keyOfContent content <;> simp [hkey, Except.toOption]

/-- The two sides make the same of every file. -/
theorem servesKey_of_keyOfContent (h : keyOfContent content = some key) : ServesKey key content where
  operator dekFile environ files hpath hfile :=
    OptionList.toOption_eq_some.mp ((loadReclaimMasterKey_toOption hpath hfile).trans h)
  worker environ unlinkFails files hpath hfile :=
    OptionList.toOption_eq_some.mp ((artifactDekBytes_toOption unlinkFails hpath hfile).trans h)
  agree dekFile environ files environ' unlinkFails files' hpath hpath' hfile hfile' :=
    (loadReclaimMasterKey_toOption hpath hfile).trans (artifactDekBytes_toOption unlinkFails hpath' hfile').symm
  kept environ unlinkFails files hpath hfile hnone := by
    rw [artifactDekBytes_toOption unlinkFails hpath hfile, h] at hnone
    contradiction

theorem servesKey_iff_keyOfContent : ServesKey key content ↔ keyOfContent content = some key := by
  refine ⟨fun h => ?_, servesKey_of_keyOfContent⟩
  have hpath : reclaimKeyPath (some "key") none ≠ "" := by decide
  rw [← @loadReclaimMasterKey_toOption content (fun _ => some content) _ _ hpath rfl,
    h.operator (some "key") none (fun _ => some content) hpath rfl]
  rfl

/-! ## The forms of a key -/

theorem keyOfContent_raw (hlength : key.length = 32) :
    keyOfContent key = some key ↔
      (∀ b ∈ key.head?, Bytes.isSpace b = false) ∧ ∀ b ∈ key.getLast?, Bytes.isSpace b = false := by
  have hle := (List.trim_sublist Bytes.isSpace key).length_le
  have hshort : (key.trim Bytes.isSpace).length ≠ 64 := by omega
  rw [← List.trim_eq_self_iff, keyOfContent, Bytes.strip]
  simp only [if_neg hshort]
  constructor
  · intro h
    split at h
    · contradiction
    · exact Option.some.inj h
  · intro h
    rw [h, if_neg (not_not_intro hlength)]

theorem keyOfContent_hex (hlength : key.length = 32) (htext : Bytes.Spells text key)
    (hnewline : newline = [] ∨ newline = [10]) : keyOfContent (text ++ newline) = some key := by
  have htextLength := htext.length
  rw [hlength] at htextLength
  have hne : text ≠ [] := by
    rintro rfl
    contradiction
  have hself : text.trim Bytes.isSpace = text := by
    refine List.trim_eq_self_iff.mpr ⟨fun b hb => ?_, fun b hb => ?_⟩
    · exact (htext.digits b (List.mem_of_head? hb)).1
    · exact (htext.digits b (List.mem_of_getLast? hb)).1
  have hblank : ∀ b ∈ newline, Bytes.isSpace b = true := by
    obtain rfl | rfl := hnewline
    · exact fun b hb => absurd hb List.not_mem_nil
    · intro b hb
      obtain rfl := List.mem_singleton.mp hb
      rfl
  have hascii : text.all (· < 128) = true :=
    List.all_eq_true.mpr fun b hb => decide_eq_true (htext.digits b hb).2
  have hkey : fromHexAscii text = some key := by
    rw [fromHexAscii, if_pos hascii, htext.fromHex]
  rw [keyOfContent, Bytes.strip, List.trim_append hself hne hblank]
  simp [htextLength, hkey, hlength]

/-- A file in one of the forms serves both sides exactly when it is not a raw key with a blank at one end. -/
theorem servesKey_iff (hlength : key.length = 32) (hstored : StoredKey key content) :
    ServesKey key content ↔ (content = key →
      (∀ b ∈ key.head?, Bytes.isSpace b = false) ∧ ∀ b ∈ key.getLast?, Bytes.isSpace b = false) := by
  rw [servesKey_iff_keyOfContent]
  cases hstored with
  | raw =>
    rw [keyOfContent_raw hlength]
    exact ⟨fun h _ => h, fun h => h rfl⟩
  | hex htext hnewline =>
    refine iff_of_true (keyOfContent_hex hlength htext hnewline) fun hsame => ?_
    have htextLength := htext.length
    have hlengths := congrArg List.length hsame
    rw [List.length_append] at hlengths
    omega

theorem servesKey_iff_plain : ServesKey (List.replicate 32 65) (List.replicate 32 65) :=
  (servesKey_iff rfl .raw).mpr fun _ =>
    ⟨fun _ hb => Option.some.inj hb ▸ rfl, fun _ hb => Option.some.inj hb ▸ rfl⟩

/-- A raw key that begins with a newline -/
def newlineKey : List UInt8 := 10 :: List.replicate 31 65

theorem not_servesKey_newline : newlineKey.length = 32 ∧ StoredKey newlineKey newlineKey ∧
    ¬ ServesKey newlineKey newlineKey := by
  refine ⟨rfl, .raw, fun h => ?_⟩
  exact absurd (servesKey_iff_keyOfContent.mp h) (by decide)

end Gpucall
