import Gpucall.Config.Fingerprint
import Gpucall.Routing.ValidationEvidence

/-! What the digest of a configuration directory tells the router of `validation_evidence.py`: which
directories it tells apart, whatever the order in which a directory is enumerated, and which changes of a
directory end the evidence that was recorded for it. -/

namespace Gpucall

/-! ## Enumerations -/

/-- `rglob("*.yml")` comes to each entry that it matches once, in some order. -/
structure ConfigTree.Globs (tree : ConfigTree) (entries : List (List String × ConfigEntry)) : Prop where
  nodup : entries.Nodup
  mem_iff : ∀ path entry, (path, entry) ∈ entries ↔ isYml path = true ∧ tree.lookup path = some entry

/-- `route_validation_config_hash` of a directory that is there, over what `rglob` yields. -/
def globbedConfigHash (sha256 : List ℕ → String) (entries : List (List String × ConfigEntry)) :
    Option String :=
  (digestBytes (fun entry => !entry.2.isFile || routeValidationHashExcluded (asPosix entry.1))
    (entries.insertionSort fun entry entry' => entry.1 ≤ entry'.1)).map sha256

theorem ConfigTree.Globs.perm {tree : ConfigTree} {entries : List (List String × ConfigEntry)}
    (h : tree.Globs entries) : entries.Perm (tree.listing isYml) := by
  have hnodup : (tree.listing isYml).Nodup :=
    (tree.listing_pairwise isYml).imp fun hlt heq => absurd hlt (by rw [heq]; exact lt_irrefl _)
  refine (List.perm_ext_iff_of_nodup h.nodup hnodup).mpr ?_
  rintro ⟨path, entry⟩
  rw [h.mem_iff, FileTree.mem_listing]

/-- The order of the enumeration does not matter. -/
theorem ConfigTree.Globs.configHash {sha256 : List ℕ → String} {tree : ConfigTree}
    {entries : List (List String × ConfigEntry)} (h : tree.Globs entries) :
    globbedConfigHash sha256 entries = routeValidationConfigHash sha256 (some tree) := by
  rw [globbedConfigHash, FileTree.insertionSort_eq_listing h.perm, routeValidationConfigHash]

/-! ## Directories -/

/-- A configuration directory: the paths are made of file names, and the files that the digest covers can
be read and have no NUL in them. -/
structure ConfigDirectory where
  tree : ConfigTree
  named : tree.Named
  readable : ∀ path entry, isHashed path = true → tree.lookup path = some entry → entry.isFile = true →
    entry.bytes.isSome = true
  texts : tree.YamlTexts

namespace ConfigDirectory

/-- The directory after a file without NUL was written. -/
def write (dir : ConfigDirectory) (path : List String) (contents : List ℕ)
    (hpath : ∀ name ∈ path, IsFileName name) (hcontents : 0 ∉ contents) : ConfigDirectory where
  tree := dir.tree.insert path { bytes := some contents }
  named := named_insert dir.named hpath
  readable other entry hhashed hlookup hfile := by
    by_cases hother : other = path
    · rw [hother, Finmap.lookup_insert] at hlookup
      obtain rfl := Option.some.inj hlookup
      rfl
    · rw [Finmap.lookup_insert_of_ne _ hother] at hlookup
      exact dir.readable other entry hhashed hlookup hfile
  texts other text hmem := by
    obtain ⟨hhashed, hlookup⟩ := mem_hashedFiles.mp hmem
    by_cases hother : other = path
    · rw [hother, Finmap.lookup_insert] at hlookup
      cases hlookup
      exact hcontents
    · rw [Finmap.lookup_insert_of_ne _ hother] at hlookup
      exact dir.texts other text (mem_hashedFiles.mpr ⟨hhashed, hlookup⟩)

/-- Each path that the digest covers has the same file in both directories, or a file in neither. -/
def SameFiles (dir dir' : ConfigDirectory) : Prop :=
  ∀ path contents, isHashed path = true → (dir.tree.lookup path = some { bytes := some contents } ↔
    dir'.tree.lookup path = some { bytes := some contents })

variable {sha256 : List ℕ → String} {dir dir' : ConfigDirectory}

theorem exists_configHash (sha256 : List ℕ → String) (dir : ConfigDirectory) :
    ∃ digest, routeValidationConfigHash sha256 (some dir.tree) = some digest := by
  refine ⟨_, routeValidationConfigHash_eq_some.mpr ⟨?_, rfl⟩⟩
  rintro ⟨path, entry⟩ hentry hskip
  obtain ⟨hyml, hlookup⟩ := FileTree.mem_listing.mp hentry
  simp only [routeSkip, Bool.or_eq_false_iff, Bool.not_eq_false'] at hskip
  obtain ⟨hfile, hexcluded⟩ := hskip
  have hhashed : isHashed path = true := by simp [isHashed, hyml, hexcluded]
  exact dir.readable path entry hhashed hlookup hfile

theorem configHash_eq_iff (hsha : Function.Injective sha256) :
    routeValidationConfigHash sha256 (some dir.tree) = routeValidationConfigHash sha256 (some dir'.tree) ↔
      dir.SameFiles dir' := by
  obtain ⟨digest, hdigest⟩ := dir.exists_configHash sha256
  obtain ⟨digest', hdigest'⟩ := dir'.exists_configHash sha256
  rw [hdigest, hdigest', Option.some_inj, routeValidationConfigHash_eq_iff hsha dir.named dir'.named
    hdigest hdigest' fun path contents contents' hmem hmem' _ =>
      ⟨dir.texts path contents hmem, dir'.texts path contents' hmem'⟩]
  exact hashedFiles_eq_iff

end ConfigDirectory

/-! ## Changes of a directory -/

/-- A change of one file that succeeds. Writing adds the file or replaces what was at its path. -/
inductive FileChange where
  | write (path : List String) (contents : List ℕ)
  | remove (path : List String)
  | rename (path target : List String)

namespace FileChange

def apply (tree : ConfigTree) : FileChange → ConfigTree
  | write path contents => tree.insert path { bytes := some contents }
  | remove path => tree.erase path
  | rename path target =>
    match tree.lookup path with
    | some { isFile := true, bytes } => (tree.erase path).insert target { bytes }
    | _ => tree

/-- The change adds, edits, removes or renames a file that the digest covers. -/
inductive Affects (tree : ConfigTree) : FileChange → Prop where
  | written {path contents} (hashed : isHashed path = true)
    (new : tree.lookup path ≠ some { bytes := some contents }) : Affects tree (write path contents)
  | removed {path contents} (hashed : isHashed path = true)
    (there : tree.lookup path = some { bytes := some contents }) : Affects tree (remove path)
  | renamed {path target contents} (hashed : isHashed path = true)
    (there : tree.lookup path = some { bytes := some contents }) (moved : path ≠ target) :
    Affects tree (rename path target)
  | replaced {path target contents} (hashed : isHashed target = true)
    (there : tree.lookup path = some { bytes := some contents })
    (new : tree.lookup target ≠ some { bytes := some contents }) : Affects tree (rename path target)

variable {dir dir' : ConfigDirectory} {change : FileChange}

theorem lookup_rename {tree : ConfigTree} {path target : List String} {bytes : Option (List ℕ)}
    (h : tree.lookup path = some { bytes }) (other : List String) :
    (apply tree (rename path target)).lookup other =
      if other = target then some { bytes } else if other = path then none else tree.lookup other := by
  simp only [apply, h]
  by_cases htarget : other = target
  · rw [if_pos htarget, htarget, Finmap.lookup_insert]
  · rw [if_neg htarget, Finmap.lookup_insert_of_ne _ htarget]
    by_cases hpath : other = path
    · rw [if_pos hpath, hpath, Finmap.lookup_erase]
    · rw [if_neg hpath, Finmap.lookup_erase_ne hpath]

theorem Affects.not_sameFiles (h : change.Affects dir.tree) (happly : dir'.tree = change.apply dir.tree) :
    ¬dir.SameFiles dir' := by
  intro hsame
  unfold ConfigDirectory.SameFiles at hsame
  rw [happly] at hsame
  cases h with
  | @written path contents hashed new =>
    exact new ((hsame path contents hashed).mpr (Finmap.lookup_insert _))
  | @removed path contents hashed there =>
    have hgone := (hsame path contents hashed).mp there
    rw [apply, Finmap.lookup_erase] at hgone
    cases hgone
  | @renamed path target contents hashed there moved =>
    have hgone := (hsame path contents hashed).mp there
    rw [lookup_rename there, if_neg moved, if_pos rfl] at hgone
    cases hgone
  | @replaced path target contents hashed there new =>
    refine new ((hsame target contents hashed).mpr ?_)
    rw [lookup_rename there, if_pos rfl]

theorem sameFiles_of_not_affects (h : ¬change.Affects dir.tree)
    (happly : dir'.tree = change.apply dir.tree) : dir.SameFiles dir' := by
  intro other contents hhashed
  cases change with
  | write path written =>
    by_cases hother : other = path
    · subst hother
      have hsame : dir.tree.lookup other = some { bytes := some written } := by
        by_contra hnew
        exact h (.written hhashed hnew)
      rw [happly, apply, FileTree.insert_eq_self_iff.mpr hsame]
    · rw [happly, apply, Finmap.lookup_insert_of_ne _ hother]
  | remove path =>
    by_cases hother : other = path
    · subst hother
      rw [happly, apply, Finmap.lookup_erase]
      exact iff_of_false (fun there => h (.removed hhashed there)) nofun
    · rw [happly, apply, Finmap.lookup_erase_ne hother]
  | rename path target =>
    cases hentry : dir.tree.lookup path with
    | none => rw [happly, apply, hentry]
    | some entry =>
      obtain ⟨isFile, bytes⟩ := entry
      cases isFile with
      | false => rw [happly, apply, hentry]
      | true =>
        rw [happly, lookup_rename hentry]
        by_cases htarget : other = target
        · subst htarget
          rw [if_pos rfl]
          -- what comes to a path that the digest covers can be read there
          have hmoved : dir'.tree.lookup other = some { bytes } := by
            rw [happly, lookup_rename hentry, if_pos rfl]
          obtain ⟨moved, rfl⟩ := Option.isSome_iff_exists.mp (dir'.readable _ _ hhashed hmoved rfl)
          have hsame : dir.tree.lookup other = some { bytes := some moved } := by
            by_contra hnew
            exact h (.replaced hhashed hentry hnew)
          rw [hsame]
        · rw [if_neg htarget]
          by_cases hpath : other = path
          · subst hpath
            rw [if_pos rfl, hentry]
            refine iff_of_false ?_ nofun
            rintro ⟨⟩
            exact h (.renamed hhashed hentry htarget)
          · rw [if_neg hpath]

theorem sameFiles_iff (happly : dir'.tree = change.apply dir.tree) :
    dir.SameFiles dir' ↔ ¬change.Affects dir.tree :=
  ⟨fun hsame haffects => haffects.not_sameFiles happly hsame, fun h => sameFiles_of_not_affects h happly⟩

end FileChange

variable {py : Builtins}

/-! ## Evidence -/

/-- The settings of the loader on a configuration directory. -/
def settingsOn (sha256 : List ℕ → String) (commit : Option String) (strict : Bool) (tree : ConfigTree) :
    ValidationSettings where
  expectedCommit := commit
  configDir := some (routeValidationConfigHash sha256 (some tree))
  strictConfigHash := strict

/-- An artifact that there is no reason to reject stays so under another digest only where digests do
not count. -/
theorem rejectionReason_of_hash {commit : Option String} {strict : Bool} {hash hash' : Option String}
    {data : Dict Json}
    (h : routeValidationRejectionReason py ⟨commit, some hash, strict⟩ data = none) :
    routeValidationRejectionReason py ⟨commit, some hash', strict⟩ data = none ↔
      strict = false ∨ hash' = hash := by
  rw [routeValidationRejectionReason_eq_none] at h ⊢
  obtain ⟨hfields, hcommit, hhash, hcontent⟩ := h
  simp only [ValidationSettings.expectedConfigHash, Option.join_some, Option.isSome_some,
    forall_true_left] at hhash ⊢
  cases strict with
  | false => exact iff_of_true ⟨hfields, hcommit, nofun, hcontent⟩ (Or.inl rfl)
  | true =>
    obtain ⟨hknown, hhash⟩ := hhash rfl
    obtain ⟨digest, rfl⟩ := Option.ne_none_iff_exists'.mp hknown
    rw [equalsText_some] at hhash
    constructor
    · rintro ⟨-, -, hhash', -⟩
      obtain ⟨hknown', hhash'⟩ := hhash' rfl
      obtain ⟨digest', rfl⟩ := Option.ne_none_iff_exists'.mp hknown'
      rw [equalsText_some, hhash, Option.some_inj, Json.str.injEq] at hhash'
      exact Or.inr (congrArg some hhash'.symm)
    · rintro (hstrict | rfl)
      · cases hstrict
      · exact ⟨hfields, hcommit, fun _ => ⟨hknown, equalsText_some.mpr hhash⟩, hcontent⟩

/-- Where digests count, the reason is the digest. -/
theorem rejectionReason_of_ne {commit hash : Option String} {digest' : String} {data : Dict Json}
    (h : routeValidationRejectionReason py ⟨commit, some hash, true⟩ data = none)
    (hne : some digest' ≠ hash) :
    routeValidationRejectionReason py ⟨commit, some (some digest'), true⟩ data =
      some "validation_config_hash_mismatch" := by
  obtain ⟨hfields, hcommit, hhash, -⟩ := routeValidationRejectionReason_eq_none.mp h
  have hmissing : (requiredValidationFields.filter fun field => (data.get? field).isNone) = [] :=
    List.filter_eq_nil_iff.mpr fun field hfield => by simpa using hfields field hfield
  have hagrees : (commit.isSome && !equalsText py (data.get? "commit") commit) = false := by
    cases commit with
    | none => rfl
    | some commit => simp [hcommit commit rfl]
  have hdiffers : equalsText py (data.get? "config_hash") (some digest') = false := by
    obtain ⟨hknown, hequal⟩ := hhash rfl rfl
    obtain ⟨digest, hdigest⟩ := Option.ne_none_iff_exists'.mp hknown
    rw [hdigest, equalsText_some] at hequal
    refine eq_false_of_ne_true fun hequal' => hne ?_
    rw [equalsText_some, hequal, Option.some_inj, Json.str.injEq] at hequal'
    rw [← hequal', ← hdigest]
    rfl
  simp [routeValidationRejectionReason, hmissing, hagrees, hdiffers,
    ValidationSettings.expectedConfigHash]

/-- A key that is accepted stays so under another digest only where digests do not count. -/
theorem statusAccepted_of_hash {commit : Option String} {strict : Bool} {hash hash' : Option String}
    {files : List ValidationFile} {key : RouteValidationKey}
    (h : StatusAccepted py ⟨commit, some hash, strict⟩ files key) :
    StatusAccepted py ⟨commit, some hash', strict⟩ files key ↔ strict = false ∨ hash' = hash := by
  rw [statusAccepted_iff_latestFor] at h ⊢
  obtain ⟨file, hfile, data, hdata, hpasses⟩ := h
  have hsame : (∃ file', latestFor py files key = some file' ∧
      file'.Passes py ⟨commit, some hash', strict⟩) ↔
      routeValidationRejectionReason py ⟨commit, some hash', strict⟩ data = none := by
    simp [ValidationFile.Passes, hfile, hdata]
  rw [hsame]
  exact rejectionReason_of_hash hpasses

theorem lookup_policyTree {path : List String} {entry : ConfigEntry}
    (h : policyTree.lookup path = some entry) :
    path = ["policy.yml"] ∧ entry = { bytes := some (utf8 "version: 1\n") } := by
  have hpath : path = ["policy.yml"] := (Finmap.mem_singleton ..).mp (Finmap.mem_of_lookup_eq_some h)
  subst hpath
  exact ⟨rfl, Option.some.inj (h.symm.trans Finmap.lookup_singleton_eq)⟩

theorem named_policyTree : policyTree.Named := by
  intro path entry hlookup name hname
  obtain ⟨rfl, -⟩ := lookup_policyTree hlookup
  obtain rfl := List.mem_singleton.mp hname
  exact ⟨by decide, by decide, by decide⟩

theorem yamlTexts_policyTree : policyTree.YamlTexts := by
  intro path contents hmem
  obtain ⟨-, hentry⟩ := lookup_policyTree (mem_hashedFiles.mp hmem).2
  cases hentry
  exact zero_notMem_utf8 (by decide)

/-- The directory of `policyTree`. -/
def policyDirectory : ConfigDirectory where
  tree := policyTree
  named := named_policyTree
  readable path entry _ hlookup _ := by
    obtain ⟨-, rfl⟩ := lookup_policyTree hlookup
    rfl
  texts := yamlTexts_policyTree

/-- The digest of a directory tells which files it covers: two directories have one digest exactly when
they have the same files, in whatever order they are enumerated. With other files the digest is the reason
to reject what was recorded, and what is accepted stays so exactly with the same files: a change of one
file ends it exactly when it affects one that the digest covers. -/
theorem configHash_identifies (py : Builtins) (sha256 : List ℕ → String)
    (hsha : Function.Injective sha256) (dir dir' : ConfigDirectory) :
    (∃ digest, routeValidationConfigHash sha256 (some dir.tree) = some digest) ∧
    (∀ entries, dir.tree.Globs entries →
      globbedConfigHash sha256 entries = routeValidationConfigHash sha256 (some dir.tree)) ∧
    (routeValidationConfigHash sha256 (some dir.tree) = routeValidationConfigHash sha256 (some dir'.tree) ↔
      dir.SameFiles dir') ∧
    (∀ commit data, routeValidationRejectionReason py (settingsOn sha256 commit true dir.tree) data = none →
      ¬dir.SameFiles dir' →
      routeValidationRejectionReason py (settingsOn sha256 commit true dir'.tree) data =
        some "validation_config_hash_mismatch") ∧
    ∀ commit files key, StatusAccepted py (settingsOn sha256 commit true dir.tree) files key →
      (StatusAccepted py (settingsOn sha256 commit true dir'.tree) files key ↔ dir.SameFiles dir') ∧
      ∀ change : FileChange, dir'.tree = change.apply dir.tree →
        (StatusAccepted py (settingsOn sha256 commit true dir'.tree) files key ↔
          ¬change.Affects dir.tree) := by
  refine ⟨dir.exists_configHash sha256, fun entries hentries => hentries.configHash,
    ConfigDirectory.configHash_eq_iff hsha, fun commit data hnone hother => ?_,
    fun commit files key haccepted => ?_⟩
  · obtain ⟨digest', hdigest'⟩ := dir'.exists_configHash sha256
    rw [settingsOn, hdigest']
    refine rejectionReason_of_ne hnone fun hsame => hother ?_
    rw [← ConfigDirectory.configHash_eq_iff hsha, hdigest', hsame]
  · have hkept : StatusAccepted py (settingsOn sha256 commit true dir'.tree) files key ↔
        dir.SameFiles dir' := by
      rw [settingsOn, statusAccepted_of_hash haccepted, ← ConfigDirectory.configHash_eq_iff hsha]
      exact (or_iff_right nofun).trans eq_comm
    exact ⟨hkept, fun change happly => hkept.trans (FileChange.sameFiles_iff happly)⟩

/-- Credentials beside the policy do not change its digest, a recipe does. -/
theorem configHash_identifies_policy :
    routeValidationConfigHash unaryDigest (some (policyTree.insert ["credentials.yml"]
        { bytes := some [] })) = routeValidationConfigHash unaryDigest (some policyTree) ∧
      routeValidationConfigHash unaryDigest (some (policyTree.insert ["recipes", "draft.yml"]
        { bytes := some [] })) ≠ routeValidationConfigHash unaryDigest (some policyTree) := by
  have hname : ∀ name ∈ ["credentials.yml", "recipes", "draft.yml"], IsFileName name := by
    intro name hname
    simp only [List.mem_cons, List.not_mem_nil, or_false] at hname
    obtain rfl | rfl | rfl := hname <;> exact ⟨by decide, by decide, by decide⟩
  let credentials := policyDirectory.write ["credentials.yml"] [] (by simp [hname]) List.not_mem_nil
  let recipe := policyDirectory.write ["recipes", "draft.yml"] [] (by simp [hname]) List.not_mem_nil
  constructor
  · refine (configHash_identifies artifactBuiltins unaryDigest unaryDigest_injective credentials
      policyDirectory).2.2.1.mpr fun path contents hhashed => ?_
    have hother : path ≠ ["credentials.yml"] := by
      rintro rfl
      revert hhashed
      decide
    exact iff_of_eq (congrArg (· = _) (Finmap.lookup_insert_of_ne _ hother))
  · intro heq
    have hsame := (configHash_identifies artifactBuiltins unaryDigest unaryDigest_injective recipe
      policyDirectory).2.2.1.mp heq ["recipes", "draft.yml"] [] (by decide)
    obtain ⟨hpath, -⟩ := lookup_policyTree (hsame.mp (Finmap.lookup_insert _))
    revert hpath
    decide

end Gpucall
